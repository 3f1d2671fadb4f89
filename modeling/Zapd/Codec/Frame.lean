import Zapd.Base.Reader

/-! The router envelope: its fields, its encoding, and the two decoders that share one body. -/

namespace Zapd

open Utf8 Parse

/-- The kinds of failure the program reports or tells apart. -/
inductive ErrorKind
  | unexpectedEof
  | invalidData
  | addrInUse
  | permissionDenied
  | timedOut
  | connectionReset
  | notFound
  | alreadyExists
  | other
  deriving DecidableEq, Repr

/-- A failure: its kind and its text. -/
structure Error where
  kind : ErrorKind
  text : String
  deriving DecidableEq, Repr

def HELLO : UInt8 := 1
def WELCOME : UInt8 := 2
def PROVIDERS_LIST : UInt8 := 3
def PROVIDERS : UInt8 := 4
def PEER_CONNECTED : UInt8 := 5
def PEER_DISCONNECTED : UInt8 := 6
def ERROR : UInt8 := 7
def AUTH : UInt8 := 8
def ROUTE : UInt8 := 16
def RESPONSE : UInt8 := 17
def EVENT : UInt8 := 18

/-- Bytes of a frame before its sections: type, flags, and the three section lengths. -/
def HEADER : Nat := 1 + 2 + 2 + 2 + 4

/-- The longest frame body a reader accepts. -/
def MAX_FRAME : Nat := 64 * 1024 * 1024

/-- A parsed envelope. The payload is opaque to the router. -/
structure Frame where
  typ : UInt8
  flags : UInt16
  from_ : String
  to_ : String
  payload : Bytes
  deriving DecidableEq, Repr

/-- A frame without flags. -/
def Frame.new (typ : UInt8) (from_ to_ : String) (payload : Bytes) : Frame :=
  { typ, flags := 0, from_, to_, payload }

/-- The little-endian bytes of a 16-bit number. -/
def le16 (value : UInt16) : Bytes := leBytes 2 value.toNat

/-- The little-endian bytes of a 32-bit number. -/
def le32 (value : UInt32) : Bytes := leBytes 4 value.toNat

/-- The length of a frame's body, before any cast. -/
def Frame.bodyLength (f : Frame) : Nat :=
  HEADER + (asBytes f.from_).length + (asBytes f.to_).length + f.payload.length

/-- Serialize to the wire. Every length is cast to its field, and the full sections follow. -/
def Frame.encode (f : Frame) : Bytes :=
  le32 f.bodyLength.toUInt32 ++
  [f.typ] ++
  le16 f.flags ++
  -- Each section's length, cut to the width of its field.
  le16 (asBytes f.from_).length.toUInt16 ++
  le16 (asBytes f.to_).length.toUInt16 ++
  le32 f.payload.length.toUInt32 ++
  -- The sections themselves are never cut.
  asBytes f.from_ ++
  asBytes f.to_ ++
  f.payload

/-- The bounds-checked reader of bodies; its state is the bytes not yet taken. -/
abbrev Cursor := Reader Error

namespace Cursor

def truncated : Error := ⟨.invalidData, "zapd: truncated frame"⟩

def take (count : Nat) : Cursor Bytes := Parse.take truncated count

def u8 : Cursor UInt8 := do return (← take 1).headD 0

def u16 : Cursor UInt16 := do return UInt16.ofNat (ofLe (← take 2))

def u32 : Cursor UInt32 := do return UInt32.ofNat (ofLe (← take 4))

def string (count : Nat) : Cursor String := do return fromUtf8Lossy (← take count)

/-- A string behind its 16-bit length, as control bodies carry it. -/
def str : Cursor String := do
  let n ← u16
  string n.toNat

/-- Refuse trailing bytes: a control body is exactly its fields. -/
def finish : Cursor Unit := fun rest =>
  if rest.isEmpty then .ok ((), rest)
  else .error ⟨.invalidData, "zapd: trailing bytes in control body"⟩

end Cursor

/-- The fields of a body, in order. -/
def Frame.fields : Cursor Frame := do
  let typ ← Cursor.u8
  let flags ← Cursor.u16
  let fromLen ← Cursor.u16
  let toLen ← Cursor.u16
  let payLen ← Cursor.u32
  -- The sections follow the lengths, in the same order.
  let from_ ← Cursor.string fromLen.toNat
  let to_ ← Cursor.string toLen.toNat
  let payload ← Cursor.take payLen.toNat
  return { typ, flags, from_, to_, payload }

def disagrees : Error := ⟨.invalidData, "zapd: frame length disagrees with its fields"⟩

/-- A whole body: its fields and nothing after them. -/
def Frame.body (buf : Bytes) : Except Error Frame :=
  match Frame.fields buf with
  | .error e => .error e
  | .ok (f, rest) => if rest.isEmpty then .ok f else .error disagrees

def badLength : Error := ⟨.invalidData, "zapd: bad frame length"⟩

/-- A stream that ends inside what was asked of it. -/
def earlyEof : Error := ⟨.unexpectedEof, "early eof"⟩

/--
Read one frame off a stream that holds these bytes and then ends, with the bytes left.

The end of the stream inside the length prefix is reported as a clean end.
-/
def Frame.read (stream : Bytes) : Except Error (Option (Frame × Bytes)) :=
  if stream.length < 4 then .ok none
  else
    let len := ofLe (stream.take 4)
    -- The length is checked before any of the body is awaited.
    if len > MAX_FRAME ∨ len < HEADER then .error badLength
    else
      let rest := stream.drop 4
      if rest.length < len then .error earlyEof
      else
        match Frame.body (rest.take len) with
        | .error e => .error e
        | .ok f => .ok (some (f, rest.drop len))

def notWhole : Error := ⟨.invalidData, "zapd: not one whole frame"⟩

/-- Decode exactly one whole frame, length prefix included. -/
def Frame.decode (b : Bytes) : Except Error Frame :=
  if b.length < 4 then .error notWhole
  else
    let n := ofLe (b.take 4)
    -- Nothing may be missing, and nothing may trail.
    if n + 4 = b.length ∧ n ≥ HEADER ∧ n ≤ MAX_FRAME then Frame.body (b.drop 4)
    else .error notWhole

/-- The sections fit their length fields and the body fits the limit. -/
structure Frame.Fits (f : Frame) : Prop where
  source : (asBytes f.from_).length < 2 ^ 16
  destination : (asBytes f.to_).length < 2 ^ 16
  size : f.bodyLength ≤ MAX_FRAME

instance (f : Frame) : Decidable f.Fits :=
  decidable_of_iff ((asBytes f.from_).length < 2 ^ 16 ∧ (asBytes f.to_).length < 2 ^ 16 ∧
    f.bodyLength ≤ MAX_FRAME) ⟨fun ⟨a, b, c⟩ => ⟨a, b, c⟩, fun ⟨a, b, c⟩ => ⟨a, b, c⟩⟩

end Zapd
