import Zapd.Codec.Frame

/-! The router's own control bodies: descriptors, provider lists, brand filters and peer ids. -/

namespace Zapd

open Utf8 Parse

/-- A string behind its 16-bit length. -/
def putStr (s : String) : Bytes := le16 (asBytes s).length.toUInt16 ++ asBytes s

/-- Items behind their 16-bit count. -/
def putAll {α : Type} (put : α → Bytes) (items : List α) : Bytes :=
  le16 items.length.toUInt16 ++ items.flatMap put

/-- As many items as the 16-bit count before them says. -/
def takeAll {α : Type} (item : Cursor α) : Cursor (List α) := do
  let count ← Cursor.u16
  times count.toNat item

/-- What a node says about itself. -/
structure Descriptor where
  role : UInt8
  brand : String
  caps : List String
  attrs : List (String × String)
  deriving DecidableEq, Repr

/-- A key and its value. -/
def putAttr (attr : String × String) : Bytes := putStr attr.1 ++ putStr attr.2

def Descriptor.put (d : Descriptor) : Bytes :=
  [d.role] ++
  putStr d.brand ++
  putAll putStr d.caps ++
  putAll putAttr d.attrs

def takeAttr : Cursor (String × String) := do
  let k ← Cursor.str
  let v ← Cursor.str
  return (k, v)

def Descriptor.take : Cursor Descriptor := do
  let role ← Cursor.u8
  let brand ← Cursor.str
  let caps ← takeAll Cursor.str
  let attrs ← takeAll takeAttr
  return { role, brand, caps, attrs }

def encodeHello (d : Descriptor) : Bytes := d.put

/-- Run a reader over a control body and require that it took all of it. -/
def wholeBody {α : Type} (reader : Cursor α) (payload : Bytes) : Except Error α :=
  match reader payload with
  | .error e => .error e
  | .ok (value, rest) =>
    match Cursor.finish rest with
    | .error e => .error e
    | .ok _ => .ok value

def decodeHello (payload : Bytes) : Except Error Descriptor := wholeBody Descriptor.take payload

/-- One node in a provider list. -/
structure Entry where
  id : String
  desc : Descriptor
  deriving DecidableEq, Repr

def Entry.put (e : Entry) : Bytes := putStr e.id ++ e.desc.put

def Entry.take : Cursor Entry := do
  let id ← Cursor.str
  let desc ← Descriptor.take
  return { id, desc }

def encodeProviders (entries : List Entry) : Bytes := putAll Entry.put entries

def decodeProviders (payload : Bytes) : Except Error (List Entry) :=
  wholeBody (takeAll Entry.take) payload

/-- The brand a list request asks for; empty asks for every node. -/
def decodeBrandFilter (payload : Bytes) : String :=
  if payload.isEmpty then ""
  else
    match Cursor.str payload with
    | .ok (brand, _) => brand
    | .error _ => ""

/-- The body of a presence frame: one peer id. -/
def encodePeer (id : String) : Bytes := putStr id

end Zapd
