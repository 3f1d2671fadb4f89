import Zapd.Codec.FrameLaws

/-! The envelope's grammar, and the frames that are read off a stream one after another. -/

namespace Zapd

open Utf8 Parse

/-- A message laid out as the envelope's table says: its numbers and sections of those sizes. -/
structure Envelope where
  n : UInt32
  typ : UInt8
  flags : UInt16
  fromLen : UInt16
  toLen : UInt16
  payLen : UInt32
  source : Bytes
  destination : Bytes
  payload : Bytes
  sourceLength : source.length = fromLen.toNat
  destinationLength : destination.length = toLen.toNat
  payloadLength : payload.length = payLen.toNat
  -- The outer length is that of the header and the sections, within the limit.
  agrees : n.toNat = 11 + fromLen.toNat + toLen.toNat + payLen.toNat
  bounded : n.toNat ≤ MAX_FRAME

namespace Envelope

/-- The fields in their order on the wire, and nothing after them. -/
def bytes (m : Envelope) : Bytes :=
  le32 m.n ++ [m.typ] ++ le16 m.flags ++ le16 m.fromLen ++ le16 m.toLen ++ le32 m.payLen ++
    (m.source ++ m.destination ++ m.payload)

/-- The frame that carries the fields. -/
def frame (m : Envelope) : Frame :=
  { typ := m.typ, flags := m.flags, from_ := fromUtf8Lossy m.source,
    to_ := fromUtf8Lossy m.destination, payload := m.payload }

/-- Both addresses are text as they stand. -/
structure Textual (m : Envelope) : Prop where
  source : Valid m.source
  destination : Valid m.destination

/-- A message is its outer length and as many bytes as that says. -/
theorem bytes_length (m : Envelope) : m.bytes.length = 4 + m.n.toNat := by
  simp only [bytes, List.length_append, le32_length, le16_length, List.length_singleton,
    m.sourceLength, m.destinationLength, m.payloadLength, m.agrees]
  omega

/-- The body behind the length prefix. -/
def body (m : Envelope) : Bytes := layout m.typ m.flags m.source m.destination m.payload

theorem body_length (m : Envelope) : m.body.length = m.n.toNat := by
  rw [body, layout_length, m.sourceLength, m.destinationLength, m.payloadLength, m.agrees, HEADER]

/-- A message is its body behind the body's own length. -/
theorem bytes_eq (m : Envelope) : m.bytes = le32 m.body.length.toUInt32 ++ m.body := by
  -- Each stated length is that of what it is stated of.
  rw [eq_toUInt32 m.body_length, body, layout, eq_toUInt16 m.sourceLength,
    eq_toUInt16 m.destinationLength, eq_toUInt32 m.payloadLength]
  simp [bytes]

theorem framed (m : Envelope) : Framed m.bytes m.body := by
  have least := m.agrees
  have most := m.bounded
  -- The bounds on the outer length are those on the body.
  rw [← m.body_length] at least most
  exact ⟨m.bytes_eq, by rw [HEADER]; omega, most⟩

/-- A message that follows the grammar is decoded as the frame it carries. -/
theorem decode_bytes (m : Envelope) : Frame.decode m.bytes = .ok m.frame :=
  decode_ok.mpr ⟨m.body, m.framed, body_ok.mpr ⟨m.source, m.destination,
    m.sourceLength ▸ m.fromLen.toNat_lt, m.destinationLength ▸ m.toLen.toNat_lt,
    m.payloadLength ▸ m.payLen.toNat_lt, rfl, rfl, rfl⟩⟩

/-- What is decoded followed the grammar. -/
theorem of_decode {b : Bytes} {f : Frame} (decoded : Frame.decode b = .ok f) :
    ∃ m : Envelope, m.bytes = b ∧ m.frame = f := by
  obtain ⟨body, ⟨rfl, least, most⟩, parsed⟩ := decode_ok.mp decoded
  obtain ⟨source, destination, sourceFits, destinationFits, payloadFits, rfl, named, addressed⟩ :=
    body_ok.mp parsed
  rw [layout_length] at most
  have room : HEADER + source.length + destination.length + f.payload.length < 2 ^ 32 := by
    simp only [MAX_FRAME] at most
    omega
  -- Every length fits its field, so the fields state the true lengths.
  let m : Envelope :=
    { n := (HEADER + source.length + destination.length + f.payload.length).toUInt32
      typ := f.typ
      flags := f.flags
      fromLen := source.length.toUInt16
      toLen := destination.length.toUInt16
      payLen := f.payload.length.toUInt32
      source, destination
      payload := f.payload
      sourceLength := (toNat_toUInt16 sourceFits).symm
      destinationLength := (toNat_toUInt16 destinationFits).symm
      payloadLength := (toNat_toUInt32 payloadFits).symm
      agrees := by
        rw [toNat_toUInt32 room, toNat_toUInt16 sourceFits, toNat_toUInt16 destinationFits,
          toNat_toUInt32 payloadFits, HEADER]
      bounded := by rwa [toNat_toUInt32 room] }
  refine ⟨m, m.bytes_eq, ?_⟩
  obtain ⟨typ, flags, from_, to_, payload⟩ := f
  simp only at named addressed
  rw [named, addressed]
  rfl

/-- Encoding what a message carries gives the message back when its addresses are text. -/
theorem encode_frame {m : Envelope} (textual : m.Textual) : m.frame.encode = m.bytes := by
  have source := asBytes_fromUtf8Lossy.mpr textual.source
  have destination := asBytes_fromUtf8Lossy.mpr textual.destination
  -- Both addresses are written as they were read, so the lengths are the stated ones too.
  have length : m.frame.bodyLength = m.body.length := by
    rw [Frame.bodyLength, body, layout_length]
    simp only [frame, source, destination]
  rw [encode_eq_layout, length, m.bytes_eq]
  simp only [frame, source, destination, body]

end Envelope

/-- Decoding what was encoded gives the frame back when it fits, and an error otherwise. -/
theorem decode_encode_total (f : Frame) :
    if (asBytes f.from_).length ≤ 65535 ∧ (asBytes f.to_).length ≤ 65535 ∧
        11 + (asBytes f.from_).length + (asBytes f.to_).length + f.payload.length ≤ MAX_FRAME then
      Frame.decode f.encode = .ok f
    else ∃ e, Frame.decode f.encode = .error e := by
  split
  · rename_i bounds
    obtain ⟨source, destination, size⟩ := bounds
    exact decode_encode ⟨by omega, by omega, size⟩
  · rename_i exceeds
    cases decoded : Frame.decode f.encode with
    | error e => exact ⟨e, rfl⟩
    | ok g =>
      -- Only a frame that fits is decoded at all.
      obtain ⟨fits, _⟩ := decode_encode_ok.mp decoded
      have source := fits.source
      have destination := fits.destination
      exact absurd ⟨by omega, by omega, fits.size⟩ exceeds

/--
The decoder accepts exactly the messages of the grammar, as the frames they carry.

A message with text for addresses is the encoding of its frame, so it is the only such message.
-/
theorem decode_accepts_grammar :
    (∀ b f, Frame.decode b = .ok f ↔
      ∃ m : Envelope, b = m.bytes ∧ b.length = 4 + m.n.toNat ∧ f = m.frame) ∧
    (∀ m : Envelope, m.Textual → m.frame.encode = m.bytes) ∧
    (∀ m m' : Envelope, m.Textual → m'.Textual → m.frame = m'.frame → m.bytes = m'.bytes) := by
  refine ⟨fun b f => ⟨fun decoded => ?_, ?_⟩, fun m textual => Envelope.encode_frame textual, ?_⟩
  · obtain ⟨m, rfl, rfl⟩ := Envelope.of_decode decoded
    exact ⟨m, rfl, m.bytes_length, rfl⟩
  · rintro ⟨m, rfl, _, rfl⟩
    exact m.decode_bytes
  · intro m m' textual textual' same
    -- Both messages are the encoding of the one frame.
    rw [← Envelope.encode_frame textual, same, Envelope.encode_frame textual']

/-- A welcome to one id, with its lengths stated. -/
def Envelope.welcome : Envelope :=
  { n := 27, typ := WELCOME, flags := 0, fromLen := 4, toLen := 12, payLen := 0
    source := asBytes "zapd"
    destination := asBytes "browser/h/n1"
    payload := []
    sourceLength := rfl
    destinationLength := rfl
    payloadLength := rfl
    agrees := rfl
    bounded := by decide }

/-- A welcome is decoded as what it carries, and it is the encoding of that. -/
theorem decode_accepts_welcome :
    Frame.decode Envelope.welcome.bytes = .ok (Frame.new WELCOME "zapd" "browser/h/n1" []) ∧
      (Frame.new WELCOME "zapd" "browser/h/n1" []).encode = Envelope.welcome.bytes := by
  have carried : Frame.new WELCOME "zapd" "browser/h/n1" [] = Envelope.welcome.frame := by decide
  obtain ⟨accepts, encodes, _⟩ := decode_accepts_grammar
  rw [carried]
  exact ⟨(accepts _ _).mpr ⟨_, rfl, Envelope.welcome.bytes_length, rfl⟩,
    encodes _ ⟨⟨"zapd", rfl⟩, ⟨"browser/h/n1", rfl⟩⟩⟩

/-- A read that yields a frame leaves less of the stream. -/
theorem read_shrinks {stream rest : Bytes} {f : Frame}
    (taken : Frame.read stream = .ok (some (f, rest))) : rest.length < stream.length := by
  obtain ⟨framed, body, rfl, ⟨rfl, _, _⟩, _⟩ := read_ok.mp taken
  simp
  omega

/-- Read frames until the end of the stream is reported or a read fails, as every reader does. -/
def Frame.readAll (stream : Bytes) : List Frame × Except Error Unit :=
  match taken : Frame.read stream with
  | .error e => ([], .error e)
  | .ok none => ([], .ok ())
  | .ok (some (f, rest)) =>
    have := read_shrinks taken
    let (frames, ended) := Frame.readAll rest
    (f :: frames, ended)
termination_by stream.length

/-- Nothing is read off an empty stream. -/
@[simp] theorem readAll_nil : Frame.readAll [] = ([], .ok ()) := by
  rw [Frame.readAll]
  simp [Frame.read]

/-- A frame at the front of a stream comes first, and the others are read off what is left. -/
theorem readAll_cons {stream rest : Bytes} {f : Frame}
    (taken : Frame.read stream = .ok (some (f, rest))) :
    Frame.readAll stream = (f :: (Frame.readAll rest).1, (Frame.readAll rest).2) := by
  rw [Frame.readAll]
  split
  · rename_i failed
    simp [taken] at failed
  · rename_i ended
    simp [taken] at ended
  · rename_i g left again
    -- The read yields one frame and leaves one rest.
    rw [taken] at again
    obtain ⟨rfl, rfl⟩ := Prod.mk.inj (Option.some.inj (Except.ok.inj again))
    rfl

/-- The concatenated encodings of frames that fit are read back one by one, then the end. -/
theorem readAll_encodings {frames : List Frame} (fit : ∀ f ∈ frames, f.Fits) :
    Frame.readAll (frames.flatMap Frame.encode) = (frames, .ok ()) := by
  induction frames with
  | nil => exact readAll_nil
  | cons f frames ih =>
    have first := read_encode (fit f (by simp)) (frames.flatMap Frame.encode)
    -- The first encoding is consumed exactly, so the others are read as the induction says.
    rw [List.flatMap_cons, readAll_cons first, ih fun g member => fit g (by simp [member])]

/-- A message and a stream that starts with it are read alike, and so are streams of frames. -/
theorem stream_reads_messages :
    (∀ (b rest : Bytes) (f : Frame),
      Frame.decode b = .ok f ↔ Frame.read (b ++ rest) = .ok (some (f, rest))) ∧
    (∀ frames : List Frame,
      (∀ f ∈ frames, (asBytes f.from_).length ≤ 65535 ∧ (asBytes f.to_).length ≤ 65535 ∧
        f.bodyLength ≤ MAX_FRAME) →
      Frame.readAll (frames.flatMap Frame.encode) = (frames, .ok ())) := by
  refine ⟨fun b rest f => decode_iff_read rest, fun frames bounds => readAll_encodings ?_⟩
  intro f member
  obtain ⟨source, destination, size⟩ := bounds f member
  exact ⟨by omega, by omega, size⟩

/-- A welcome and an empty request behind it are read back, then the end. -/
theorem stream_reads_welcome :
    Frame.readAll ([Frame.new WELCOME "zapd" "browser/h/n1" [], Frame.new PROVIDERS_LIST "" "" []]
        |>.flatMap Frame.encode) =
      ([Frame.new WELCOME "zapd" "browser/h/n1" [], Frame.new PROVIDERS_LIST "" "" []], .ok ()) :=
  stream_reads_messages.2 _ (by decide)

end Zapd
