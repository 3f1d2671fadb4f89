import Zapd.Codec.Frame

/-! What the envelope's decoders accept, and how they relate to its encoder. -/

namespace Zapd

open Utf8 Parse

@[simp] theorem le16_length (value : UInt16) : (le16 value).length = 2 := leBytes_length 2 _

@[simp] theorem le32_length (value : UInt32) : (le32 value).length = 4 := leBytes_length 4 _

/-- A 16-bit number read from its two bytes. -/
theorem ofLe_le16 (value : UInt16) : ofLe (le16 value) = value.toNat := by
  rw [le16, ofLe_leBytes]
  exact Nat.mod_eq_of_lt value.toNat_lt

/-- A 32-bit number read from its four bytes. -/
theorem ofLe_le32 (value : UInt32) : ofLe (le32 value) = value.toNat := by
  rw [le32, ofLe_leBytes]
  exact Nat.mod_eq_of_lt value.toNat_lt

/-- Two bytes are the encoding of the number they stand for. -/
theorem le16_ofNat_ofLe {bytes : Bytes} (width : bytes.length = 2) :
    le16 (UInt16.ofNat (ofLe bytes)) = bytes := by
  have bound := ofLe_lt bytes
  rw [width] at bound
  -- Two bytes stand for a number that 16 bits hold.
  have small : (UInt16.ofNat (ofLe bytes)).toNat = ofLe bytes := by
    simp only [UInt16.toNat_ofNat']
    exact Nat.mod_eq_of_lt bound
  rw [le16, small, ← width, leBytes_ofLe]

/-- Four bytes are the encoding of the number they stand for. -/
theorem le32_ofNat_ofLe {bytes : Bytes} (width : bytes.length = 4) :
    le32 (UInt32.ofNat (ofLe bytes)) = bytes := by
  have bound := ofLe_lt bytes
  rw [width] at bound
  -- Four bytes stand for a number that 32 bits hold.
  have small : (UInt32.ofNat (ofLe bytes)).toNat = ofLe bytes := by
    simp only [UInt32.toNat_ofNat']
    exact Nat.mod_eq_of_lt bound
  rw [le32, small, ← width, leBytes_ofLe]

theorem le16_inj {left right : UInt16} : le16 left = le16 right ↔ left = right := by
  refine ⟨fun same => UInt16.toNat_inj.mp ?_, congrArg le16⟩
  -- Reading undoes the encoding.
  rw [← ofLe_le16, same, ofLe_le16]

theorem le32_inj {left right : UInt32} : le32 left = le32 right ↔ left = right := by
  refine ⟨fun same => UInt32.toNat_inj.mp ?_, congrArg le32⟩
  -- Reading undoes the encoding.
  rw [← ofLe_le32, same, ofLe_le32]

namespace Cursor

/-- One byte is read as itself. -/
theorem u8_ok {bytes rest : Bytes} {value : UInt8} :
    u8 bytes = .ok (value, rest) ↔ bytes = value :: rest := by
  simp only [u8, bind_ok, pure_ok, take, take_ok]
  constructor
  · rintro ⟨taken, mid, ⟨width, rfl⟩, rfl, rfl⟩
    -- What was taken is a single byte.
    obtain ⟨byte, rfl⟩ := List.length_eq_one_iff.mp width
    rfl
  · rintro rfl
    exact ⟨[value], rest, ⟨rfl, rfl⟩, rfl, rfl⟩

/-- Two bytes are read as the number they encode. -/
theorem u16_ok {bytes rest : Bytes} {value : UInt16} :
    u16 bytes = .ok (value, rest) ↔ bytes = le16 value ++ rest := by
  simp only [u16, bind_ok, pure_ok, take, take_ok]
  constructor
  · -- What was taken is the encoding of what was read.
    rintro ⟨taken, mid, ⟨width, rfl⟩, rfl, rfl⟩
    rw [le16_ofNat_ofLe width]
  · rintro rfl
    exact ⟨le16 value, rest, ⟨le16_length value, rfl⟩,
      by rw [ofLe_le16, UInt16.ofNat_toNat], rfl⟩

/-- Four bytes are read as the number they encode. -/
theorem u32_ok {bytes rest : Bytes} {value : UInt32} :
    u32 bytes = .ok (value, rest) ↔ bytes = le32 value ++ rest := by
  simp only [u32, bind_ok, pure_ok, take, take_ok]
  constructor
  · -- What was taken is the encoding of what was read.
    rintro ⟨taken, mid, ⟨width, rfl⟩, rfl, rfl⟩
    rw [le32_ofNat_ofLe width]
  · rintro rfl
    exact ⟨le32 value, rest, ⟨le32_length value, rfl⟩,
      by rw [ofLe_le32, UInt32.ofNat_toNat], rfl⟩

/-- A section of a given length is read as the text it decodes to. -/
theorem string_ok {count : Nat} {bytes rest : Bytes} {value : String} :
    string count bytes = .ok (value, rest) ↔
      ∃ taken : Bytes, taken.length = count ∧ bytes = taken ++ rest ∧
        value = fromUtf8Lossy taken := by
  simp only [string, bind_ok, pure_ok, take, take_ok]
  constructor
  · rintro ⟨taken, mid, ⟨width, rfl⟩, rfl, rfl⟩
    exact ⟨taken, width, rfl, rfl⟩
  · rintro ⟨taken, width, rfl, rfl⟩
    exact ⟨taken, rest, ⟨width, rfl⟩, rfl, rfl⟩

end Cursor

/-- A body as its fields lie on the wire, with the sections still bytes. -/
def layout (typ : UInt8) (flags : UInt16) (source destination payload : Bytes) : Bytes :=
  typ :: (le16 flags ++ (le16 source.length.toUInt16 ++ (le16 destination.length.toUInt16 ++
    (le32 payload.length.toUInt32 ++ (source ++ (destination ++ payload))))))

@[simp] theorem layout_length (typ : UInt8) (flags : UInt16) (source destination payload : Bytes) :
    (layout typ flags source destination payload).length =
      HEADER + source.length + destination.length + payload.length := by
  -- The fixed fields are as long as the header.
  simp only [layout, List.length_cons, List.length_append, le16_length, le32_length, HEADER]
  omega

/-- An encoded frame is its length and its body. -/
theorem encode_eq_layout (f : Frame) :
    f.encode = le32 f.bodyLength.toUInt32 ++
      layout f.typ f.flags (asBytes f.from_) (asBytes f.to_) f.payload := by
  simp [Frame.encode, layout]

@[simp] theorem encode_length (f : Frame) : f.encode.length = 4 + f.bodyLength := by
  simp [encode_eq_layout, Frame.bodyLength]

@[simp] theorem new_payload (typ : UInt8) (from_ to_ : String) (payload : Bytes) :
    (Frame.new typ from_ to_ payload).payload = payload := rfl

theorem new_bodyLength (typ : UInt8) (from_ to_ : String) (payload : Bytes) :
    (Frame.new typ from_ to_ payload).bodyLength =
      HEADER + (asBytes from_).length + (asBytes to_).length + payload.length := rfl

/-- Past its other sections, an encoding is the payload. -/
theorem drop_encode {f : Frame} {count : Nat} (past : 4 + f.bodyLength ≤ count + f.payload.length) :
    f.encode.drop count = f.payload.drop (count + f.payload.length - (4 + f.bodyLength)) := by
  simp only [Frame.bodyLength, HEADER] at past ⊢
  -- Whatever stands before the payload is dropped whole.
  rw [Frame.encode, List.drop_append, List.drop_of_length_le (by simp; omega), List.nil_append]
  congr 1
  simp
  omega

/-- A section length that fits its field is read back as it is. -/
theorem toNat_toUInt16 {length : Nat} (fits : length < 2 ^ 16) :
    length.toUInt16.toNat = length := by
  simp only [Nat.toUInt16_eq, UInt16.toNat_ofNat']
  exact Nat.mod_eq_of_lt fits

/-- A length that fits its field is read back as it is. -/
theorem toNat_toUInt32 {length : Nat} (fits : length < 2 ^ 32) :
    length.toUInt32.toNat = length := by
  simp only [Nat.toUInt32_eq, UInt32.toNat_ofNat']
  exact Nat.mod_eq_of_lt fits

/-- The number a field holds is below the bound of its width. -/
theorem eq_toUInt16 {length : Nat} {value : UInt16} (same : length = value.toNat) :
    length.toUInt16 = value := by
  subst same
  simp

theorem eq_toUInt32 {length : Nat} {value : UInt32} (same : length = value.toNat) :
    length.toUInt32 = value := by
  subst same
  simp

/-- The fields are read off a body exactly when it is laid out as they say. -/
theorem fields_ok {bytes rest : Bytes} {f : Frame} :
    Frame.fields bytes = .ok (f, rest) ↔
      ∃ source destination : Bytes, source.length < 2 ^ 16 ∧ destination.length < 2 ^ 16 ∧
        f.payload.length < 2 ^ 32 ∧
        bytes = layout f.typ f.flags source destination f.payload ++ rest ∧
        f.from_ = fromUtf8Lossy source ∧ f.to_ = fromUtf8Lossy destination := by
  -- Each field is taken in its turn, and the section lengths are the numbers read before.
  simp only [Frame.fields, bind_ok, pure_ok, Cursor.u8_ok, Cursor.u16_ok, Cursor.u32_ok,
    Cursor.string_ok, Cursor.take, take_ok]
  constructor
  · -- The number read for a length is the length of the section that was taken.
    rintro ⟨typ, _, rfl, flags, _, rfl, fromLen, _, rfl, toLen, _, rfl, payLen, _, rfl, from_, _,
      ⟨source, sourceWidth, rfl, rfl⟩, to_, _, ⟨destination, destinationWidth, rfl, rfl⟩,
      payload, _, ⟨payloadWidth, rfl⟩, rfl, rfl⟩
    refine ⟨source, destination, ?_, ?_, ?_, ?_, rfl, rfl⟩
    · exact sourceWidth ▸ fromLen.toNat_lt
    · exact destinationWidth ▸ toLen.toNat_lt
    · exact payloadWidth ▸ payLen.toNat_lt
    · simp [layout, eq_toUInt16 sourceWidth, eq_toUInt16 destinationWidth, eq_toUInt32 payloadWidth]
  · -- A length that fits its field is read back, so its section is taken whole.
    rintro ⟨source, destination, sourceFits, destinationFits, payloadFits, rfl, named, addressed⟩
    obtain ⟨typ, flags, from_, to_, payload⟩ := f
    simp only [layout, List.cons_append, List.append_assoc]
    exact ⟨typ, _, rfl, flags, _, rfl, source.length.toUInt16, _, rfl,
      destination.length.toUInt16, _, rfl, payload.length.toUInt32, _, rfl,
      from_, destination ++ (payload ++ rest),
      ⟨source, (toNat_toUInt16 sourceFits).symm, rfl, named⟩,
      to_, payload ++ rest, ⟨destination, (toNat_toUInt16 destinationFits).symm, rfl, addressed⟩,
      payload, rest, ⟨(toNat_toUInt32 payloadFits).symm, rfl⟩, rfl, rfl⟩

/-- A body is accepted exactly when it is laid out as the frame's fields and nothing more. -/
theorem body_ok {buf : Bytes} {f : Frame} :
    Frame.body buf = .ok f ↔
      ∃ source destination : Bytes, source.length < 2 ^ 16 ∧ destination.length < 2 ^ 16 ∧
        f.payload.length < 2 ^ 32 ∧ buf = layout f.typ f.flags source destination f.payload ∧
        f.from_ = fromUtf8Lossy source ∧ f.to_ = fromUtf8Lossy destination := by
  -- The emptiness check after the fields is what rules out trailing bytes.
  have whole : Frame.body buf = .ok f ↔ Frame.fields buf = .ok (f, []) := by
    unfold Frame.body
    cases parsed : Frame.fields buf with
    | error e => simp
    | ok pair =>
      obtain ⟨g, rest⟩ := pair
      cases rest <;> simp
  rw [whole, fields_ok]
  simp

/-- A length prefix and a body of that length, within the limits of the readers. -/
def Framed (bytes body : Bytes) : Prop :=
  bytes = le32 body.length.toUInt32 ++ body ∧ HEADER ≤ body.length ∧ body.length ≤ MAX_FRAME

private theorem ofLe_leading {bytes : Bytes} {length : Nat} (enough : 4 ≤ bytes.length)
    (read : ofLe (bytes.take 4) = length) : bytes = le32 length.toUInt32 ++ bytes.drop 4 := by
  have width : (bytes.take 4).length = 4 := by simp [enough]
  subst read
  -- The first four bytes are the encoding of the number they stand for.
  conv_lhs => rw [← List.take_append_drop 4 bytes]
  rw [Nat.toUInt32_eq, le32_ofNat_ofLe width]

private theorem ofLe_framed {body : Bytes} (small : body.length ≤ MAX_FRAME) (rest : Bytes) :
    ofLe ((le32 body.length.toUInt32 ++ body ++ rest).take 4) = body.length := by
  have room : body.length < 2 ^ 32 := by simp only [MAX_FRAME] at small; omega
  rw [List.append_assoc, List.take_left' (le32_length _), ofLe_le32, toNat_toUInt32 room]

/-- A whole message is decoded exactly when it is framed around a body that parses. -/
theorem decode_ok {b : Bytes} {f : Frame} :
    Frame.decode b = .ok f ↔ ∃ body, Framed b body ∧ Frame.body body = .ok f := by
  unfold Frame.decode
  constructor
  · intro decoded
    split at decoded
    · simp at decoded
    · rename_i enough
      dsimp only at decoded
      split at decoded
      · rename_i bounds
        obtain ⟨agrees, least, most⟩ := bounds
        -- The stated length is that of the bytes behind the prefix.
        have length : (b.drop 4).length = ofLe (b.take 4) := by simp; omega
        exact ⟨b.drop 4, ⟨ofLe_leading (by omega) length.symm, by omega, by omega⟩, decoded⟩
      · simp at decoded
  · rintro ⟨body, ⟨rfl, least, most⟩, parsed⟩
    -- A framed message states its own length, which passes every check.
    have prefixed := ofLe_framed most []
    rw [List.append_nil] at prefixed
    rw [if_neg (by simp), prefixed, if_pos ⟨by simp; omega, least, most⟩,
      List.drop_left' (le32_length _)]
    exact parsed

/-- A frame is read off a stream exactly when the stream starts with its framed body. -/
theorem read_ok {stream rest : Bytes} {f : Frame} :
    Frame.read stream = .ok (some (f, rest)) ↔
      ∃ framed body, stream = framed ++ rest ∧ Framed framed body ∧ Frame.body body = .ok f := by
  unfold Frame.read
  constructor
  · intro taken
    split at taken
    · simp at taken
    · rename_i enough
      dsimp only at taken
      split at taken
      · simp at taken
      · rename_i bounds
        split at taken
        · simp at taken
        · rename_i present
          split at taken
          · simp at taken
          · rename_i g parsed
            -- What was parsed is as many bytes as the prefix says.
            obtain ⟨rfl, rfl⟩ : g = f ∧ (stream.drop 4).drop (ofLe (stream.take 4)) = rest := by
              simpa using taken
            have length : ((stream.drop 4).take (ofLe (stream.take 4))).length =
                ofLe (stream.take 4) := by simp at present ⊢; omega
            refine ⟨le32 (ofLe (stream.take 4)).toUInt32 ++
              (stream.drop 4).take (ofLe (stream.take 4)), _, ?_, ⟨?_, by omega, by omega⟩, parsed⟩
            · rw [List.append_assoc, List.take_append_drop]
              exact ofLe_leading (by omega) rfl
            · rw [length]
  · rintro ⟨_, body, rfl, ⟨rfl, least, most⟩, parsed⟩
    -- The prefix of a framed body states its length, whatever follows the body.
    have prefixed := ofLe_framed most rest
    have dropped : (le32 body.length.toUInt32 ++ body ++ rest).drop 4 = body ++ rest := by
      rw [List.append_assoc, List.drop_left' (le32_length _)]
    rw [if_neg (by simp), prefixed, dropped]
    simp only [if_neg (show ¬ (body.length > MAX_FRAME ∨ body.length < HEADER) by omega),
      if_neg (show ¬ (body ++ rest).length < body.length by simp), List.take_left, List.drop_left,
      parsed]

/-- What a whole message decodes to is what a stream starting with it yields, and back. -/
theorem decode_iff_read {b : Bytes} {f : Frame} (rest : Bytes) :
    Frame.decode b = .ok f ↔ Frame.read (b ++ rest) = .ok (some (f, rest)) := by
  rw [decode_ok, read_ok]
  constructor
  · rintro ⟨body, framed, parsed⟩
    exact ⟨b, body, rfl, framed, parsed⟩
  · rintro ⟨framed, body, same, isFramed, parsed⟩
    -- What is left of the stream tells where the message ended.
    obtain rfl := List.append_cancel_right same
    exact ⟨body, isFramed, parsed⟩

/-- A frame that fits its fields is decoded from its own encoding. -/
theorem decode_encode {f : Frame} (fits : f.Fits) : Frame.decode f.encode = .ok f := by
  -- A payload within a body that fits is short enough for its own field.
  have payloadFits : f.payload.length < 2 ^ 32 := by
    have := fits.size
    simp only [Frame.bodyLength, MAX_FRAME] at this
    omega
  have size : (layout f.typ f.flags (asBytes f.from_) (asBytes f.to_) f.payload).length =
      f.bodyLength := layout_length ..
  refine decode_ok.mpr ⟨_, ⟨?_, ?_, ?_⟩, body_ok.mpr ⟨_, _, fits.source, fits.destination,
    payloadFits, rfl, by simp, by simp⟩⟩
  · rw [size]
    exact encode_eq_layout f
  · rw [size, Frame.bodyLength]
    omega
  · rw [size]
    exact fits.size

/-- A frame that fits is read off any stream that starts with its encoding. -/
theorem read_encode {f : Frame} (fits : f.Fits) (rest : Bytes) :
    Frame.read (f.encode ++ rest) = .ok (some (f, rest)) :=
  (decode_iff_read rest).mp (decode_encode fits)

/-- Two layouts are equal only between equal fields, once the sections fit their lengths. -/
theorem layout_inj {typ typ' : UInt8} {flags flags' : UInt16} {a a' c c' p p' : Bytes}
    (aFits : a'.length < 2 ^ 16) (cFits : c'.length < 2 ^ 16) (pFits : p'.length < 2 ^ 32)
    (same : layout typ flags a c p = layout typ' flags' a' c' p') :
    typ = typ' ∧ flags = flags' ∧ a = a' ∧ c = c' ∧ p = p' := by
  -- The header is compared field by field, and the total length rules out wrapped lengths.
  have total := congrArg List.length same
  simp only [layout_length] at total
  simp only [layout, List.cons.injEq] at same
  obtain ⟨rfl, same⟩ := same
  obtain ⟨flagsSame, same⟩ := List.append_inj same (by simp)
  obtain ⟨aLength, same⟩ := List.append_inj same (by simp)
  obtain ⟨cLength, same⟩ := List.append_inj same (by simp)
  obtain ⟨pLength, same⟩ := List.append_inj same (by simp)
  -- Equal length fields say equal residues.
  have aMod := congrArg UInt16.toNat (le16_inj.mp aLength)
  have cMod := congrArg UInt16.toNat (le16_inj.mp cLength)
  have pMod := congrArg UInt32.toNat (le32_inj.mp pLength)
  rw [toNat_toUInt16 aFits] at aMod
  rw [toNat_toUInt16 cFits] at cMod
  rw [toNat_toUInt32 pFits] at pMod
  simp only [Nat.toUInt16_eq, UInt16.toNat_ofNat', Nat.toUInt32_eq,
    UInt32.toNat_ofNat'] at aMod cMod pMod
  -- Each true length is at least its residue, and the residues add up to the same total.
  have aLess := Nat.mod_le a.length (2 ^ 16)
  have cLess := Nat.mod_le c.length (2 ^ 16)
  have pLess := Nat.mod_le p.length (2 ^ 32)
  obtain ⟨aSame, same⟩ := List.append_inj same (by omega)
  obtain ⟨cSame, pSame⟩ := List.append_inj same (by omega)
  exact ⟨rfl, le16_inj.mp flagsSame, aSame, cSame, pSame⟩

/-- A body that is the layout of a frame's own fields parses only as that frame, when they fit. -/
theorem body_layout_ok {f g : Frame}
    (parsed :
      Frame.body (layout f.typ f.flags (asBytes f.from_) (asBytes f.to_) f.payload) = .ok g) :
    g = f ∧ (asBytes f.from_).length < 2 ^ 16 ∧ (asBytes f.to_).length < 2 ^ 16 := by
  obtain ⟨source, destination, sourceFits, destinationFits, payloadFits, same, named, addressed⟩ :=
    body_ok.mp parsed
  -- The sections that were parsed are the frame's own.
  obtain ⟨typ, flags, rfl, rfl, payload⟩ := layout_inj sourceFits destinationFits payloadFits same
  rw [fromUtf8Lossy_asBytes] at named addressed
  obtain ⟨_, _, _, _, _⟩ := f
  obtain ⟨_, _, _, _, _⟩ := g
  simp_all

/-- Decoding an encoding succeeds exactly for frames that fit, and only as the frame itself. -/
theorem decode_encode_ok {f g : Frame} : Frame.decode f.encode = .ok g ↔ f.Fits ∧ g = f := by
  refine ⟨fun decoded => ?_, by rintro ⟨fits, rfl⟩; exact decode_encode fits⟩
  obtain ⟨body, ⟨framed, least, most⟩, parsed⟩ := decode_ok.mp decoded
  -- The two length prefixes have the same width, so the bodies are the same bytes.
  rw [encode_eq_layout] at framed
  obtain ⟨_, rfl⟩ := List.append_inj framed (by simp)
  obtain ⟨same, sourceFits, destinationFits⟩ := body_layout_ok parsed
  rw [layout_length] at most
  exact ⟨⟨sourceFits, destinationFits, most⟩, same⟩

/-- Reading an encoding to its end succeeds exactly for frames that fit. -/
theorem read_encode_ok {f g : Frame} :
    Frame.read f.encode = .ok (some (g, [])) ↔ f.Fits ∧ g = f := by
  rw [← decode_encode_ok, decode_iff_read [], List.append_nil]

/-- A frame is read off an encoding whose length did not wrap only if it fits. -/
theorem read_encode_fits {f g : Frame} {rest left : Bytes} (unwrapped : f.bodyLength < 2 ^ 32)
    (taken : Frame.read (f.encode ++ rest) = .ok (some (g, left))) : f.Fits := by
  -- The prefix states the true length, so the body read is the frame's own layout.
  obtain ⟨framed, body, same, ⟨rfl, least, most⟩, parsed⟩ := read_ok.mp taken
  rw [encode_eq_layout, List.append_assoc, List.append_assoc] at same
  obtain ⟨lengths, same⟩ := List.append_inj same (by simp)
  -- Neither length wrapped, so the prefixes agree only on equal lengths.
  have length := congrArg UInt32.toNat (le32_inj.mp lengths)
  have room : body.length < 2 ^ 32 := by simp only [MAX_FRAME] at most; omega
  rw [toNat_toUInt32 unwrapped, toNat_toUInt32 room] at length
  obtain ⟨rfl, _⟩ := List.append_inj same (by rw [layout_length, ← length]; rfl)
  obtain ⟨_, sourceFits, destinationFits⟩ := body_layout_ok parsed
  exact ⟨sourceFits, destinationFits, length ▸ most⟩

/-- A frame past the limit is refused by its length alone, unless that wrapped. -/
theorem read_oversize {f : Frame} (past : MAX_FRAME < f.bodyLength)
    (unwrapped : f.bodyLength < 2 ^ 32) (rest : Bytes) :
    Frame.read (f.encode ++ rest) = .error badLength := by
  have stated : ofLe ((f.encode ++ rest).take 4) = f.bodyLength := by
    rw [encode_eq_layout, List.append_assoc, List.take_left' (le32_length _),
      ofLe_le32, toNat_toUInt32 unwrapped]
  have enough : ¬ (f.encode ++ rest).length < 4 := by
    rw [List.length_append, encode_length]
    omega
  -- The length is checked before anything of the body is taken.
  rw [Frame.read, if_neg enough]
  exact if_pos (.inl (by rwa [stated]))

/-- Equal encodings of frames that fit are encodings of the same frame. -/
theorem encode_inj {f g : Frame} (fits : f.Fits) (same : f.encode = g.encode) : f = g := by
  have decoded := decode_encode fits
  -- The common bytes decode to one frame.
  rw [same] at decoded
  exact (decode_encode_ok.mp decoded).2

end Zapd
