import Mathlib.Data.List.Basic

/-! UTF-8 text as bytes, and the lossy decoder that replaces what is not UTF-8. -/

namespace Utf8

/-- A message, a stream or a file as its bytes. -/
abbrev Bytes := List UInt8

/-- The bytes of a text. -/
def asBytes (text : String) : Bytes := text.toList.flatMap String.utf8EncodeChar

/-- The character standing for bytes that are not UTF-8. -/
def replacement : Char := Char.ofNat 0xFFFD

/-- A continuation byte of a longer sequence. -/
def continues (byte : UInt8) : Bool := 0x80 ≤ byte.toNat && byte.toNat ≤ 0xBF

/-- The second bytes a three-byte lead admits: no overlong form and no surrogate. -/
def secondOfThree (lead : Nat) (byte : UInt8) : Bool :=
  if lead = 0xE0 then 0xA0 ≤ byte.toNat && byte.toNat ≤ 0xBF
  else if lead = 0xED then 0x80 ≤ byte.toNat && byte.toNat ≤ 0x9F
  else continues byte

/-- The second bytes a four-byte lead admits: no overlong form and nothing past U+10FFFF. -/
def secondOfFour (lead : Nat) (byte : UInt8) : Bool :=
  if lead = 0xF0 then 0x90 ≤ byte.toNat && byte.toNat ≤ 0xBF
  else if lead = 0xF4 then 0x80 ≤ byte.toNat && byte.toNat ≤ 0x8F
  else continues byte

/-- The six low bits a continuation byte carries. -/
def low6 (byte : UInt8) : Nat := byte.toNat % 64

/--
Read one character off the front, with the bytes left after it.

A sequence that breaks off is replaced as a whole, up to the byte that broke it: the
longest start of a character becomes one replacement, and reading resumes at that byte.
-/
def scan (first : UInt8) (rest : Bytes) : Char × Bytes :=
  let lead := first.toNat
  if lead < 0x80 then (Char.ofNat lead, rest)
  else if 0xC2 ≤ lead ∧ lead ≤ 0xDF then
    -- Two bytes: a lead with five bits and one continuation.
    match rest with
    | b :: rest₁ =>
      if continues b then (Char.ofNat (lead % 32 * 64 + low6 b), rest₁) else (replacement, rest)
    | [] => (replacement, [])
  else if 0xE0 ≤ lead ∧ lead ≤ 0xEF then
    -- Three bytes: a lead with four bits and two continuations.
    match rest with
    | b :: rest₁ =>
      if secondOfThree lead b then
        match rest₁ with
        | c :: rest₂ =>
          if continues c then (Char.ofNat ((lead % 16 * 64 + low6 b) * 64 + low6 c), rest₂)
          else (replacement, rest₁)
        | [] => (replacement, [])
      else (replacement, rest)
    | [] => (replacement, [])
  else if 0xF0 ≤ lead ∧ lead ≤ 0xF4 then
    -- Four bytes: a lead with three bits and three continuations.
    match rest with
    | b :: rest₁ =>
      if secondOfFour lead b then
        match rest₁ with
        | c :: rest₂ =>
          if continues c then
            match rest₂ with
            | d :: rest₃ =>
              if continues d then
                (Char.ofNat (((lead % 8 * 64 + low6 b) * 64 + low6 c) * 64 + low6 d), rest₃)
              else (replacement, rest₂)
            | [] => (replacement, [])
          else (replacement, rest₁)
        | [] => (replacement, [])
      else (replacement, rest)
    | [] => (replacement, [])
  -- A stray continuation byte, an overlong lead or a lead past the last plane.
  else (replacement, rest)

/-- Characters of a byte string, reading at most as many as the fuel allows. -/
def lossyChars : Nat → Bytes → List Char
  | 0, _ => []
  | _ + 1, [] => []
  | fuel + 1, first :: rest => (scan first rest).1 :: lossyChars fuel (scan first rest).2

/-- Decode bytes as text, replacing every maximal run that is not UTF-8. -/
def fromUtf8Lossy (bytes : Bytes) : String := String.ofList (lossyChars bytes.length bytes)

/-- The bytes of a text are the ones Lean stores it as. -/
theorem asBytes_eq_toUTF8 (text : String) : asBytes text = text.toUTF8.data.toList := by
  -- A string is represented by the UTF-8 encoding of its characters.
  rw [String.toUTF8_eq_toByteArray, ← String.utf8Encode_toList]
  simp [List.utf8Encode, asBytes]

@[simp] theorem asBytes_empty : asBytes "" = [] := rfl

@[simp] theorem asBytes_append (left right : String) :
    asBytes (left ++ right) = asBytes left ++ asBytes right := by
  simp [asBytes]

/-- Reading a character never lengthens what is left. -/
theorem scan_rest_length (first : UInt8) (rest : Bytes) :
    (scan first rest).2.length ≤ rest.length := by
  -- Every branch leaves the rest or one of its suffixes.
  unfold scan
  dsimp only
  repeat' split
  all_goals simp_all <;> omega

/-- Fuel past the number of bytes changes nothing. -/
theorem lossyChars_fuel {fuel : Nat} {bytes : Bytes} (enough : bytes.length ≤ fuel) :
    lossyChars fuel bytes = lossyChars bytes.length bytes := by
  -- Each character uses one unit of fuel and at least one byte.
  induction fuel using Nat.strongRecOn generalizing bytes with
  | ind fuel ih =>
    cases bytes with
    | nil => cases fuel <;> rfl
    | cons first rest =>
      -- There is a first byte, so there is fuel for it.
      obtain ⟨fuel, rfl⟩ : ∃ k, fuel = k + 1 := ⟨fuel - 1, by simp at enough; omega⟩
      have shorter := scan_rest_length first rest
      have room : rest.length ≤ fuel := by simpa using enough
      simp only [List.length_cons, lossyChars, List.cons.injEq, true_and]
      -- Both sides go on from the same bytes, one with more fuel than it needs.
      rw [ih fuel (by omega) (by omega), ih rest.length (by omega) shorter]

@[simp] theorem lossy_nil : (fromUtf8Lossy []).toList = [] := rfl

/-- Decoding takes the first character and goes on with what it left. -/
theorem lossy_cons (first : UInt8) (rest : Bytes) :
    (fromUtf8Lossy (first :: rest)).toList =
      (scan first rest).1 :: (fromUtf8Lossy (scan first rest).2).toList := by
  simp only [fromUtf8Lossy, String.toList_ofList, List.length_cons, lossyChars, List.cons.injEq,
    true_and]
  exact lossyChars_fuel (scan_rest_length first rest)

private theorem scalar_value (c : Char) :
    c.val.toNat < 0xD800 ∨ 0xE000 ≤ c.val.toNat ∧ c.val.toNat < 0x110000 := by
  have valid := c.valid
  simp only [UInt32.isValidChar, Nat.isValidChar] at valid
  omega

private theorem byte_toNat {value : Nat} (small : value < 256) :
    (UInt8.ofNat value).toNat = value := by
  simp [Nat.mod_eq_of_lt small]

private theorem ofNat_eq {c : Char} {value : Nat} (same : value = c.val.toNat) :
    Char.ofNat value = c := by
  subst same
  exact Char.ofNat_toNat c

/-- The bytes of a character read back as that character, whatever follows them. -/
theorem scan_encoded (c : Char) (rest : Bytes) :
    ∃ first tail, String.utf8EncodeChar c = first :: tail ∧
      scan first (tail ++ rest) = (c, rest) := by
  -- One case per length of the encoding, each undone by arithmetic on its six-bit groups.
  have scalar := scalar_value c
  simp only [String.utf8EncodeChar]
  generalize v_def : c.val.toNat = v at scalar
  split
  · -- One byte is the character itself.
    refine ⟨_, _, rfl, ?_⟩
    simp only [scan, byte_toNat (show v < 256 by omega), if_pos (show v < 0x80 by omega),
      List.nil_append, ofNat_eq v_def.symm]
  · split
    · refine ⟨_, _, rfl, ?_⟩
      have lead := byte_toNat (show v / 64 % 32 + 192 < 256 by omega)
      have second := byte_toNat (show v % 64 + 128 < 256 by omega)
      have value : (v / 64 % 32 + 192) % 32 * 64 + (v % 64 + 128) % 64 = c.val.toNat := by omega
      simp only [scan, lead, List.cons_append, List.nil_append, continues, low6, second,
        if_neg (show ¬ v / 64 % 32 + 192 < 0x80 by omega),
        if_pos (show 0xC2 ≤ v / 64 % 32 + 192 ∧ v / 64 % 32 + 192 ≤ 0xDF by omega),
        Bool.and_eq_true, decide_eq_true_eq,
        if_pos (show 0x80 ≤ v % 64 + 128 ∧ v % 64 + 128 ≤ 0xBF by omega), ofNat_eq value]
    · split
      · refine ⟨_, _, rfl, ?_⟩
        have lead := byte_toNat (show v / 4096 % 16 + 224 < 256 by omega)
        have second := byte_toNat (show v / 64 % 64 + 128 < 256 by omega)
        have third := byte_toNat (show v % 64 + 128 < 256 by omega)
        have admitted : secondOfThree (v / 4096 % 16 + 224) (UInt8.ofNat (v / 64 % 64 + 128)) := by
          simp only [secondOfThree, continues, second]
          split
          · simp; omega
          · split
            · simp; omega
            · simp; omega
        have value : ((v / 4096 % 16 + 224) % 16 * 64 + (v / 64 % 64 + 128) % 64) * 64 +
            (v % 64 + 128) % 64 = c.val.toNat := by omega
        simp only [scan, lead, List.cons_append, List.nil_append, continues, low6, second, third,
          if_neg (show ¬ v / 4096 % 16 + 224 < 0x80 by omega),
          if_neg (show ¬ (0xC2 ≤ v / 4096 % 16 + 224 ∧ v / 4096 % 16 + 224 ≤ 0xDF) by omega),
          if_pos (show 0xE0 ≤ v / 4096 % 16 + 224 ∧ v / 4096 % 16 + 224 ≤ 0xEF by omega),
          if_pos admitted, Bool.and_eq_true, decide_eq_true_eq,
          if_pos (show 0x80 ≤ v % 64 + 128 ∧ v % 64 + 128 ≤ 0xBF by omega), ofNat_eq value]
      · refine ⟨_, _, rfl, ?_⟩
        have lead := byte_toNat (show v / 262144 % 8 + 240 < 256 by omega)
        have second := byte_toNat (show v / 4096 % 64 + 128 < 256 by omega)
        have third := byte_toNat (show v / 64 % 64 + 128 < 256 by omega)
        have fourth := byte_toNat (show v % 64 + 128 < 256 by omega)
        have admitted :
            secondOfFour (v / 262144 % 8 + 240) (UInt8.ofNat (v / 4096 % 64 + 128)) := by
          simp only [secondOfFour, continues, second]
          split
          · simp; omega
          · split
            · simp; omega
            · simp; omega
        have value : (((v / 262144 % 8 + 240) % 8 * 64 + (v / 4096 % 64 + 128) % 64) * 64 +
            (v / 64 % 64 + 128) % 64) * 64 + (v % 64 + 128) % 64 = c.val.toNat := by omega
        simp only [scan, lead, List.cons_append, List.nil_append, continues, low6, second, third,
          fourth, if_neg (show ¬ v / 262144 % 8 + 240 < 0x80 by omega),
          if_neg (show ¬ (0xC2 ≤ v / 262144 % 8 + 240 ∧ v / 262144 % 8 + 240 ≤ 0xDF) by omega),
          if_neg (show ¬ (0xE0 ≤ v / 262144 % 8 + 240 ∧ v / 262144 % 8 + 240 ≤ 0xEF) by omega),
          if_pos (show 0xF0 ≤ v / 262144 % 8 + 240 ∧ v / 262144 % 8 + 240 ≤ 0xF4 by omega),
          if_pos admitted, Bool.and_eq_true, decide_eq_true_eq,
          if_pos (show 0x80 ≤ v / 64 % 64 + 128 ∧ v / 64 % 64 + 128 ≤ 0xBF by omega),
          if_pos (show 0x80 ≤ v % 64 + 128 ∧ v % 64 + 128 ≤ 0xBF by omega), ofNat_eq value]

/-- Decoding the bytes of a character yields it and goes on with what follows. -/
theorem lossy_encoded (c : Char) (rest : Bytes) :
    (fromUtf8Lossy (String.utf8EncodeChar c ++ rest)).toList =
      c :: (fromUtf8Lossy rest).toList := by
  obtain ⟨first, tail, encoded, read⟩ := scan_encoded c rest
  -- The decoder reads the character off the front and resumes at the rest.
  rw [encoded, List.cons_append, lossy_cons, read]

/-- Text followed by other bytes decodes to that text and then whatever the bytes are. -/
theorem lossy_chars (chars : List Char) (rest : Bytes) :
    (fromUtf8Lossy (chars.flatMap String.utf8EncodeChar ++ rest)).toList =
      chars ++ (fromUtf8Lossy rest).toList := by
  induction chars with
  | nil => rfl
  -- The first character is read off, and the others follow.
  | cons c chars ih =>
    rw [List.flatMap_cons, List.append_assoc, lossy_encoded, ih, List.cons_append]

/-- A number below 128 is the value of its character. -/
theorem ofNat_toNat_ascii {value : Nat} (ascii : value < 0x80) :
    (Char.ofNat value).toNat = value := by
  have scalar : value.isValidChar := Or.inl (by omega)
  rw [Char.ofNat, dif_pos scalar]
  rfl

private theorem utf8Size_ascii {value : Nat} (ascii : value < 0x80) :
    (Char.ofNat value).utf8Size = 1 := by
  have same := ofNat_toNat_ascii ascii
  -- One byte is enough exactly for the values up to 127.
  rw [Char.utf8Size_eq_one_iff, UInt32.le_iff_toNat_le]
  show (Char.ofNat value).toNat ≤ 127
  omega

/-- One character is at most three bytes for each byte it was read from. -/
theorem scan_size (first : UInt8) (rest : Bytes) :
    (scan first rest).1.utf8Size + 3 * (scan first rest).2.length ≤ 3 * (rest.length + 1) := by
  -- A replacement has three bytes, and a character of four was read from more than one.
  have replaced : replacement.utf8Size = 3 := by decide
  have four := fun value => Char.utf8Size_le_four (Char.ofNat value)
  unfold scan
  dsimp only
  split
  · -- An ASCII character has one byte, and was read from one.
    rename_i ascii
    simp only [utf8Size_ascii ascii]
    omega
  · repeat' split
    -- A replacement, or a character that took as many bytes as it has or more.
    all_goals
      simp only [List.length_cons, List.length_nil, replaced]
      first | omega | exact Nat.le_trans (Nat.add_le_add_right (four _) _) (by omega)

/-- Lossy decoding makes a text at most three times as long as its bytes. -/
theorem lossy_length_le (bytes : Bytes) :
    (asBytes (fromUtf8Lossy bytes)).length ≤ 3 * bytes.length := by
  -- Each character is charged to the bytes it was read from.
  induction width : bytes.length using Nat.strongRecOn generalizing bytes with
  | ind width_ ih =>
    cases bytes with
    | nil => simp [asBytes]
    | cons first rest =>
      have size := scan_size first rest
      have shorter := scan_rest_length first rest
      rw [List.length_cons] at width
      -- What is left after the first character is shorter.
      have tail := ih _ (show (scan first rest).2.length < width_ by omega) _ rfl
      simp only [asBytes] at tail
      simp only [asBytes, lossy_cons, List.flatMap_cons, List.length_append,
        String.length_utf8EncodeChar]
      omega

/-- Cutting a text short and decoding adds at most one broken character to the cut. -/
theorem lossy_take_length_le (text : String) (count : Nat) :
    (asBytes (fromUtf8Lossy ((asBytes text).take count))).length ≤ count + 6 := by
  -- Whole characters before the cut decode to themselves, and the cut one has three bytes at most.
  unfold asBytes
  induction text.toList generalizing count with
  | nil => simp
  | cons c chars ih =>
    rw [List.flatMap_cons]
    by_cases whole : (String.utf8EncodeChar c).length ≤ count
    · -- The first character lies before the cut, and decodes to itself.
      have cut := ih (count - (String.utf8EncodeChar c).length)
      rw [List.take_append, List.take_of_length_le whole, lossy_encoded, List.flatMap_cons,
        List.length_append]
      omega
    · -- The cut lies inside the first character, so at most three bytes of it are left.
      have four := Char.utf8Size_le_four c
      have broken := lossy_length_le ((String.utf8EncodeChar c).take count)
      rw [String.length_utf8EncodeChar] at whole
      rw [List.take_append_of_le_length (by rw [String.length_utf8EncodeChar]; omega)]
      simp only [asBytes, List.length_take] at broken
      omega

/-- Valid text is decoded unchanged. -/
@[simp] theorem fromUtf8Lossy_asBytes (text : String) : fromUtf8Lossy (asBytes text) = text := by
  -- The text is all there is, so nothing follows its characters.
  have decoded := lossy_chars text.toList []
  rw [List.append_nil, lossy_nil, List.append_nil] at decoded
  exact String.toList_inj.mp decoded

/-- Equal bytes are equal text. -/
theorem asBytes_inj {left right : String} : asBytes left = asBytes right ↔ left = right := by
  refine ⟨fun same => ?_, congrArg asBytes⟩
  -- Decoding undoes the encoding, so it cannot confuse two texts.
  rw [← fromUtf8Lossy_asBytes left, same, fromUtf8Lossy_asBytes]

/-- A character below 128 is its own byte. -/
def asciiByte (c : Char) : UInt8 := UInt8.ofNat c.toNat

theorem asciiByte_toNat {c : Char} (ascii : c.toNat < 128) : (asciiByte c).toNat = c.toNat :=
  byte_toNat (by omega)

/-- A character below 128 is encoded as its one byte. -/
theorem encode_ascii {c : Char} (ascii : c.toNat < 128) :
    String.utf8EncodeChar c = [asciiByte c] := by
  have small : c.val.toNat ≤ 0x7f := Nat.le_of_lt_succ ascii
  rw [String.utf8EncodeChar, if_pos small]
  rfl

/-- A text of characters below 128 is one byte for each of them. -/
theorem asBytes_ascii {chars : List Char} (ascii : ∀ c ∈ chars, c.toNat < 128) :
    asBytes (String.ofList chars) = chars.map asciiByte := by
  rw [asBytes, String.toList_ofList]
  induction chars with
  | nil => rfl
  | cons c rest ih =>
    -- The first character is one byte, and the others follow.
    rw [List.flatMap_cons, encode_ascii (ascii c List.mem_cons_self),
      ih fun d later => ascii d (List.mem_cons_of_mem c later)]
    rfl

/-- Bytes below 128 are those of a text of characters below 128. -/
theorem ascii_of_asBytes {text : String} (small : ∀ b ∈ asBytes text, b.toNat < 128) :
    ∀ c ∈ text.toList, c.toNat < 128 := by
  -- The text is that of the bytes' own characters, since no other text has these bytes.
  have ascii : ∀ c ∈ (asBytes text).map (fun b => Char.ofNat b.toNat), c.toNat < 128 := by
    intro c member
    obtain ⟨b, among, rfl⟩ := List.mem_map.mp member
    rw [ofNat_toNat_ascii (small b among)]
    exact small b among
  have bytes : asBytes (String.ofList ((asBytes text).map fun b => Char.ofNat b.toNat)) =
      asBytes text := by
    rw [asBytes_ascii ascii, List.map_map]
    -- Each byte is that of its own character.
    refine (List.map_congr_left fun b among => ?_).trans (List.map_id _)
    simp only [Function.comp_apply, asciiByte, ofNat_toNat_ascii (small b among),
      UInt8.ofNat_toNat, id_eq]
  rw [← asBytes_inj.mp bytes, String.toList_ofList]
  exact ascii

/-- The bytes of some text, which is what valid UTF-8 is. -/
def Valid (bytes : Bytes) : Prop := ∃ text : String, asBytes text = bytes

/-- Bytes are valid exactly when decoding and encoding them gives them back. -/
theorem asBytes_fromUtf8Lossy {bytes : Bytes} :
    asBytes (fromUtf8Lossy bytes) = bytes ↔ Valid bytes := by
  constructor
  · intro same
    exact ⟨_, same⟩
  · -- Valid bytes are those of a text, which decoding recovers.
    rintro ⟨text, rfl⟩
    rw [fromUtf8Lossy_asBytes]

instance (bytes : Bytes) : Decidable (Valid bytes) := decidable_of_iff _ asBytes_fromUtf8Lossy

private theorem utf8Size_ofNat {value : Nat} (scalar : value.isValidChar) :
    (Char.ofNat value).utf8Size =
      if value ≤ 0x7F then 1 else if value ≤ 0x7FF then 2 else if value ≤ 0xFFFF then 3 else 4 := by
  have same : (Char.ofNat value).val.toNat = value := by
    rw [Char.ofNat, dif_pos scalar]
    rfl
  simp only [Char.utf8Size, UInt32.le_iff_toNat_le, same]
  rfl

private theorem two_bytes {lead : Nat} {b : UInt8} (first : 0xC2 ≤ lead ∧ lead ≤ 0xDF) :
    2 ≤ (Char.ofNat (lead % 32 * 64 + low6 b)).utf8Size := by
  simp only [low6]
  rw [utf8Size_ofNat (.inl (by omega)), if_neg (by omega)]
  split <;> [skip; split] <;> omega

private theorem three_bytes {lead : Nat} {b c : UInt8} (first : 0xE0 ≤ lead ∧ lead ≤ 0xEF)
    (second : secondOfThree lead b = true) :
    3 ≤ (Char.ofNat ((lead % 16 * 64 + low6 b) * 64 + low6 c)).utf8Size := by
  simp only [secondOfThree, continues] at second
  simp only [low6]
  -- The second byte rules out the overlong forms and the surrogates.
  have bounds : 0x800 ≤ (lead % 16 * 64 + b.toNat % 64) * 64 + c.toNat % 64 ∧
      ((lead % 16 * 64 + b.toNat % 64) * 64 + c.toNat % 64).isValidChar := by
    simp only [Nat.isValidChar]
    split at second
    · simp only [Bool.and_eq_true, decide_eq_true_eq] at second
      omega
    · split at second
      · simp only [Bool.and_eq_true, decide_eq_true_eq] at second
        omega
      · simp only [Bool.and_eq_true, decide_eq_true_eq] at second
        omega
  rw [utf8Size_ofNat bounds.2, if_neg (by omega), if_neg (by omega)]
  split <;> omega

private theorem four_bytes {lead : Nat} {b c d : UInt8} (first : 0xF0 ≤ lead ∧ lead ≤ 0xF4)
    (second : secondOfFour lead b = true) :
    4 ≤ (Char.ofNat (((lead % 8 * 64 + low6 b) * 64 + low6 c) * 64 + low6 d)).utf8Size := by
  simp only [secondOfFour, continues] at second
  simp only [low6]
  -- The second byte rules out the overlong forms and what is past the last plane.
  have bounds : 0x10000 ≤ ((lead % 8 * 64 + b.toNat % 64) * 64 + c.toNat % 64) * 64 + d.toNat % 64 ∧
      (((lead % 8 * 64 + b.toNat % 64) * 64 + c.toNat % 64) * 64 + d.toNat % 64).isValidChar := by
    simp only [Nat.isValidChar]
    split at second
    · simp only [Bool.and_eq_true, decide_eq_true_eq] at second
      omega
    · split at second
      · simp only [Bool.and_eq_true, decide_eq_true_eq] at second
        omega
      · simp only [Bool.and_eq_true, decide_eq_true_eq] at second
        omega
  have size := utf8Size_ofNat bounds.2
  rw [if_neg (by omega), if_neg (by omega), if_neg (by omega)] at size
  omega

/-- One character has at least as many bytes as it was read from. -/
theorem scan_grows (first : UInt8) (rest : Bytes) :
    rest.length + 1 ≤ (scan first rest).1.utf8Size + (scan first rest).2.length := by
  have replaced : replacement.utf8Size = 3 := by decide
  unfold scan
  dsimp only
  repeat' split
  -- A replacement has three bytes, and stands for three at most.
  all_goals simp only [List.length_cons, List.length_nil, replaced]
  all_goals try omega
  -- The others are characters, each of as many bytes as its form has.
  · have size := Char.utf8Size_pos (Char.ofNat first.toNat)
    omega
  · rename_i lead _ _ _ _
    exact Nat.le_trans (by omega) (Nat.add_le_add_right (two_bytes lead) _)
  · rename_i lead _ _ second _ _ _ _
    exact Nat.le_trans (by omega) (Nat.add_le_add_right (three_bytes lead second) _)
  · rename_i lead _ _ second _ _ _ _ _ _ _
    exact Nat.le_trans (by omega) (Nat.add_le_add_right (four_bytes lead second) _)

/-- Lossy decoding never makes a text shorter than its bytes. -/
theorem lossy_length_ge (bytes : Bytes) :
    bytes.length ≤ (asBytes (fromUtf8Lossy bytes)).length := by
  -- Each character is charged to the bytes it was read from.
  induction width : bytes.length using Nat.strongRecOn generalizing bytes with
  | ind width_ ih =>
    cases bytes with
    | nil =>
      subst width
      exact Nat.zero_le _
    | cons first rest =>
      have size := scan_grows first rest
      have shorter := scan_rest_length first rest
      rw [List.length_cons] at width
      have tail := ih _ (show (scan first rest).2.length < width_ by omega) _ rfl
      simp only [asBytes] at tail
      simp only [asBytes, lossy_cons, List.flatMap_cons, List.length_append,
        String.length_utf8EncodeChar]
      omega

end Utf8
