import Zapd.Pair.Code

/-! A pairing code reads back as the pairing it was written from. -/

namespace Zapd

open Utf8 Text

/-- Every digit is one byte, and that byte reads back as the digit's value. -/
theorem unhexDigit_hexDigit (value : Nat) (small : value < 16) :
    String.utf8EncodeChar (hexDigit value) = [UInt8.ofNat (hexDigit value).toNat] ∧
      unhexDigit (UInt8.ofNat (hexDigit value).toNat) = some value := by
  -- There are sixteen digits.
  revert value
  decide

/-- The digits that some bytes are written as. -/
def hexChars (b : Bytes) : List Char :=
  b.flatMap fun x => [hexDigit (x.toNat / 16), hexDigit (x.toNat % 16)]

/-- The digits of some bytes read back as these bytes. -/
theorem unhexPairs_hexChars (b : Bytes) :
    unhexPairs ((hexChars b).flatMap String.utf8EncodeChar) = some b := by
  induction b with
  | nil => rfl
  | cons byte rest ih =>
    have bound := byte.toNat_lt
    obtain ⟨highByte, high⟩ := unhexDigit_hexDigit (byte.toNat / 16) (by omega)
    obtain ⟨lowByte, low⟩ := unhexDigit_hexDigit (byte.toNat % 16) (by omega)
    -- The two halves make the byte again.
    have whole : UInt8.ofNat (16 * (byte.toNat / 16) + byte.toNat % 16) = byte := by
      rw [Nat.div_add_mod, UInt8.ofNat_toNat]
    have split : (hexChars (byte :: rest)).flatMap String.utf8EncodeChar =
        UInt8.ofNat (hexDigit (byte.toNat / 16)).toNat ::
          UInt8.ofNat (hexDigit (byte.toNat % 16)).toNat ::
            (hexChars rest).flatMap String.utf8EncodeChar := by
      simp only [hexChars, List.flatMap_cons, highByte, lowByte, List.cons_append, List.nil_append]
    simp only [split, unhexPairs, high, low, ih, Option.bind_eq_bind, Option.bind_some, whole]
    rfl

/-- Two bytes are written for each byte. -/
theorem hexChars_length (b : Bytes) :
    ((hexChars b).flatMap String.utf8EncodeChar).length = 2 * b.length := by
  induction b with
  | nil => rfl
  | cons byte rest ih =>
    have bound := byte.toNat_lt
    -- Each of the two digits of a byte is one byte of text.
    obtain ⟨highByte, _⟩ := unhexDigit_hexDigit (byte.toNat / 16) (by omega)
    obtain ⟨lowByte, _⟩ := unhexDigit_hexDigit (byte.toNat % 16) (by omega)
    simp only [hexChars, List.flatMap_cons, List.flatMap_append, List.flatMap_nil, highByte,
      lowByte, List.length_append, List.length_cons, List.length_nil] at ih ⊢
    omega

/-- A key that was written in digits is read back. -/
theorem unhex_hex (k : Key) : unhex (String.ofList (hexChars k)) = some k := by
  have bytes : asBytes (String.ofList (hexChars k)) =
      (hexChars k).flatMap String.utf8EncodeChar := by
    simp [asBytes]
  -- There are 64 digits for the 32 bytes.
  have width := hexChars_length k
  rw [k.property] at width
  simp [unhex, bytes, width, unhexPairs_hexChars, k.property]

/-- Digits are read in order, after what was read before them. -/
theorem decimal_digits {digits : List Char} (all : ∀ c ∈ digits, c.isDigit) (before : Nat) :
    decimal before digits = some (Nat.ofDigitChars 10 digits before) := by
  induction digits generalizing before with
  | nil => simp [decimal]
  | cons c rest ih =>
    have first : c.isDigit := all c List.mem_cons_self
    -- The digits behind the first one continue its number.
    have later := ih (fun d member => all d (List.mem_cons_of_mem c member))
    simp only [decimal, first, if_true, Nat.ofDigitChars_cons]
    exact later _

/-- A port that was written in digits is read back. -/
theorem parseU16_digits (port : UInt16) :
    parseU16 (Nat.toDigits 10 port.toNat) = some port := by
  have digits : ∀ c ∈ Nat.toDigits 10 port.toNat, c.isDigit := fun c member =>
    Nat.isDigit_of_mem_toDigits (by decide) (by decide) member
  have value := decimal_digits digits 0
  rw [Nat.ofDigitChars_toDigits (by decide) (by decide)] at value
  have bound := port.toNat_lt
  unfold parseU16
  cases text : Nat.toDigits 10 port.toNat with
  | nil => exact absurd text Nat.toDigits_ne_nil
  | cons c rest =>
    -- No number starts with a sign.
    have unsigned : c ≠ '+' := by
      rintro rfl
      exact absurd (digits '+' (text ▸ List.mem_cons_self)) (by decide)
    rw [text] at value
    simp [unsigned, value, bound]

/-- A text splits at its first separator. -/
theorem splitOnce_append {first : Char} {more front : List Char} (back : List Char)
    (absent : first ∉ front) :
    splitOnce (first :: more) (front ++ (first :: more) ++ back) = some (front, back) := by
  induction front with
  | nil =>
    have here : (first :: more).isPrefixOf (first :: (more ++ back)) = true :=
      List.isPrefixOf_iff_prefix.mpr (List.prefix_append (first :: more) back)
    rw [List.nil_append, List.cons_append, splitOnce, if_pos here]
    simp
  | cons c rest ih =>
    obtain ⟨differ, later⟩ := not_or.mp (mt List.mem_cons.mpr absent)
    -- The separator cannot start before its first character.
    have notHere :
        ¬ (first :: more).isPrefixOf (c :: (rest ++ (first :: more) ++ back)) = true := by
      simp [List.isPrefixOf, differ]
    rw [List.cons_append, List.cons_append, splitOnce, if_neg notHere, ih later]
    rfl

/-- White space around a line is trimmed off, and nothing of a line without white space. -/
theorem trim_surrounded {front line back : List Char} (before : ∀ c ∈ front, isWhitespace c)
    (solid : ∀ c ∈ line, isWhitespace c = false) (behind : ∀ c ∈ back, isWhitespace c) :
    trim (front ++ line ++ back) = line := by
  -- Nothing of the line is dropped, from either end.
  have kept : line.dropWhile isWhitespace = line := dropWhile_of_none solid
  have backwards : line.reverse.dropWhile isWhitespace = line.reverse :=
    dropWhile_of_none fun c member => solid c (List.mem_reverse.mp member)
  have trailing : ∀ c ∈ back.reverse, isWhitespace c := fun c member =>
    behind c (List.mem_reverse.mp member)
  rw [trim, List.append_assoc, List.dropWhile_append_of_pos before, List.dropWhile_append, kept]
  cases line with
  | nil =>
    -- An empty line leaves white space only.
    have all : back.dropWhile isWhitespace = [] := by
      have dropped : (back ++ []).dropWhile isWhitespace = [].dropWhile isWhitespace :=
        List.dropWhile_append_of_pos behind
      rwa [List.append_nil] at dropped
    simp [all]
  | cons c rest =>
    rw [if_neg (by simp), List.reverse_append, List.dropWhile_append_of_pos trailing, backwards,
      List.reverse_reverse]

/-- No character of a code is white space. -/
theorem isWhitespace_printable {c : Char} (low : 0x21 ≤ c.toNat) (high : c.toNat ≤ 0x7E) :
    isWhitespace c = false := by
  simp only [isWhitespace, Bool.or_eq_false_iff, Bool.and_eq_false_iff, decide_eq_false_iff_not,
    beq_eq_false_iff_ne]
  omega

/-- The characters of a code. -/
theorem code_toList (p : Pairing) :
    p.code.toList = codeStart.toList ++
      (Nat.toDigits 10 p.port.toNat ++ ['/', '#'] ++ hexChars p.key) := by
  simp [Pairing.code, hex, hexChars, List.append_assoc]

/-- No character of a code is white space. -/
theorem code_solid (p : Pairing) : ∀ c ∈ p.code.toList, isWhitespace c = false := by
  have fixed : (codeStart.toList ++ ['/', '#']).all (fun c => isWhitespace c == false) = true := by
    decide
  intro c member
  rw [code_toList] at member
  simp only [List.mem_append] at member
  rcases member with start | (port | slash) | key
  · exact beq_iff_eq.mp (List.all_eq_true.mp fixed c (List.mem_append_left _ start))
  · -- The digits of the port are printable.
    obtain ⟨low, high⟩ := isDigit_iff.mp
      (Nat.isDigit_of_mem_toDigits (by decide) (by decide) port)
    exact isWhitespace_printable (by omega) (by omega)
  · exact beq_iff_eq.mp (List.all_eq_true.mp fixed c (List.mem_append_right _ slash))
  · -- There are sixteen digits for the key.
    obtain ⟨byte, _, digit⟩ := List.mem_flatMap.mp key
    have bound := byte.toNat_lt
    have solid : ∀ value < 16, isWhitespace (hexDigit value) = false := by decide
    rcases List.mem_pair.mp digit with rfl | rfl
    · exact solid _ (by omega)
    · exact solid _ (by omega)

/-- No digit of a port starts what separates the port from the key. -/
theorem slash_not_mem_digits (value : Nat) : '/' ∉ Nat.toDigits 10 value := by
  intro member
  exact absurd (Nat.isDigit_of_mem_toDigits (by decide) (by decide) member) (by decide)

/-- A text is read as a pairing when each of its parts is read as one of the pairing's. -/
theorem parse_parts {s : String} {p : Pairing} :
    Pairing.parse s = .ok p ↔ ∃ rest port key : List Char,
      trim s.toList = codeStart.toList ++ rest ∧ splitOnce ['/', '#'] rest = some (port, key) ∧
        parseU16 port = some p.port ∧ p.port ≠ 0 ∧ unhex (String.ofList key) = some p.key := by
  constructor
  · intro parsed
    unfold Pairing.parse at parsed
    dsimp only at parsed
    split at parsed
    case isFalse => cases parsed
    case isTrue starts =>
      have text := List.prefix_iff_eq_append.mp (List.isPrefixOf_iff_prefix.mp starts)
      split at parsed
      · cases parsed
      · rename_i port key found
        split at parsed
        · cases parsed
        · rename_i value readPort
          split at parsed
          · cases parsed
          · rename_i named
            split at parsed
            · cases parsed
            · rename_i readKey
              -- All five checks have passed.
              obtain rfl := Except.ok.inj parsed
              exact ⟨_, port, key, text.symm, found, readPort, named, readKey⟩
  · rintro ⟨rest, port, key, text, found, readPort, named, readKey⟩
    -- The text starts as every code does.
    have starts : codeStart.toList.isPrefixOf (codeStart.toList ++ rest) = true :=
      List.isPrefixOf_iff_prefix.mpr (List.prefix_append ..)
    simp only [Pairing.parse, text, starts, if_true, List.drop_left, found, readPort, named,
      if_false, readKey]

/-- A code with white space around it reads back as its pairing, unless the port is 0. -/
theorem parse_surrounded (p : Pairing) (named : p.port ≠ 0) {front back : String}
    (before : ∀ c ∈ front.toList, isWhitespace c) (behind : ∀ c ∈ back.toList, isWhitespace c) :
    Pairing.parse (front ++ p.code ++ back) = .ok p := by
  have line : trim (front ++ p.code ++ back).toList = p.code.toList := by
    rw [String.toList_append, String.toList_append]
    exact trim_surrounded before (code_solid p) behind
  -- What is left between the white space is the code.
  rw [code_toList] at line
  -- Each part of the code is read back in turn.
  exact parse_parts.mpr ⟨_, _, _, line, splitOnce_append _ (slash_not_mem_digits p.port.toNat),
    parseU16_digits p.port, named, unhex_hex p.key⟩

/-- The line a pairing is written as reads back as the pairing, unless its port is 0. -/
theorem parse_line (p : Pairing) (named : p.port ≠ 0) : Pairing.parse (p.code ++ "\n") = .ok p := by
  have newline : "\n".toList.all isWhitespace = true := by decide
  have nothing : ∀ c ∈ "".toList, isWhitespace c := fun c member => absurd member List.not_mem_nil
  have parsed := parse_surrounded p named nothing (List.all_eq_true.mp newline)
  rwa [String.empty_append] at parsed

/-- One code is that of one pairing, also where the port is 0. -/
theorem code_inj {p q : Pairing} (same : p.code = q.code) : p = q := by
  have text := congrArg String.toList same
  rw [code_toList, code_toList, List.append_cancel_left_eq] at text
  -- Both codes split at the same place, so they have one port and one key.
  have first := @splitOnce_append '/' ['#'] _ (hexChars p.key) (slash_not_mem_digits p.port.toNat)
  rw [text, splitOnce_append _ (slash_not_mem_digits q.port.toNat)] at first
  obtain ⟨ports, keys⟩ := Prod.mk.inj (Option.some.inj first)
  -- The number of one port's digits is that port.
  have port : q.port = p.port := by
    have read := parseU16_digits q.port
    rw [ports, parseU16_digits] at read
    exact (Option.some.inj read).symm
  have key : q.key = p.key := by
    have read := unhex_hex q.key
    rw [keys, unhex_hex] at read
    exact (Option.some.inj read).symm
  cases p
  cases q
  cases port
  cases key
  rfl

/-- A code reads back as its pairing, whatever white space is around it, and no two share one. -/
theorem code_reads_back :
    (∀ (p : Pairing) (front back : String), p.port ≠ 0 →
      (∀ c ∈ front.toList, isWhitespace c) → (∀ c ∈ back.toList, isWhitespace c) →
      Pairing.parse (front ++ p.code ++ back) = .ok p) ∧
    ∀ p q : Pairing, p ≠ q → p.code ≠ q.code := by
  refine ⟨?_, ?_⟩
  · intro p front back named before behind
    exact parse_surrounded p named before behind
  · intro p q differ same
    exact differ (code_inj same)

/-- A code pasted with spaces in front and a line end behind, and another code. -/
theorem code_reads_back_pasted :
    Pairing.parse ("  " ++ (⟨21000, Key.all 9⟩ : Pairing).code ++ "\r\n") =
      .ok ⟨21000, Key.all 9⟩ ∧
    (⟨21000, Key.all 9⟩ : Pairing).code ≠ (⟨21001, Key.all 9⟩ : Pairing).code := by
  have spaces : "  ".toList.all isWhitespace = true := by decide
  have ending : "\r\n".toList.all isWhitespace = true := by decide
  obtain ⟨reads, apart⟩ := code_reads_back
  refine ⟨reads _ _ _ (by decide) (List.all_eq_true.mp spaces) (List.all_eq_true.mp ending), ?_⟩
  exact apart _ _ fun same => absurd (congrArg Pairing.port same) (by decide)

end Zapd
