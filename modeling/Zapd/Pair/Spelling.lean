import Zapd.Pair.CodeLaws

/-! Which texts are read as a pairing: its code, and its code with another spelling of the port. -/

namespace Zapd

open Utf8 Text

/-- The signs a number may start with: none, or a plus sign. -/
def sign (plus : Bool) : List Char := if plus then ['+'] else []

/-- A code whose port is written behind a sign and some zeros. -/
def spelling (plus : Bool) (zeros : Nat) (p : Pairing) : List Char :=
  codeStart.toList ++
    (sign plus ++ (List.replicate zeros '0' ++ Nat.toDigits 10 p.port.toNat) ++ ['/', '#'] ++
      hexChars p.key)

/-- The one spelling of a pairing is its code: nothing but white space is added to it. -/
def MintedOnly (s : String) : Prop :=
  ∀ p, Pairing.parse s = .ok p → trim s.toList = p.code.toList

/-- The code of a pairing whose port is written with a plus sign or with leading zeros. -/
def Respelled (s : String) : Prop :=
  ∃ (p : Pairing) (plus : Bool) (zeros : Nat), p.port ≠ 0 ∧ (plus = true ∨ 0 < zeros) ∧
    trim s.toList = spelling plus zeros p

/-- With no sign and no zeros the spelling is the code. -/
theorem spelling_plain (p : Pairing) : spelling false 0 p = p.code.toList := by
  rw [code_toList]
  rfl

/-- A text that splits is what precedes the separator, the separator, and what follows it. -/
theorem splitOnce_some {separator text front back : List Char}
    (found : splitOnce separator text = some (front, back)) :
    text = front ++ separator ++ back := by
  induction text generalizing front with
  | nil =>
    rw [splitOnce] at found
    split at found
    · -- An empty text holds the empty separator only.
      rename_i empty
      obtain ⟨rfl, rfl⟩ := Prod.mk.inj (Option.some.inj found)
      rw [List.isEmpty_iff.mp empty]
      rfl
    · cases found
  | cons c rest ih =>
    rw [splitOnce] at found
    split at found
    · -- The separator is in front.
      rename_i here
      obtain ⟨rfl, rfl⟩ := Prod.mk.inj (Option.some.inj found)
      exact List.prefix_iff_eq_append.mp (List.isPrefixOf_iff_prefix.mp here) |>.symm
    · -- It comes later, and the first character precedes it.
      obtain ⟨⟨more, last⟩, later, same⟩ := Option.map_eq_some_iff.mp found
      obtain ⟨rfl, rfl⟩ := Prod.mk.inj same
      rw [ih later]
      rfl

/-- What is read as a number is digits, and the number is theirs. -/
theorem decimal_some {text : List Char} {before value : Nat} :
    decimal before text = some value ↔
      (∀ c ∈ text, c.isDigit) ∧ Nat.ofDigitChars 10 text before = value := by
  constructor
  · intro read
    -- Whatever is not a digit is refused on the way.
    have digits : ∀ c ∈ text, c.isDigit := by
      induction text generalizing before with
      | nil => exact fun c member => absurd member List.not_mem_nil
      | cons c rest ih =>
        rw [decimal] at read
        split at read
        · rename_i digit
          exact List.forall_mem_cons.mpr ⟨digit, ih read⟩
        · cases read
    rw [decimal_digits digits] at read
    exact ⟨digits, Option.some.inj read⟩
  · rintro ⟨digits, rfl⟩
    exact decimal_digits digits before

/-- The number that is read behind a sign is that of the digits there. -/
theorem parseU16_sign {plus : Bool} {digits : List Char} {port : UInt16}
    (bare : plus = false → ∀ rest, digits ≠ '+' :: rest) :
    parseU16 (sign plus ++ digits) = some port ↔
      digits ≠ [] ∧ decimal 0 digits = some port.toNat := by
  -- Exactly one sign is taken off.
  have unsigned : parseU16 (sign plus ++ digits) =
      if digits.isEmpty then none
      else (decimal 0 digits).bind fun value =>
        if value < 2 ^ 16 then some (UInt16.ofNat value) else none := by
    have taken : parseU16 (sign plus ++ digits) = parseU16 ('+' :: digits) := by
      cases plus with
      | true => rfl
      | false =>
        rw [sign, if_neg Bool.false_ne_true, List.nil_append]
        unfold parseU16
        split
        · exact absurd rfl (bare rfl _)
        · rfl
    rw [taken, parseU16]
    cases decimal 0 digits with
    | none => rfl
    | some value => rfl
  rw [unsigned]
  cases digits with
  | nil => simp
  | cons c rest =>
    -- Something is written, and only its value is checked.
    have bound := port.toNat_lt
    simp only [List.isEmpty_cons, Bool.false_eq_true, if_false, ne_eq, reduceCtorEq,
      not_false_eq_true, true_and]
    cases decimal 0 (c :: rest) with
    | none => simp
    | some value =>
      -- A number that fits in 16 bits is the value of its own port.
      have fits : value < 2 ^ 16 → ((UInt16.ofNat value = port) ↔ value = port.toNat) := by
        intro small
        rw [← UInt16.toNat_inj, UInt16.toNat_ofNat_of_lt' small]
      rw [Option.bind_some]
      by_cases small : value < 2 ^ 16
      · simp only [if_pos small, Option.some.injEq, fits small]
      · simp only [if_neg small, reduceCtorEq, Option.some.injEq, false_iff]
        omega

/-- A text is read as a number when it is the number's digits behind a sign and zeros. -/
theorem parseU16_some {text : List Char} {port : UInt16} :
    parseU16 text = some port ↔ ∃ plus zeros,
      text = sign plus ++ (List.replicate zeros '0' ++ Nat.toDigits 10 port.toNat) := by
  constructor
  · intro read
    -- The text is a sign, if it starts with one, and what follows.
    obtain ⟨plus, digits, rfl, bare⟩ : ∃ plus digits, text = sign plus ++ digits ∧
        (plus = false → ∀ rest, digits ≠ '+' :: rest) := by
      by_cases signed : ∃ rest, text = '+' :: rest
      · obtain ⟨rest, rfl⟩ := signed
        exact ⟨true, rest, rfl, fun other => by cases other⟩
      · exact ⟨false, text, rfl, fun _ rest same => signed ⟨rest, same⟩⟩
    -- It is digits, so it is those of its number behind zeros.
    obtain ⟨some, value⟩ := (parseU16_sign bare).mp read
    obtain ⟨all, number⟩ := decimal_some.mp value
    obtain ⟨zeros, same⟩ := digits_canonical some all
    rw [number] at same
    exact ⟨plus, zeros, by rw [same]⟩
  · rintro ⟨plus, zeros, rfl⟩
    refine (parseU16_sign ?_).mpr ⟨?_, ?_⟩
    · -- Digits do not start with a sign.
      intro _ rest same
      have first : '+' ∈ List.replicate zeros '0' ++ Nat.toDigits 10 port.toNat := by
        rw [same]
        exact List.mem_cons_self
      exact absurd (isDigit_padded first) (by decide)
    · intro empty
      exact absurd (List.append_eq_nil_iff.mp empty).2 Nat.toDigits_ne_nil
    · exact decimal_some.mpr ⟨fun c member => isDigit_padded member, ofDigitChars_padded _ _⟩

/-- A byte with a value is the digit of that value. -/
theorem unhexDigit_some {b : UInt8} {value : Nat} (read : unhexDigit b = some value) :
    value < 16 ∧ String.utf8EncodeChar (hexDigit value) = [b] := by
  -- The digit has the number of the byte, whichever of the two ranges it is in.
  have same : value < 16 ∧ (hexDigit value).toNat = b.toNat := by
    unfold unhexDigit at read
    split at read
    · rename_i digit
      simp only [isAsciiDigit, Bool.and_eq_true, decide_eq_true_eq] at digit
      obtain rfl := Option.some.inj read
      refine ⟨by omega, ?_⟩
      rw [hexDigit, if_pos (by omega), ofNat_toNat_ascii (by omega)]
      omega
    · split at read
      · rename_i letter
        obtain rfl := Option.some.inj read
        refine ⟨by omega, ?_⟩
        rw [hexDigit, if_neg (by omega), ofNat_toNat_ascii (by omega)]
        omega
      · cases read
  obtain ⟨small, number⟩ := same
  -- A digit is its own byte.
  obtain ⟨encoded, _⟩ := unhexDigit_hexDigit value small
  rw [encoded, number, UInt8.ofNat_toNat]
  exact ⟨small, rfl⟩

/-- Bytes that are read as pairs of digits are the digits of what they are read as. -/
theorem unhexPairs_some {digits bytes : Bytes} (read : unhexPairs digits = some bytes) :
    digits = (hexChars bytes).flatMap String.utf8EncodeChar := by
  induction digits using unhexPairs.induct generalizing bytes with
  | case1 =>
    obtain rfl := Option.some.inj read
    rfl
  | case2 => cases read
  | case3 high low rest ih =>
    simp only [unhexPairs, Option.bind_eq_bind, Option.bind_eq_some_iff] at read
    -- Both digits were read, and so were the pairs behind them.
    obtain ⟨h, readHigh, l, readLow, more, readMore, whole⟩ := read
    obtain rfl := Option.some.inj whole
    obtain ⟨highSmall, highByte⟩ := unhexDigit_some readHigh
    obtain ⟨lowSmall, lowByte⟩ := unhexDigit_some readLow
    -- The byte of the two digits has them as its halves.
    have value : (UInt8.ofNat (16 * h + l)).toNat = 16 * h + l :=
      UInt8.toNat_ofNat_of_lt' (by simp only [UInt8.size]; omega)
    have highHalf : (16 * h + l) / 16 = h := by omega
    have lowHalf : (16 * h + l) % 16 = l := by omega
    simp only [hexChars, List.flatMap_cons, value, highHalf, lowHalf, highByte,
      lowByte, List.cons_append, List.nil_append]
    rw [ih readMore]
    rfl

/-- A text is read as a key when it is the key's own digits. -/
theorem unhex_some {text : List Char} {key : Key} :
    unhex (String.ofList text) = some key ↔ text = hexChars key := by
  constructor
  · intro read
    unfold unhex at read
    split at read
    · cases read
    · split at read
      · cases read
      · rename_i bytes pairs
        split at read
        · obtain rfl := Option.some.inj read
          -- No other text has the same bytes.
          have same := unhexPairs_some pairs
          have encoded :
              asBytes (String.ofList text) = asBytes (String.ofList (hexChars bytes)) := by
            rw [same, asBytes, String.toList_ofList]
          exact String.ofList_injective (asBytes_inj.mp encoded)
        · cases read
  · rintro rfl
    exact unhex_hex key

/-- What separates the port from the key is not in a port behind a sign and zeros. -/
theorem slash_not_mem_port (plus : Bool) (zeros value : Nat) :
    '/' ∉ sign plus ++ (List.replicate zeros '0' ++ Nat.toDigits 10 value) := by
  intro member
  -- It is neither a sign nor a digit.
  rcases List.mem_append.mp member with signed | digit
  · cases plus with
    | true => exact absurd signed (by decide)
    | false => exact absurd signed (by decide)
  · exact absurd (isDigit_padded digit) (by decide)

/-- A text is read as a pairing when it is a spelling of it with white space around. -/
theorem parse_ok {s : String} {p : Pairing} :
    Pairing.parse s = .ok p ↔
      p.port ≠ 0 ∧ ∃ plus zeros, trim s.toList = spelling plus zeros p := by
  constructor
  · intro parsed
    obtain ⟨rest, port, key, text, found, readPort, named, readKey⟩ := parse_parts.mp parsed
    -- Every part was read, so each is a spelling of what it was read as.
    obtain ⟨plus, zeros, rfl⟩ := parseU16_some.mp readPort
    obtain rfl := unhex_some.mp readKey
    exact ⟨named, plus, zeros, by rw [text, splitOnce_some found, spelling]⟩
  · rintro ⟨named, plus, zeros, text⟩
    exact parse_parts.mpr ⟨_, _, _, text,
      splitOnce_append _ (slash_not_mem_port plus zeros p.port.toNat),
      parseU16_some.mpr ⟨plus, zeros, rfl⟩, named, unhex_some.mpr rfl⟩

/-- A spelling is as much longer than the code as its sign and zeros are. -/
theorem spelling_length (plus : Bool) (zeros : Nat) (p : Pairing) :
    (spelling plus zeros p).length = p.code.toList.length + (sign plus).length + zeros := by
  -- The code is the spelling with neither.
  rw [← spelling_plain]
  simp only [spelling, List.length_append, List.length_replicate, sign]
  simp
  omega

/-- A respelled code is accepted, and it is not the code. -/
theorem not_mintedOnly {s : String} (respelled : Respelled s) : ¬ MintedOnly s := by
  intro only
  obtain ⟨p, plus, zeros, named, longer, text⟩ := respelled
  have code := only p (parse_ok.mpr ⟨named, plus, zeros, text⟩)
  -- The code is shorter, by the sign and the zeros.
  have length := spelling_length plus zeros p
  rw [← text, code] at length
  rcases longer with rfl | padded
  · simp only [sign, if_true, List.length_singleton] at length
    omega
  · omega

/-- Only codes as they are minted are accepted just when no port is respelled. -/
theorem minted_only_iff : ∀ s, MintedOnly s ↔ ¬ Respelled s := by
  intro s
  constructor
  · intro only respelled
    exact not_mintedOnly respelled only
  · intro plain p parsed
    -- What was accepted is some spelling of the pairing.
    obtain ⟨named, plus, zeros, text⟩ := parse_ok.mp parsed
    -- With a sign or zeros it would be respelled.
    cases plus with
    | true => exact absurd ⟨p, true, zeros, named, .inl rfl, text⟩ plain
    | false =>
      cases zeros with
      | zero => rw [text, spelling_plain]
      | succ more => exact absurd ⟨p, false, more + 1, named, .inr (Nat.succ_pos more), text⟩ plain

/-- A port with a plus sign and one with a leading zero are accepted, and no router mints them. -/
theorem respelled_accepted :
    ¬ MintedOnly ("ws://127.0.0.1:+21000/#" ++ hex (Key.all 9)) ∧
      ¬ MintedOnly ("ws://127.0.0.1:021000/#" ++ hex (Key.all 9)) := by
  refine ⟨?_, ?_⟩
  · -- The text is evaluated, and so is what is read of it and the code of that.
    intro only
    have parsed : Pairing.parse ("ws://127.0.0.1:+21000/#" ++ hex (Key.all 9)) =
        .ok ⟨21000, Key.all 9⟩ := by decide +kernel
    have same := only _ parsed
    revert same
    decide +kernel
  · refine not_mintedOnly ⟨⟨21000, Key.all 9⟩, false, 1, by decide, .inr Nat.one_pos, ?_⟩
    decide +kernel

end Zapd
