import Zapd.Id

/-! Ids are canonical: one id for each kind, host and name, whatever host was proposed. -/

namespace Zapd

open Utf8 Text

/-- A character of `[a-z0-9-]`. -/
def isPlain (c : Char) : Bool := c.isLower || c.isDigit || c == '-'

/-- A text of the form `[a-z0-9][a-z0-9-]{0,15}`. -/
def IsName (n : String) : Prop :=
  ∃ (first : Char) (rest : List Char), n.toList = first :: rest ∧
    (first.isLower ∨ first.isDigit) ∧ rest.length ≤ 15 ∧ ∀ c ∈ rest, isPlain c

/-- What a node chooses of its id: a known kind and a well-formed name. -/
structure Choice where
  kind : String
  name : String
  known : kind ∈ KINDS
  named : IsName name

namespace Choice

/-- The id of a choice on a host. -/
def on (chosen : Choice) (host : String) : String := formatId chosen.kind host chosen.name

/-- A proposal names the choice, with no host or with any one part in the host's place. -/
def Proposed (chosen : Choice) (proposal : String) : Prop :=
  proposal = chosen.kind ++ "/" ++ chosen.name ∨
    ∃ claimed : String, '/' ∉ claimed.toList ∧ proposal = chosen.on claimed

end Choice

/-- A plain character is ASCII. -/
theorem isPlain_ascii {c : Char} (plain : isPlain c) : c.toNat < 128 := by
  have kept := plain_ascii c
  -- A plain character is one that the label's filter keeps as it is.
  rwa [show (c.isLower || c.isDigit || c == '-') = true from plain, if_pos rfl] at kept

/-- The separator is not a plain character. -/
theorem separator_not_mem_plain {chars : List Char} (plain : ∀ c ∈ chars, isPlain c) :
    '/' ∉ chars := by
  intro member
  exact absurd (plain '/' member) (by decide)

/-- The byte of a lowercase letter or a digit passes the check for one. -/
theorem checks_initial {c : Char} (ascii : c.toNat < 128) :
    (isAsciiLowercase (asciiByte c) || isAsciiDigit (asciiByte c)) = true ↔
      c.isLower = true ∨ c.isDigit = true := by
  -- The byte has the value of the character.
  simp only [isAsciiLowercase, isAsciiDigit, asciiByte_toNat ascii, Bool.or_eq_true,
    Bool.and_eq_true, decide_eq_true_eq, isLower_iff, isDigit_iff]

/-- The byte of a plain character passes the check for the characters of a name. -/
theorem checks_plain {c : Char} (ascii : c.toNat < 128) :
    (isAsciiLowercase (asciiByte c) || isAsciiDigit (asciiByte c) ||
      asciiByte c == hyphen) = true ↔ isPlain c = true := by
  -- The hyphen is the only character with the hyphen's byte.
  have same : asciiByte c = hyphen ↔ c = '-' := by
    rw [← UInt8.toNat_inj, asciiByte_toNat ascii, ← Char.toNat_inj]
    rfl
  rw [Bool.or_eq_true, checks_initial ascii, beq_iff_eq, same, isPlain, Bool.or_eq_true,
    Bool.or_eq_true, beq_iff_eq]

/-- The checks on a byte hold of ASCII only. -/
theorem checked_small {b : UInt8}
    (checked : isAsciiLowercase b || isAsciiDigit b || b == hyphen) : b.toNat < 128 := by
  simp only [isAsciiLowercase, isAsciiDigit, Bool.or_eq_true, Bool.and_eq_true, decide_eq_true_eq,
    beq_iff_eq] at checked
  -- Letters, digits and the hyphen are all in the lower half of the bytes.
  rcases checked with (lower | digit) | rfl
  · omega
  · omega
  · decide

/-- A name starts with a plain character too. -/
theorem initial_plain {c : Char} (initial : c.isLower ∨ c.isDigit) : isPlain c := by
  rw [isPlain, Bool.or_eq_true, Bool.or_eq_true]
  exact .inl initial

/-- Every character of a name is plain. -/
theorem IsName.plain {n : String} (named : IsName n) : ∀ c ∈ n.toList, isPlain c := by
  obtain ⟨first, rest, text, initial, _, later⟩ := named
  rw [text]
  exact List.forall_mem_cons.mpr ⟨initial_plain initial, later⟩

/-- On ASCII text the check on the bytes is the one on the characters. -/
theorem nameOk_ascii {n : String} (ascii : ∀ c ∈ n.toList, c.toNat < 128) :
    nameOk n = true ↔ IsName n := by
  -- Each character is one byte, so bytes and characters are counted alike.
  have bytes : asBytes n = n.toList.map asciiByte := by
    have encoded := asBytes_ascii ascii
    rwa [String.ofList_toList] at encoded
  unfold nameOk IsName
  rw [bytes]
  cases text : n.toList with
  | nil => simp
  | cons first rest =>
    rw [text] at ascii
    obtain ⟨firstAscii, restAscii⟩ := List.forall_mem_cons.mp ascii
    -- Behind the first character the byte check is the character check.
    have others : (rest.map asciiByte).all (fun c => isAsciiLowercase c || isAsciiDigit c ||
        c == hyphen) = true ↔ ∀ c ∈ rest, isPlain c := by
      rw [List.all_map, List.all_eq_true]
      exact forall₂_congr fun c member => checks_plain (restAscii c member)
    -- The length, the first character and the others are checked one by one.
    simp only [List.map_cons, List.all_cons, Bool.and_eq_true, decide_eq_true_eq, List.length_cons,
      List.length_map, checks_initial firstAscii, checks_plain firstAscii, others,
      List.cons.injEq]
    constructor
    · rintro ⟨⟨short, initial⟩, _, later⟩
      exact ⟨first, rest, ⟨rfl, rfl⟩, initial, by omega, later⟩
    · rintro ⟨_, _, ⟨rfl, rfl⟩, initial, short, later⟩
      exact ⟨⟨by omega, initial⟩, initial_plain initial, later⟩

/-- The check on a name's bytes accepts the names and nothing else. -/
theorem nameOk_iff {n : String} : nameOk n = true ↔ IsName n := by
  constructor
  · intro good
    -- A checked byte is ASCII, so the text is.
    have small : ∀ b ∈ asBytes n, b.toNat < 128 := by
      unfold nameOk at good
      split at good
      · cases good
      · rename_i first rest bytes
        rw [bytes]
        simp only [Bool.and_eq_true, List.all_eq_true] at good
        exact fun b member => checked_small (good.2 b member)
    exact (nameOk_ascii (ascii_of_asBytes small)).mp good
  · intro named
    -- The characters of a name are ASCII to begin with.
    exact (nameOk_ascii fun c member => isPlain_ascii (named.plain c member)).mpr named

/-- A text is its parts with the separator between them. -/
theorem eq_of_split {text : String} {separator : Char} {parts : List String}
    (split_eq : split text separator = parts) :
    text.toList = [separator].intercalate (parts.map String.toList) ∧
      ∀ part ∈ parts, separator ∉ part.toList := by
  subst split_eq
  have lists : (split text separator).map String.toList = text.toList.splitOn separator := by
    simp [split, Function.comp_def]
  refine ⟨by rw [lists, List.intercalate_splitOn], ?_⟩
  intro part among
  -- The part is one of the split characters.
  have member := List.mem_map_of_mem (f := String.toList) among
  rw [lists] at member
  exact not_mem_of_mem_splitOn member

/-- Parts that do not hold the separator are what a text of them splits into. -/
theorem split_of_eq {text : String} {separator : Char} {parts : List String} (some : parts ≠ [])
    (joined : text.toList = [separator].intercalate (parts.map String.toList))
    (solid : ∀ part ∈ parts, separator ∉ part.toList) : split text separator = parts := by
  -- Splitting undoes joining, since no part hides a separator.
  have lists : text.toList.splitOn separator = parts.map String.toList := by
    rw [joined]
    refine List.splitOn_intercalate separator ?_ (by simpa using some)
    intro part among
    obtain ⟨p, member, rfl⟩ := List.mem_map.mp among
    exact solid p member
  simp [split, lists, Function.comp_def]

/-- A name has no separator in it. -/
theorem IsName.solid {n : String} (named : IsName n) : '/' ∉ n.toList :=
  separator_not_mem_plain named.plain

namespace Choice

/-- A kind and a name behind it are two parts. -/
theorem split_short (chosen : Choice) :
    split (chosen.kind ++ "/" ++ chosen.name) '/' = [chosen.kind, chosen.name] := by
  refine split_of_eq (List.cons_ne_nil _ _) ?_ ?_
  · -- The text is the two parts with one separator between.
    simp
  · intro part among
    rcases List.mem_pair.mp among with rfl | rfl
    · exact separator_not_mem_kind chosen.known
    · exact chosen.named.solid

/-- An id is three parts, when its host is one. -/
theorem split_on (chosen : Choice) {host : String} (solid : '/' ∉ host.toList) :
    split (chosen.on host) '/' = [chosen.kind, host, chosen.name] := by
  refine split_of_eq (List.cons_ne_nil _ _) ?_ ?_
  · -- The text is the three parts with two separators between.
    simp [on, formatId]
  · intro part among
    simp only [List.mem_cons, List.not_mem_nil, or_false] at among
    rcases among with rfl | rfl | rfl
    · exact separator_not_mem_kind chosen.known
    · exact solid
    · exact chosen.named.solid

/-- An id that is one choice's is no other's. -/
theorem on_inj {chosen other : Choice} {host : String} (solid : '/' ∉ host.toList)
    (same : chosen.on host = other.on host) : chosen = other := by
  -- The parts of the id are the kind, the host and the name.
  have parts := chosen.split_on solid
  rw [same, other.split_on solid] at parts
  obtain ⟨kind, rest⟩ := List.cons.inj parts
  obtain ⟨_, rest⟩ := List.cons.inj rest
  obtain ⟨name, _⟩ := List.cons.inj rest
  cases chosen
  cases other
  cases kind
  cases name
  rfl

end Choice

/-- A proposal is stamped exactly when it names a choice, and then as that choice on the host. -/
theorem stamp_iff {proposed host id : String} :
    stamp proposed host = some id ↔
      ∃ chosen : Choice, chosen.Proposed proposed ∧ id = chosen.on host := by
  constructor
  · intro stamped
    obtain ⟨k, name, parts, known, good, rfl⟩ := stamp_parts.mp stamped
    refine ⟨⟨k, name, known, nameOk_iff.mp good⟩, ?_, rfl⟩
    -- The proposal is its parts, with separators between them.
    rcases parts with parts | ⟨claimed, parts⟩
    · obtain ⟨joined, _⟩ := eq_of_split parts
      exact .inl (String.toList_inj.mp (by simpa using joined))
    · obtain ⟨joined, solid⟩ := eq_of_split parts
      refine .inr ⟨claimed, solid claimed (by simp), ?_⟩
      exact String.toList_inj.mp (by simpa [Choice.on, formatId] using joined)
  · rintro ⟨chosen, proposal, rfl⟩
    refine stamp_parts.mpr ⟨chosen.kind, chosen.name, ?_, chosen.known,
      nameOk_iff.mpr chosen.named, rfl⟩
    -- Either form splits into its parts again.
    rcases proposal with rfl | ⟨claimed, solid, rfl⟩
    · exact .inl chosen.split_short
    · exact .inr ⟨claimed, chosen.split_on solid⟩

/-- A label is 1 to 16 plain characters. -/
structure IsLabel (host : String) : Prop where
  some : 1 ≤ host.toList.length
  short : host.toList.length ≤ 16
  plain : ∀ c ∈ host.toList, isPlain c

/-- What is not plain is replaced, and what replaces it is plain. -/
theorem replaced_plain (c : Char) : isPlain (if isPlain c then c else '-') := by
  split
  · assumption
  · decide

/-- The host label of any hostname is a label. -/
theorem label_isLabel (hostname : String) : IsLabel (label hostname) := by
  unfold label
  dsimp only
  split
  · -- The label that replaces an empty one.
    have local_plain : "local".toList.all isPlain = true := by decide
    exact ⟨by decide, by decide, List.all_eq_true.mp local_plain⟩
  · rename_i nonempty
    refine ⟨?_, ?_, ?_⟩
    · rw [String.toList_ofList]
      exact List.length_pos_iff.mpr fun empty => nonempty (by rw [empty]; rfl)
    · -- The filtered text is cut to the limit.
      rw [String.toList_ofList]
      exact List.length_take_le _ _
    · -- Every character that is left went through the filter.
      rw [String.toList_ofList]
      intro c member
      obtain ⟨d, _, rfl⟩ := List.mem_map.mp (List.mem_of_mem_take member)
      exact replaced_plain d

/-- No plain character is a capital letter. -/
theorem toLower_plain {c : Char} (plain : isPlain c) : c.toLower = c := by
  refine dif_neg ?_
  rintro ⟨low, high⟩
  have least : 65 ≤ c.toNat := UInt32.le_iff_toNat_le.mp low
  have most : c.toNat ≤ 90 := UInt32.le_iff_toNat_le.mp high
  -- The capital letters lie between the digits and the lowercase letters.
  simp only [isPlain, Bool.or_eq_true, isLower_iff, isDigit_iff, beq_iff_eq] at plain
  rcases plain with (lower | digit) | rfl
  · omega
  · omega
  · exact absurd least (by decide)

/-- A label is its own host label. -/
theorem label_of_isLabel {host : String} (labelled : IsLabel host) : label host = host := by
  -- There is no dot to cut at, nothing to replace, and nothing past the limit.
  have undotted : '.' ∉ host.toList := fun member =>
    absurd (labelled.plain '.' member) (by decide)
  have first : split host '.' = [host] := by
    simp [split, List.splitOn_eq_singleton undotted]
  have lower : host.toList.map Char.toLower = host.toList :=
    (List.map_congr_left fun c member => toLower_plain (labelled.plain c member)).trans
      (List.map_id _)
  have kept : (host.toList.map fun c => if isPlain c then c else '-') = host.toList :=
    (List.map_congr_left fun c member => if_pos (labelled.plain c member)).trans (List.map_id _)
  have whole : host.toList.take 16 = host.toList := List.take_of_length_le labelled.short
  have nonempty : host.toList.isEmpty = false := by
    have some := labelled.some
    cases text : host.toList with
    | nil => simp [text] at some
    | cons => rfl
  unfold isPlain at kept
  simp only [label, first, List.head?_cons, Option.getD_some, lower, kept, whole, nonempty,
    String.ofList_toList]
  rfl

/-- A label has no separator in it. -/
theorem IsLabel.solid {host : String} (labelled : IsLabel host) : '/' ∉ host.toList :=
  separator_not_mem_plain labelled.plain

/-- An id whose host is one part names its choice again. -/
theorem stamp_on (chosen : Choice) {host : String} (solid : '/' ∉ host.toList) (next : String) :
    stamp (chosen.on host) next = some (chosen.on next) :=
  stamp_iff.mpr ⟨chosen, .inr ⟨host, solid, rfl⟩, rfl⟩

/-- Two proposals stamped on one host have one id just when they name one choice. -/
theorem same_id_iff {p q host i j : String} (solid : '/' ∉ host.toList)
    (first : stamp p host = some i) (second : stamp q host = some j) :
    i = j ↔ ∃ chosen : Choice, chosen.Proposed p ∧ chosen.Proposed q := by
  constructor
  · intro same
    obtain ⟨chosen, proposed, rfl⟩ := stamp_iff.mp first
    obtain ⟨other, proposed', rfl⟩ := stamp_iff.mp second
    -- One id is one choice's.
    obtain rfl := Choice.on_inj solid same
    exact ⟨chosen, proposed, proposed'⟩
  · rintro ⟨chosen, proposed, proposed'⟩
    -- Both are stamped as the choice on the host.
    rw [stamp_iff.mpr ⟨chosen, proposed, rfl⟩] at first
    rw [stamp_iff.mpr ⟨chosen, proposed', rfl⟩] at second
    exact (Option.some.inj first).symm.trans (Option.some.inj second)

/--
A host label is 1 to 16 plain characters and its own label. A stamped proposal's id has exactly
three parts: a known kind, the label and a name, both the proposal's; stamped again it keeps them.
Two stamped proposals have one id just when they name one choice, and every proposal of a choice is
stamped.
-/
theorem ids_canonical :
    (∀ hostname, IsLabel (label hostname) ∧ label (label hostname) = label hostname) ∧
    (∀ p hostname id, stamp p (label hostname) = some id →
      ∃ chosen : Choice, chosen.Proposed p ∧ id = chosen.on (label hostname) ∧
        split id '/' = [chosen.kind, label hostname, chosen.name] ∧ kind id = kind p ∧
        (∀ host, stamp id host = some (chosen.on host)) ∧ stamp id (label hostname) = some id) ∧
    (∀ p q hostname i j, stamp p (label hostname) = some i → stamp q (label hostname) = some j →
      (i = j ↔ ∃ chosen : Choice, chosen.Proposed p ∧ chosen.Proposed q)) ∧
    (∀ (chosen : Choice) p hostname, chosen.Proposed p →
      stamp p (label hostname) = some (chosen.on (label hostname))) := by
  -- A label is one part of an id.
  have solid : ∀ hostname, '/' ∉ (label hostname).toList := fun hostname =>
    (label_isLabel hostname).solid
  refine ⟨?_, ?_, ?_, ?_⟩
  · intro hostname
    exact ⟨label_isLabel hostname, label_of_isLabel (label_isLabel hostname)⟩
  · intro p hostname id stamped
    -- The id is that of the choice the proposal names.
    obtain ⟨chosen, proposed, rfl⟩ := stamp_iff.mp stamped
    exact ⟨chosen, proposed, rfl, chosen.split_on (solid hostname), kind_stamp stamped,
      stamp_on chosen (solid hostname), stamp_on chosen (solid hostname) _⟩
  · intro p q hostname i j first second
    exact same_id_iff (solid hostname) first second
  · intro chosen p hostname proposed
    exact stamp_iff.mpr ⟨chosen, proposed, rfl⟩

/-- An agent that calls itself `n1`. -/
def Choice.agent : Choice :=
  { kind := "agent", name := "n1", known := by decide
    named := ⟨'n', ['1'], rfl, .inl rfl, by decide, List.forall_mem_singleton.mpr rfl⟩ }

/-- An agent keeps its id on one machine, whether it claims another one or none. -/
theorem ids_canonical_agent :
    (∃ chosen : Choice, chosen.Proposed "agent/spark/n1" ∧
      "agent/dgx/n1" = chosen.on (label "DGX.local") ∧
      split "agent/dgx/n1" '/' = [chosen.kind, label "DGX.local", chosen.name] ∧
      kind "agent/dgx/n1" = kind "agent/spark/n1" ∧
      (∀ host, stamp "agent/dgx/n1" host = some (chosen.on host)) ∧
      stamp "agent/dgx/n1" (label "DGX.local") = some "agent/dgx/n1") ∧
    ("agent/dgx/n1" = "agent/dgx/n1" ↔
      ∃ chosen : Choice, chosen.Proposed "agent/spark/n1" ∧ chosen.Proposed "agent/n1") ∧
    stamp "agent/n1" (label "DGX.local") = some (Choice.agent.on (label "DGX.local")) := by
  obtain ⟨_, canonical, same, accepted⟩ := ids_canonical
  exact ⟨canonical _ _ _ (by decide), same _ _ "DGX.local" _ _ (by decide) (by decide),
    accepted Choice.agent _ _ (.inl rfl)⟩

end Zapd
