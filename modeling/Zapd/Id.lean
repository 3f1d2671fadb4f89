import Zapd.Base.Text
import Zapd.Base.Utf8

/-! Node ids: `<kind>/<host>/<name>`, stamped by the router. -/

namespace Zapd

open Utf8 Text

/-- The kinds a node may be. -/
def KINDS : List String :=
  ["agent", "browser", "cli", "desktop", "dev", "engine", "gpu", "host", "ide", "mcp", "router",
    "sandbox"]

/-- The parts of a text between the occurrences of a separator. -/
def split (text : String) (separator : Char) : List String :=
  (text.toList.splitOn separator).map String.ofList

/-- A host label: the first label of a hostname, made lowercase and plain, or `local`. -/
def label (hostname : String) : String :=
  let first := (split hostname '.').head?.getD ""
  let l := ((first.toList.map Char.toLower).map fun c =>
    if c.isLower || c.isDigit || c == '-' then c else '-').take 16
  if l.isEmpty then "local" else String.ofList l

/-- `a` to `z`. -/
def isAsciiLowercase (b : UInt8) : Bool := 97 ≤ b.toNat && b.toNat ≤ 122

/-- `0` to `9`. -/
def isAsciiDigit (b : UInt8) : Bool := 48 ≤ b.toNat && b.toNat ≤ 57

/-- The hyphen, as a byte. -/
def hyphen : UInt8 := 45

/-- A name is `[a-z0-9][a-z0-9-]{0,15}`. -/
def nameOk (n : String) : Bool :=
  match asBytes n with
  | [] => false
  | first :: rest =>
    -- The first byte may not be a hyphen.
    (first :: rest).length ≤ 16 && (isAsciiLowercase first || isAsciiDigit first) &&
      (first :: rest).all fun c => isAsciiLowercase c || isAsciiDigit c || c == hyphen

/-- An id of a kind, on a host, with a name. -/
def formatId (kind host name : String) : String := kind ++ "/" ++ host ++ "/" ++ name

/-- The id a hello from `proposed` registers as on `host`, if it names a kind and a good name. -/
def stamp (proposed host : String) : Option String :=
  match split proposed '/' with
  | [kind, name] =>
    if KINDS.contains kind && nameOk name then some (formatId kind host name) else none
  -- Whatever host was proposed is overwritten.
  | [kind, _, name] =>
    if KINDS.contains kind && nameOk name then some (formatId kind host name) else none
  | _ => none

/-- The kind of an id. -/
def kind (id : String) : String := (split id '/').head?.getD ""

/-- A proposal is stamped when it is a known kind and a good name, with at most one part between. -/
theorem stamp_parts {proposed host id : String} :
    stamp proposed host = some id ↔ ∃ k name,
      (split proposed '/' = [k, name] ∨ ∃ claimed, split proposed '/' = [k, claimed, name]) ∧
        k ∈ KINDS ∧ nameOk name = true ∧ id = formatId k host name := by
  constructor
  · intro stamped
    unfold stamp at stamped
    split at stamped
    · -- Without a host.
      rename_i k name parts
      obtain ⟨⟨known, good⟩, rfl⟩ := by simpa using stamped
      exact ⟨k, name, .inl parts, by simpa using known, good, rfl⟩
    · -- With a host, which the stamp ignores.
      rename_i k claimed name parts
      obtain ⟨⟨known, good⟩, rfl⟩ := by simpa using stamped
      exact ⟨k, name, .inr ⟨claimed, parts⟩, by simpa using known, good, rfl⟩
    · cases stamped
  · rintro ⟨k, name, parts, known, good, rfl⟩
    have kinds : KINDS.contains k = true := by simpa using known
    -- The check is the same for two parts and for three.
    rcases parts with parts | ⟨claimed, parts⟩
    · simp only [stamp, parts, kinds, good, Bool.and_self, if_true]
    · simp only [stamp, parts, kinds, good, Bool.and_self, if_true]

/-- A stamped id is the host between a known kind and a good name, both of them the proposal's. -/
theorem stamp_eq_some {proposed host id : String} (stamped : stamp proposed host = some id) :
    ∃ name, kind proposed ∈ KINDS ∧ nameOk name = true ∧
      id = formatId (kind proposed) host name := by
  obtain ⟨k, name, parts, known, good, rfl⟩ := stamp_parts.mp stamped
  -- The kind comes first in either form.
  have named : kind proposed = k := by
    rcases parts with parts | ⟨claimed, parts⟩
    · simp [kind, parts]
    · simp [kind, parts]
  rw [named]
  exact ⟨name, known, good, rfl⟩

/-- A known kind has no separator in it. -/
theorem separator_not_mem_kind {k : String} (known : k ∈ KINDS) : '/' ∉ k.toList := by
  -- The list of kinds is checked one by one.
  revert known k
  decide

/-- The kind of a formatted id is the kind it was formatted with. -/
theorem kind_formatId {k host name : String} (known : k ∈ KINDS) :
    kind (formatId k host name) = k := by
  -- Splitting stops at the first separator, which follows the kind.
  have plain := separator_not_mem_kind known
  have parts : (formatId k host name).toList.splitOn '/' =
      k.toList :: (host ++ "/" ++ name).toList.splitOn '/' := by
    simp only [formatId, String.toList_append, List.append_assoc]
    exact List.splitOn_append_cons_self_of_not_mem plain _
  simp [kind, split, parts]

/-- Stamping keeps the kind of the proposal. -/
theorem kind_stamp {proposed host id : String} (stamped : stamp proposed host = some id) :
    kind id = kind proposed := by
  -- The stamped id begins with the kind that was proposed.
  obtain ⟨name, known, _, rfl⟩ := stamp_eq_some stamped
  exact kind_formatId known

/-- Every stamped id has a separator in it. -/
theorem separator_mem_stamp {proposed host id : String} (stamped : stamp proposed host = some id) :
    '/' ∈ id.toList := by
  obtain ⟨name, _, _, rfl⟩ := stamp_eq_some stamped
  simp [formatId]

/-- No node is registered under the router's own name. -/
theorem stamp_ne_zapd {proposed host id : String} (stamped : stamp proposed host = some id) :
    id ≠ "zapd" := by
  rintro rfl
  -- The router's name has no separator.
  have separated := separator_mem_stamp stamped
  revert separated
  decide

/-- No node is registered under the empty id, which addresses the router. -/
theorem stamp_ne_empty {proposed host id : String} (stamped : stamp proposed host = some id) :
    id ≠ "" := by
  rintro rfl
  have separated := separator_mem_stamp stamped
  revert separated
  decide

/-- Lowercase letters, digits and hyphens are ASCII. -/
theorem plain_ascii (c : Char) :
    (if c.isLower || c.isDigit || c == '-' then c else '-').toNat < 128 := by
  have hyphenAscii : '-'.toNat < 128 := by decide
  split
  · rename_i plain
    simp only [Bool.or_eq_true, beq_iff_eq] at plain
    rcases plain with (lower | digit) | rfl
    · have bounds := isLower_iff.mp lower
      omega
    · have bounds := isDigit_iff.mp digit
      omega
    · exact hyphenAscii
  · -- Whatever else there is has been replaced.
    exact hyphenAscii

/-- A host label has at most 16 bytes. -/
theorem label_length (hostname : String) : (asBytes (label hostname)).length ≤ 16 := by
  -- Every character of the label is a lowercase letter, a digit or a hyphen.
  unfold label
  dsimp only
  split
  · -- An empty label is replaced by a short one.
    decide
  · -- At most 16 characters are kept, each of one byte.
    rw [asBytes_ascii, List.length_map]
    · exact List.length_take_le _ _
    · intro c member
      obtain ⟨d, _, rfl⟩ := List.mem_map.mp (List.mem_of_mem_take member)
      exact plain_ascii d

/-- The kinds are short. -/
theorem kind_length {k : String} (known : k ∈ KINDS) : (asBytes k).length ≤ 7 := by
  revert known k
  decide

/-- A good name has at most 16 bytes. -/
theorem nameOk_length {n : String} (good : nameOk n = true) : (asBytes n).length ≤ 16 := by
  unfold nameOk at good
  split at good
  · cases good
  · rename_i first rest bytes
    simp only [Bool.and_eq_true, decide_eq_true_eq] at good
    -- The length is the first thing the check asks.
    rw [bytes]
    exact good.1.1

/-- A stamped id has at most 41 bytes. -/
theorem stamp_length {proposed hostname id : String}
    (stamped : stamp proposed (label hostname) = some id) : (asBytes id).length ≤ 41 := by
  obtain ⟨name, known, good, rfl⟩ := stamp_eq_some stamped
  -- Seven bytes of kind, two separators, 16 of host and 16 of name.
  have kindLength := kind_length known
  have hostLength := label_length hostname
  have nameLength := nameOk_length good
  have slash : (asBytes "/").length = 1 := by decide
  simp only [formatId, asBytes_append, List.length_append, slash]
  omega

example : stamp "agent/spark/hanzo-42" "dgx" = some "agent/dgx/hanzo-42" := by decide

example : stamp "a/b/c/d" "dgx" = none := by decide

example : label "DGX.local" = "dgx" := by decide

end Zapd
