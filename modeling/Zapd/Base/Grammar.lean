import Zapd.Base.Reader

/-! Grammars of readers: the bytes a reader accepts, as spellings of its values, and which of them a
writer gives back. -/

namespace Parse

open Utf8 (Bytes)

variable {ε α ρ : Type}

/-- A reader accepts exactly the bytes of the spellings that fit, each as the value it spells. -/
def Spells (reader : Reader ε α) (bytes : ρ → Bytes) (value : ρ → α) (fits : ρ → Prop) : Prop :=
  ∀ input v rest, reader input = .ok (v, rest) ↔
    ∃ raw, fits raw ∧ input = bytes raw ++ rest ∧ v = value raw

/-- The spelling can be told from its bytes, whatever follows them. -/
def Unambiguous (bytes : ρ → Bytes) (fits : ρ → Prop) : Prop :=
  ∀ raw raw' rest rest', fits raw → fits raw' → bytes raw ++ rest = bytes raw' ++ rest' →
    raw = raw' ∧ rest = rest'

/-- A writer writes no fewer bytes than any spelling of its value has, and those of a spelling just
where that one is sound. -/
structure Restores (write : α → Bytes) (bytes : ρ → Bytes) (value : ρ → α) (sound : ρ → Prop) :
    Prop where
  grows : ∀ raw, (bytes raw).length ≤ (write (value raw)).length
  same : ∀ raw, write (value raw) = bytes raw ↔ sound raw

/-- A writer writes at most so many times the bytes a spelling of its value has. -/
def Stretches (factor : Nat) (write : α → Bytes) (bytes : ρ → Bytes) (value : ρ → α) : Prop :=
  ∀ raw, (write (value raw)).length ≤ factor * (bytes raw).length

variable {bytes : ρ → Bytes} {value : ρ → α} {fits sound : ρ → Prop} {write : α → Bytes}
  {factor : Nat}

/-- Where neither part got shorter, the whole is the same only if both parts are. -/
theorem append_restored {a b a' b' : Bytes} (first : a.length ≤ a'.length)
    (second : b.length ≤ b'.length) : a' ++ b' = a ++ b ↔ a' = a ∧ b' = b := by
  constructor
  · intro same
    have lengths := congrArg List.length same
    simp only [List.length_append] at lengths
    exact List.append_inj same (by omega)
  · rintro ⟨rfl, rfl⟩
    rfl

/-- A number of items is read off the bytes of as many spellings. -/
theorem Spells.times {item : Reader ε α} (each : Spells item bytes value fits) {count : Nat}
    {input rest : Bytes} {values : List α} :
    Parse.times count item input = .ok (values, rest) ↔
      ∃ raws : List ρ, raws.length = count ∧ (∀ raw ∈ raws, fits raw) ∧
        input = raws.flatMap bytes ++ rest ∧ values = raws.map value := by
  induction count generalizing input values with
  | zero =>
    rw [Parse.times, pure_ok]
    constructor
    · rintro ⟨rfl, rfl⟩
      exact ⟨[], rfl, by simp, rfl, rfl⟩
    · rintro ⟨raws, none_, _, rfl, rfl⟩
      obtain rfl := List.eq_nil_of_length_eq_zero none_
      exact ⟨rfl, rfl⟩
  | succ count ih =>
    simp only [Parse.times, bind_ok, pure_ok]
    constructor
    · rintro ⟨first, mid, head, others, _, tail, rfl, rfl⟩
      -- One spelling comes off the front, and the others off what it leaves.
      obtain ⟨raw, fit, rfl, rfl⟩ := (each _ _ _).mp head
      obtain ⟨raws, length, fitAll, rfl, rfl⟩ := ih.mp tail
      exact ⟨raw :: raws, by rw [List.length_cons, length], List.forall_mem_cons.mpr ⟨fit, fitAll⟩,
        by rw [List.flatMap_cons, List.append_assoc], rfl⟩
    · rintro ⟨raws, length, fitAll, rfl, rfl⟩
      obtain ⟨raw, others, rfl⟩ := List.exists_cons_of_length_eq_add_one length
      obtain ⟨fit, fitAll⟩ := List.forall_mem_cons.mp fitAll
      refine ⟨value raw, others.flatMap bytes ++ rest, (each _ _ _).mpr ⟨raw, fit, ?_, rfl⟩,
        others.map value, rest, ih.mpr ⟨others, Nat.succ.inj length, fitAll, rfl, rfl⟩, rfl, rfl⟩
      rw [List.flatMap_cons, List.append_assoc]

/-- As many spellings can be told from their bytes as there are known to be. -/
theorem Unambiguous.flatMap (each : Unambiguous bytes fits) {raws raws' : List ρ}
    {rest rest' : Bytes} (fit : ∀ raw ∈ raws, fits raw) (fit' : ∀ raw ∈ raws', fits raw)
    (length : raws.length = raws'.length)
    (same : raws.flatMap bytes ++ rest = raws'.flatMap bytes ++ rest') :
    raws = raws' ∧ rest = rest' := by
  induction raws generalizing raws' with
  | nil =>
    obtain rfl := List.eq_nil_of_length_eq_zero length.symm
    exact ⟨rfl, same⟩
  | cons raw raws ih =>
    obtain ⟨raw', others, rfl⟩ := List.exists_cons_of_length_eq_add_one length.symm
    obtain ⟨head, tail⟩ := List.forall_mem_cons.mp fit
    obtain ⟨head', tail'⟩ := List.forall_mem_cons.mp fit'
    rw [List.flatMap_cons, List.flatMap_cons, List.append_assoc, List.append_assoc] at same
    -- The first one is told, and so what follows it is the same.
    obtain ⟨rfl, behind⟩ := each _ _ _ _ head head' same
    obtain ⟨rfl, end_⟩ := ih tail tail' (Nat.succ.inj length) behind
    exact ⟨rfl, end_⟩

/-- Items written one after the other give back the spellings that are all sound. -/
theorem Restores.flatMap (each : Restores write bytes value sound) :
    Restores (fun values : List α => values.flatMap write) (fun raws : List ρ => raws.flatMap bytes)
      (List.map value) (fun raws => ∀ raw ∈ raws, sound raw) := by
  have grows : ∀ raws : List ρ,
      (raws.flatMap bytes).length ≤ ((raws.map value).flatMap write).length := by
    intro raws
    induction raws with
    | nil => exact Nat.le_refl _
    | cons raw raws ih =>
      have head := each.grows raw
      simp only [List.flatMap_cons, List.map_cons, List.length_append]
      omega
  refine ⟨grows, fun raws => ?_⟩
  induction raws with
  | nil => simp
  | cons raw raws ih =>
    -- Neither the first item nor the others get shorter.
    simp only [List.map_cons, List.flatMap_cons, List.forall_mem_cons]
    rw [append_restored (each.grows raw) (grows raws), each.same, ih]

/-- Items written one after the other stretch no more than each of them. -/
theorem Stretches.flatMap (each : Stretches factor write bytes value) :
    Stretches factor (fun values : List α => values.flatMap write)
      (fun raws : List ρ => raws.flatMap bytes) (List.map value) := by
  intro raws
  induction raws with
  | nil => exact Nat.zero_le _
  | cons raw raws ih =>
    have head := each raw
    simp only [List.flatMap_cons, List.map_cons, List.length_append, Nat.mul_add] at ih ⊢
    omega

end Parse
