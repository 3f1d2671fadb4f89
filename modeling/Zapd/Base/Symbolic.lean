import Mathlib.Data.List.Basic
import Mathlib.Logic.Function.Basic

/-! Bytes as an attacker without the keys sees them, and values that are drawn once. -/

namespace Symbolic

variable {κ ι α : Type}

/-- A plain byte, or one byte of the authentication code of an input under a key. -/
inductive Symbol (κ : Type)
  | plain (byte : UInt8)
  | mac (key : κ) (input : List (Symbol κ)) (index : Nat)

mutual

/-- Symbols are equal when they are built alike: codes of different inputs never agree. -/
def Symbol.decide [DecidableEq κ] : (left right : Symbol κ) → Decidable (left = right)
  | .plain a, .plain b => decidable_of_iff (a = b) (by simp)
  | .plain _, .mac .. => .isFalse (by simp)
  | .mac .., .plain _ => .isFalse (by simp)
  | .mac key input i, .mac key' input' j =>
    match Symbol.decideAll input input' with
    | .isTrue same => decidable_of_iff (key = key' ∧ i = j) (by simp [same])
    | .isFalse differ => .isFalse (by simp [differ])

/-- Strings of symbols are equal symbol by symbol. -/
def Symbol.decideAll [DecidableEq κ] : (left right : List (Symbol κ)) → Decidable (left = right)
  | [], [] => .isTrue rfl
  | [], _ :: _ => .isFalse (by simp)
  | _ :: _, [] => .isFalse (by simp)
  | a :: left, b :: right =>
    match Symbol.decide a b, Symbol.decideAll left right with
    | .isTrue same, .isTrue rest => .isTrue (by rw [same, rest])
    | .isFalse differ, _ => .isFalse (by simp [differ])
    | _, .isFalse differ => .isFalse (by simp [differ])

end

instance [DecidableEq κ] : DecidableEq (Symbol κ) := Symbol.decide

/-- Bytes that anyone can write. -/
def plain (bytes : List UInt8) : List (Symbol κ) := bytes.map .plain

/-- The authentication code of an input, of a given width. -/
def tag (width : Nat) (key : κ) (input : List (Symbol κ)) : List (Symbol κ) :=
  (List.range width).map fun index => .mac key input index

/-- Whether an attacker with the leaked keys, who has seen these symbols, can write this one. -/
def known [DecidableEq κ] (leaked : κ → Bool) (seen : List (Symbol κ)) : Symbol κ → Bool
  | .plain _ => true
  | .mac key input index => leaked key || seen.contains (.mac key input index)

/-- Every code that was seen is of an input it was issued for. -/
def Issued (issued : κ → List (Symbol κ) → Prop) (seen : List (Symbol κ)) : Prop :=
  ∀ key input index, Symbol.mac key input index ∈ seen → issued key input

@[simp] theorem plain_length (bytes : List UInt8) : (plain bytes : List (Symbol κ)).length =
    bytes.length := List.length_map ..

/-- Plain strings are equal only as bytes. -/
theorem plain_inj {left right : List UInt8} :
    (plain left : List (Symbol κ)) = plain right ↔ left = right := by
  refine ⟨fun same => ?_, congrArg plain⟩
  exact List.map_injective_iff.mpr (fun _ _ equal => Symbol.plain.inj equal) same

/-- A code of at least one byte determines its key and its input. -/
theorem tag_inj {width : Nat} (wide : 0 < width) {key key' : κ} {input input' : List (Symbol κ)} :
    tag width key input = tag width key' input' ↔ key = key' ∧ input = input' := by
  refine ⟨fun same => ?_, by rintro ⟨rfl, rfl⟩; rfl⟩
  -- The first byte of the code names both.
  obtain ⟨rest, rfl⟩ := Nat.exists_eq_succ_of_ne_zero (Nat.pos_iff_ne_zero.mp wide)
  simp only [tag, List.range_succ_eq_map, List.map_cons, List.cons.injEq, Symbol.mac.injEq] at same
  exact ⟨same.1.1, same.1.2.1⟩

section

variable {issued : κ → List (Symbol κ) → Prop} {seen : List (Symbol κ)}

/-- Nothing was seen at first. -/
theorem Issued.nil : Issued issued [] := by
  intro key input index member
  cases member

/-- Seeing more keeps what was issued before, if the new codes are of issued inputs. -/
theorem Issued.append {more : List (Symbol κ)} (before : Issued issued seen)
    (new : Issued issued more) : Issued issued (seen ++ more) := by
  intro key input index member
  rcases List.mem_append.mp member with old | fresh
  · exact before key input index old
  · exact new key input index fresh

/-- Plain bytes hold no code. -/
theorem Issued.plain (bytes : List UInt8) : Issued issued (plain bytes) := by
  intro key input index member
  -- A plain byte is no byte of a code.
  obtain ⟨byte, _, same⟩ := List.mem_map.mp member
  cases same

/-- The code of an issued input is issued. -/
theorem Issued.tag {width : Nat} {key : κ} {input : List (Symbol κ)} (isIssued : issued key input) :
    Issued issued (tag width key input) := by
  intro key' input' index member
  obtain ⟨i, _, same⟩ := List.mem_map.mp member
  -- Every byte of the code names its key and input.
  cases same
  exact isIssued

/-- More inputs may count as issued. -/
theorem Issued.mono {issued' : κ → List (Symbol κ) → Prop} (before : Issued issued seen)
    (more : ∀ key input, issued key input → issued' key input) : Issued issued' seen := by
  intro key input index member
  exact more key input (before key input index member)

/-- An attacker can write a code under a key that did not leak only if it was issued. -/
theorem Issued.of_known [DecidableEq κ] {leaked : κ → Bool} {width : Nat} {key : κ}
    {input : List (Symbol κ)} (before : Issued issued seen) (wide : 0 < width)
    (secret : leaked key = false)
    (written : (Symbolic.tag width key input).all (known leaked seen)) :
    issued key input := by
  have first : Symbol.mac key input 0 ∈ Symbolic.tag width key input :=
    List.mem_map.mpr ⟨0, List.mem_range.mpr wide, rfl⟩
  -- Without the key, its first byte must have been seen.
  have isKnown := List.all_eq_true.mp written _ first
  simp only [known, secret, Bool.false_or, List.contains_iff_mem] at isKnown
  exact before key input 0 isKnown

end

/-- Only values that were drawn are owned, and no value belongs to two owners. -/
structure Drawn (drawn : List α) (owned : ι → Option α) : Prop where
  within : ∀ i value, owned i = some value → value ∈ drawn
  distinct : ∀ i j value, owned i = some value → owned j = some value → i = j

section

variable {drawn : List α} {owned : ι → Option α}

/-- Nobody owns anything at first. -/
theorem Drawn.nobody (nothing : ∀ i, owned i = none) : Drawn drawn owned where
  within i value owns := by cases (nothing i).symm.trans owns
  distinct i _ value owns := by cases (nothing i).symm.trans owns

/-- More values may be drawn. -/
theorem Drawn.more (before : Drawn drawn owned) (value : α) : Drawn (value :: drawn) owned where
  within i other owns := List.mem_cons_of_mem value (before.within i other owns)
  distinct := before.distinct

/-- A value that is drawn now can be given to anyone. -/
theorem Drawn.give [DecidableEq ι] (before : Drawn drawn owned) (i : ι) {value : α}
    (fresh : value ∉ drawn) : Drawn (value :: drawn) (Function.update owned i (some value)) := by
  -- The other owners own what they did, and the new one owns the new value.
  have old : ∀ j other, j ≠ i → Function.update owned i (some value) j = some other →
      owned j = some other := by
    intro j other differ owns
    rwa [Function.update_of_ne differ] at owns
  have new : ∀ other, Function.update owned i (some value) i = some other → other = value := by
    intro other owns
    rw [Function.update_self] at owns
    exact (Option.some.inj owns).symm
  constructor
  · intro j other owns
    by_cases same : j = i
    · subst same
      rw [new other owns]
      exact List.mem_cons_self
    · exact List.mem_cons_of_mem value (before.within j other (old j other same owns))
  · intro j k other first second
    -- The new owner cannot share what was not drawn before.
    by_cases left : j = i <;> by_cases right : k = i
    · rw [left, right]
    · subst left
      rw [new other first] at second
      exact absurd (before.within k value (old k value right second)) fresh
    · subst right
      rw [new other second] at first
      exact absurd (before.within j value (old j value left first)) fresh
    · exact before.distinct j k other (old j other left first) (old k other right second)

/-- An owner can keep its value or give it up. -/
theorem Drawn.keep [DecidableEq ι] (before : Drawn drawn owned) {i : ι} {kept : Option α}
    (same : kept = owned i ∨ kept = none) : Drawn drawn (Function.update owned i kept) := by
  have back : ∀ j value, Function.update owned i kept j = some value → owned j = some value := by
    intro j value owns
    by_cases self : j = i
    · subst self
      rw [Function.update_self] at owns
      -- What is kept is what was owned.
      rcases same with rfl | rfl
      · exact owns
      · cases owns
    · rwa [Function.update_of_ne self] at owns
  -- Whoever owns something now owned it before.
  constructor
  · intro j value owns
    exact before.within j value (back j value owns)
  · intro j k value first second
    exact before.distinct j k value (back j value first) (back k value second)

end

end Symbolic
