import Mathlib.Data.List.Perm.Subperm
import Mathlib.Data.List.Count
import Mathlib.Logic.Function.Basic

/-! A stock of permits, some free and each other one held by a member that has joined. -/

namespace Permits

variable {ι : Type*}

/-- The free permits, everyone who has joined, and who of them holds a permit. -/
structure Stock (ι : Type*) where
  free : Nat
  members : List ι
  holds : ι → Bool

/-- Every permit is free or held, and each is held by another member. -/
structure Accounted (capacity : Nat) (stock : Stock ι) : Prop where
  distinct : stock.members.Nodup
  joined : ∀ i, stock.holds i = true → i ∈ stock.members
  total : stock.free + stock.members.countP stock.holds = capacity

variable {capacity : Nat} {stock : Stock ι}

/-- Nobody has joined, and every permit is free. -/
theorem Accounted.full (capacity : Nat) :
    Accounted capacity { free := capacity, members := [], holds := fun _ : ι => false } where
  distinct := List.nodup_nil
  joined _ held := by cases held
  total := rfl

/-- The holders are as many as the permits that are not free, however they are listed. -/
theorem Accounted.holders_le (accounted : Accounted capacity stock) {holders : List ι}
    (distinct : holders.Nodup) (hold : ∀ i ∈ holders, stock.holds i = true) :
    holders.length + stock.free ≤ capacity := by
  -- Each of them is among the members that hold a permit.
  have within : holders ⊆ stock.members.filter stock.holds := by
    intro i member
    exact List.mem_filter.mpr ⟨accounted.joined i (hold i member), hold i member⟩
  have fewer := (distinct.subperm within).length_le
  rw [← List.countP_eq_length_filter] at fewer
  have total := accounted.total
  omega

/-- Where no permit is free, as many members as there are permits hold one. -/
theorem Accounted.exhausted (accounted : Accounted capacity stock) (none_ : stock.free = 0) :
    ∃ holders : List ι, holders.Nodup ∧ holders.length = capacity ∧
      ∀ i ∈ holders, stock.holds i = true := by
  refine ⟨stock.members.filter stock.holds, accounted.distinct.filter _, ?_, ?_⟩
  · have total := accounted.total
    rw [← List.countP_eq_length_filter]
    omega
  · intro i member
    exact (List.mem_filter.mp member).2

/-- Where nobody holds a permit, all are free. -/
theorem Accounted.idle (accounted : Accounted capacity stock)
    (nobody : ∀ i, stock.holds i = false) : stock.free = capacity := by
  have none_ : stock.members.countP stock.holds = 0 := by
    rw [List.countP_eq_zero]
    intro i _
    simp [nobody i]
  have total := accounted.total
  omega

/-- Nothing that is accounted for has changed where the same members hold permits. -/
theorem Accounted.congr (accounted : Accounted capacity stock) {holds : ι → Bool}
    (same : ∀ i, holds i = stock.holds i) :
    Accounted capacity { stock with holds } := by
  have all : holds = stock.holds := funext same
  subst all
  exact accounted

variable [DecidableEq ι]

/-- Everyone but one member counts as before. -/
theorem countP_update_of_not_mem {members : List ι} {holds : ι → Bool} {i : ι} {now : Bool}
    (absent : i ∉ members) :
    members.countP (Function.update holds i now) = members.countP holds := by
  refine List.countP_congr fun j member => ?_
  rw [Function.update_of_ne (ne_of_mem_of_not_mem member absent)]

/-- Somebody new joins, with a permit where one is free. -/
theorem Accounted.join (accounted : Accounted capacity stock) {i : ι} (new : i ∉ stock.members)
    {now : Bool} {free : Nat} (taken : free + (if now then 1 else 0) = stock.free) :
    Accounted capacity
      { free, members := i :: stock.members, holds := Function.update stock.holds i now } where
  distinct := List.nodup_cons.mpr ⟨new, accounted.distinct⟩
  joined j held := by
    by_cases same : j = i
    · exact same ▸ List.mem_cons_self
    · dsimp only at held
      rw [Function.update_of_ne same] at held
      exact List.mem_cons_of_mem _ (accounted.joined j held)
  total := by
    have total := accounted.total
    -- The new member is the only one that counts differently.
    show free + (i :: stock.members).countP (Function.update stock.holds i now) = capacity
    rw [List.countP_cons, countP_update_of_not_mem new, Function.update_self]
    omega

/-- A member gives its permit back. -/
theorem Accounted.release (accounted : Accounted capacity stock) {i : ι}
    (held : stock.holds i = true) :
    Accounted capacity
      { stock with free := stock.free + 1, holds := Function.update stock.holds i false } where
  distinct := accounted.distinct
  joined j held := by
    by_cases same : j = i
    · subst same
      dsimp only at held
      rw [Function.update_self] at held
      cases held
    · dsimp only at held
      rw [Function.update_of_ne same] at held
      exact accounted.joined j held
  total := by
    -- The member is taken out of the list, where it stands once.
    have apart := List.perm_cons_erase (accounted.joined i held)
    have absent : i ∉ stock.members.erase i := by
      rw [accounted.distinct.mem_erase_iff]
      simp
    have before := apart.countP_eq stock.holds
    have after := apart.countP_eq (Function.update stock.holds i false)
    have total := accounted.total
    rw [List.countP_cons, if_pos held] at before
    rw [List.countP_cons, Function.update_self, countP_update_of_not_mem absent] at after
    show stock.free + 1 + stock.members.countP (Function.update stock.holds i false) = capacity
    simp only [Bool.false_eq_true, if_false] at after
    omega

end Permits
