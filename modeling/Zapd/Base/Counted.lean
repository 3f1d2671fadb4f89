import Mathlib.Data.List.Basic

/-! Channels of entries numbered by their sources: each source's in order, and none twice. -/

namespace Counted

variable {β κ : Type*} {channels new : β → List (κ × ℕ)} {counter counter' : κ → ℕ}

/-- Two entries of one source come in the order of their numbers. -/
def Precedes (first second : κ × ℕ) : Prop := first.1 = second.1 → first.2 < second.2

/-- Every source's counter has passed its entries, and they are in order on every channel. -/
structure Sequenced (channels : β → List (κ × ℕ)) (counter : κ → ℕ) : Prop where
  past : ∀ b, ∀ entry ∈ channels b, entry.2 < counter entry.1
  ordered : ∀ b, (channels b).Pairwise Precedes

/-- Entries numbered with the counter as it is, which passes them. -/
structure Numbered (new : β → List (κ × ℕ)) (counter counter' : κ → ℕ) : Prop where
  current : ∀ b, ∀ entry ∈ new b, entry.2 = counter entry.1
  passed : ∀ b, ∀ entry ∈ new b, entry.2 < counter' entry.1
  ordered : ∀ b, (new b).Pairwise Precedes

/-- Nothing is in any channel. -/
theorem Sequenced.empty : Sequenced (fun _ : β => []) counter where
  past b entry member := by cases member
  ordered _ := List.Pairwise.nil

/-- Counters that only grow, and number what is appended, keep every channel in order. -/
theorem Sequenced.append (sequenced : Sequenced channels counter)
    (numbered : Numbered new counter counter') (mono : ∀ k, counter k ≤ counter' k) :
    Sequenced (fun b => channels b ++ new b) counter' where
  past b entry member := by
    rcases List.mem_append.mp member with old | isNew
    · exact Nat.lt_of_lt_of_le (sequenced.past b entry old) (mono entry.1)
    · exact numbered.passed b entry isNew
  ordered b := by
    rw [List.pairwise_append]
    refine ⟨sequenced.ordered b, numbered.ordered b, ?_⟩
    intro old isOld entry isNew same
    -- The counter has passed the old entry, and is at the new one.
    have past := sequenced.past b old isOld
    have current := numbered.current b entry isNew
    rw [same] at past
    omega

/-- If no two channels are appended the same entry, no two channels have the same entry. -/
theorem Sequenced.exclusive (sequenced : Sequenced channels counter)
    (numbered : Numbered new counter counter')
    (before : ∀ b b' entry, entry ∈ channels b → entry ∈ channels b' → b = b')
    (now : ∀ b b' entry, entry ∈ new b → entry ∈ new b' → b = b') {b b' : β} {entry : κ × ℕ}
    (here : entry ∈ channels b ++ new b) (there : entry ∈ channels b' ++ new b') : b = b' := by
  -- An entry that is appended is nowhere yet.
  have apart : ∀ b b', entry ∈ channels b → entry ∉ new b' := by
    intro b b' old isNew
    have past := sequenced.past b entry old
    have current := numbered.current b' entry isNew
    omega
  rcases List.mem_append.mp here with old | isNew <;>
    rcases List.mem_append.mp there with old' | isNew'
  · exact before b b' entry old old'
  · exact absurd isNew' (apart b b' old)
  · exact absurd isNew (apart b' b old')
  · exact now b b' entry isNew isNew'

/-- A channel in order has no entry twice. -/
theorem Precedes.irrefl (entry : κ × ℕ) : ¬ Precedes entry entry :=
  fun precedes => Nat.lt_irrefl _ (precedes rfl)

/-- At most one entry is in order. -/
theorem ordered_single {entries : List (κ × ℕ)} (single : entries.length ≤ 1) :
    entries.Pairwise Precedes := by
  rcases entries with _ | ⟨first, _ | ⟨second, rest⟩⟩
  · exact List.Pairwise.nil
  · exact List.pairwise_singleton _ _
  · simp at single

end Counted
