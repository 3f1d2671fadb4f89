import Mathlib.Logic.Function.Basic
import Mathlib.Data.List.Basic

/-! A view of a changing set of keys, folded over announcements and snapshots of it. -/

namespace Announcements

variable {κ : Type*} [DecidableEq κ]

/-- What an observer is told: one key came or went, or which keys there are. -/
inductive Event (κ : Type*)
  | told (key : κ) (present : Bool)
  | snapshot (keys : List κ)

/-- What is known of each key: nothing if it was never mentioned, else whether it is there. -/
abbrev View (κ : Type*) := κ → Option Bool

/-- An announcement settles its key; a snapshot settles its keys and every key mentioned before. -/
def see (view : View κ) : Event κ → View κ
  | .told key present => Function.update view key (some present)
  | .snapshot keys => fun key => if key ∈ keys then some true else (view key).map fun _ => false

/-- The view after a sequence of events. -/
def view (events : List (Event κ)) : View κ := events.foldl see fun _ => none

/-- Later events are seen on top of earlier ones. -/
theorem view_append (earlier later : List (Event κ)) :
    view (earlier ++ later) = later.foldl see (view earlier) :=
  List.foldl_append

/-- Announcements of other keys leave what is known of a key alone. -/
theorem foldl_told_other {events : List (Event κ)} {key : κ}
    (others : ∀ e ∈ events, ∃ other present, e = .told other present ∧ other ≠ key)
    (before : View κ) : events.foldl see before key = before key := by
  -- Each announcement updates the view at its own key only.
  induction events generalizing before with
  | nil => rfl
  | cons e rest ih =>
    obtain ⟨other, present, rfl, different⟩ := others e List.mem_cons_self
    rw [List.foldl_cons, ih fun e member => others e (List.mem_cons_of_mem _ member)]
    exact Function.update_of_ne different.symm _ _

/-- After announcements of one key that all say the same, that is what is known of it. -/
theorem foldl_told_self {events : List (Event κ)} {key : κ} {present : Bool}
    (some_ : events ≠ []) (same : ∀ e ∈ events, e = .told key present) (before : View κ) :
    events.foldl see before key = some present := by
  induction events generalizing before with
  | nil => exact absurd rfl some_
  | cons e rest ih =>
    have first := same e List.mem_cons_self
    subst first
    rw [List.foldl_cons]
    -- The last event decides, and it says the same as the first.
    by_cases last : rest = []
    · subst last
      exact Function.update_self _ _ _
    · exact ih last (fun e member => same e (List.mem_cons_of_mem _ member)) _

end Announcements
