import Mathlib.Logic.Function.Basic
import Mathlib.Data.List.Basic

/-! Ownership by the latest claim: whoever claimed a key last owns it until they let it go. -/

namespace Ownership

variable {κ ω : Type*} [DecidableEq κ]

/-- Every claim made so far, most recent first, and who has let go of theirs. -/
structure Ledger (κ ω : Type*) where
  claims : List (κ × ω)
  released : ω → Bool

namespace Ledger

/-- The claimant of a key's latest claim. -/
def latest (ledger : Ledger κ ω) (key : κ) : Option ω :=
  (ledger.claims.find? (·.1 = key)).map Prod.snd

/-- The owner of a key: its latest claimant, unless that one has let go. -/
def owner (ledger : Ledger κ ω) (key : κ) : Option ω :=
  (ledger.latest key).filter (!ledger.released ·)

/-- Claim a key over whoever owns it. -/
def claim (ledger : Ledger κ ω) (key : κ) (who : ω) : Ledger κ ω :=
  { ledger with claims := (key, who) :: ledger.claims }

/-- Let go of everything claimed. -/
def release [DecidableEq ω] (ledger : Ledger κ ω) (who : ω) : Ledger κ ω :=
  { ledger with released := Function.update ledger.released who true }

/-- An owner has claimed the key last and not let go. -/
theorem owner_eq_some {ledger : Ledger κ ω} {key : κ} {who : ω} :
    ledger.owner key = some who ↔ ledger.latest key = some who ∧ ledger.released who = false := by
  simp only [owner, Option.filter_eq_some_iff, Bool.not_eq_true']

/-- A new claimant that has not let go before owns the key. -/
theorem owner_claim_self {ledger : Ledger κ ω} {key : κ} {who : ω}
    (holding : ledger.released who = false) : (ledger.claim key who).owner key = some who := by
  simp [owner_eq_some, latest, claim, holding]

/-- A claim changes the owner of no other key. -/
theorem owner_claim_of_ne {ledger : Ledger κ ω} {key other : κ} {who : ω}
    (different : other ≠ key) : (ledger.claim key who).owner other = ledger.owner other := by
  simp [owner, latest, claim, different.symm]

variable [DecidableEq ω]

/-- Once the owner lets go, the key has no owner. -/
theorem owner_release_self {ledger : Ledger κ ω} {key : κ} {who : ω}
    (owned : ledger.owner key = some who) : (ledger.release who).owner key = none := by
  have last : (ledger.release who).latest key = some who := (owner_eq_some.mp owned).1
  rw [owner, last]
  simp [release]

/-- Letting go changes nothing for a key someone else owns, or nobody. -/
theorem owner_release_of_ne {ledger : Ledger κ ω} {key : κ} {who : ω}
    (notOwned : ledger.owner key ≠ some who) :
    (ledger.release who).owner key = ledger.owner key := by
  -- Only the latest claimant of the key is asked whether it let go.
  have same : (ledger.release who).latest key = ledger.latest key := rfl
  cases last : ledger.latest key with
  | none => rw [owner, owner, same, last]; rfl
  | some other =>
    by_cases self : other = who
    · subst self
      have gone : ledger.released other = true := by
        by_contra holding
        exact notOwned (owner_eq_some.mpr ⟨last, by simpa using holding⟩)
      rw [owner, owner, same, last]
      simp [release, Option.filter, gone]
    · rw [owner, owner, same, last]
      simp [release, Option.filter, self]

end Ledger

end Ownership
