import Mathlib.Data.List.Lex
import Zapd.Base.Sorted
import Zapd.Codec.Control

/-! The operator's list of nodes, and the list a Python host gets. -/

namespace Zapd

open Utf8 Sorted

def ROLE_PROVIDER : UInt8 := 1
def ROLE_CONSUMER : UInt8 := 2
def ROLE_ROUTER : UInt8 := 3

/-- The role that `zapd ls` prints. -/
def lsRole (role : UInt8) : String :=
  if role = ROLE_PROVIDER then "provider"
  else if role = ROLE_CONSUMER then "consumer"
  else if role = ROLE_ROUTER then "router"
  else "?"

/-- The role a Python host names when it joins. -/
def joinRole (role : String) : Option UInt8 :=
  if role = "provider" then some ROLE_PROVIDER
  else if role = "consumer" then some ROLE_CONSUMER
  else none

/-- The role that a Python host is told of a node. -/
def pyRole (role : UInt8) : String :=
  if role = ROLE_PROVIDER then "provider"
  else if role = ROLE_CONSUMER then "consumer"
  else "router"

/-- A Python host is told the role it joined with, and so is the operator. -/
theorem roles_agree {name : String} {role : UInt8} (joined : joinRole name = some role) :
    pyRole role = name ∧ lsRole role = name := by
  -- A host can join with two of the roles only, and both have one name in both listings.
  unfold joinRole at joined
  split at joined
  · rename_i provider
    cases joined
    exact ⟨provider.symm, provider.symm⟩
  · split at joined
    · rename_i consumer
      cases joined
      exact ⟨consumer.symm, consumer.symm⟩
    · cases joined

/-- The two listings differ in one thing: an unknown role is `?` to the operator, and a router to
a Python host. -/
theorem pyRole_eq_lsRole {role : UInt8} :
    pyRole role = lsRole role ↔
      role = ROLE_PROVIDER ∨ role = ROLE_CONSUMER ∨ role = ROLE_ROUTER := by
  unfold pyRole lsRole
  -- The roles that are known have the same name, and the others have not.
  by_cases provider : role = ROLE_PROVIDER
  · simp [provider]
  · by_cases consumer : role = ROLE_CONSUMER
    · simp [consumer]
    · by_cases router : role = ROLE_ROUTER <;> simp [provider, consumer, router]

end Zapd
