import Mathlib.Data.List.Basic
import Mathlib.Logic.Function.Basic

/-! Names bound to files: what creating, writing, linking, renaming and removing do. -/

namespace Files

/-- A file, by its number, whatever names it has. -/
abbrev Inode := Nat

/-- A directory of names, and the content of every file that ever existed. -/
structure Volume (ν β : Type) where
  names : ν → Option Inode
  content : Inode → List β
  /-- The number of the next new file. -/
  next : Inode

variable {ν β : Type}

/-- No name is bound. -/
def Volume.empty : Volume ν β := { names := fun _ => none, content := fun _ => [], next := 0 }

/-- The content behind a name. -/
def Volume.read (v : Volume ν β) (name : ν) : Option (List β) := (v.names name).map v.content

/-- Write at the start of a file: what lies behind the new content stays. -/
def Volume.write (v : Volume ν β) (file : Inode) (data : List β) : Volume ν β :=
  { v with content :=
      Function.update v.content file (data ++ (v.content file).drop data.length) }

/-- A write shows only through the names of its file. -/
theorem read_write {v : Volume ν β} {name : ν} {file : Inode} (data : List β)
    (other : v.names name ≠ some file) : (v.write file data).read name = v.read name := by
  unfold Volume.read Volume.write
  -- A missing name reads as nothing before and after.
  cases bound : v.names name with
  | none => rfl
  | some inode =>
    have differ : inode ≠ file := fun same => other (by rw [bound, same])
    simp [Function.update_of_ne differ]

variable [DecidableEq ν]

/-- Open a file for writing: an existing one is emptied, and a missing one is created. -/
def Volume.create (v : Volume ν β) (name : ν) : Volume ν β × Inode :=
  match v.names name with
  | some file => ({ v with content := Function.update v.content file [] }, file)
  | none =>
    ({ names := Function.update v.names name (some v.next)
       content := Function.update v.content v.next []
       next := v.next + 1 }, v.next)

/-- Give a file one more name, which must not exist. -/
def Volume.link (v : Volume ν β) (source target : ν) : Option (Volume ν β) :=
  match v.names source, v.names target with
  | some file, none => some { v with names := Function.update v.names target (some file) }
  | _, _ => none

/-- Move a name over another; two names of one file both stay. -/
def Volume.rename (v : Volume ν β) (source target : ν) : Option (Volume ν β) :=
  match v.names source with
  | none => none
  | some file =>
    if v.names target = some file then some v
    else some { v with
      names := Function.update (Function.update v.names source none) target (some file) }

/-- Remove a name, if it exists. -/
def Volume.unlink (v : Volume ν β) (name : ν) : Volume ν β :=
  { v with names := Function.update v.names name none }

/-- Only files that exist have names. -/
def Volume.Sound (v : Volume ν β) : Prop := ∀ name file, v.names name = some file → file < v.next

/-- Creating empties the file a name has, or makes a new one. -/
theorem create_cases (v : Volume ν β) (name : ν) :
    (∃ file, v.names name = some file ∧
      v.create name = ({ v with content := Function.update v.content file [] }, file)) ∨
    (v.names name = none ∧ v.create name =
      ({ names := Function.update v.names name (some v.next)
         content := Function.update v.content v.next []
         next := v.next + 1 }, v.next)) := by
  -- The name is bound or it is not.
  unfold Volume.create
  split
  · rename_i file bound
    exact .inl ⟨file, bound, rfl⟩
  · rename_i missing
    exact .inr ⟨missing, rfl⟩

/-- A link was made exactly when the source existed and the target did not. -/
theorem link_eq_some {v v' : Volume ν β} {source target : ν}
    (linked : v.link source target = some v') :
    ∃ file, v.names source = some file ∧ v.names target = none ∧
      v' = { v with names := Function.update v.names target (some file) } := by
  -- Three of the four cases make no link.
  unfold Volume.link at linked
  split at linked <;> cases linked
  rename_i file bound missing
  exact ⟨file, bound, missing, rfl⟩

/-- A rename that is not between names of one file moves the source's file. -/
theorem rename_eq_some {v v' : Volume ν β} {source target : ν}
    (renamed : v.rename source target = some v') :
    ∃ file, v.names source = some file ∧ (v.names target ≠ some file →
      v' = { v with
        names := Function.update (Function.update v.names source none) target (some file) }) := by
  unfold Volume.rename at renamed
  split at renamed
  · cases renamed
  · rename_i file bound
    -- Two names of one file would both have stayed.
    refine ⟨file, bound, fun differ => ?_⟩
    rw [if_neg differ] at renamed
    exact (Option.some.inj renamed).symm

/-- A name goes on to be bound as before, or as it is now bound. -/
theorem Volume.Sound.bind {v : Volume ν β} (sound : v.Sound) {name : ν} {file : Option Inode}
    (exists_ : ∀ inode, file = some inode → inode < v.next) :
    ({ v with names := Function.update v.names name file } : Volume ν β).Sound := by
  intro other inode bound
  -- The other names are bound as before.
  by_cases same : other = name
  · subst same
    simp only [Function.update_self] at bound
    exact exists_ inode bound
  · simp only [Function.update_of_ne same] at bound
    exact sound other inode bound

/-- Removing a name shows through no other. -/
theorem read_unlink {v : Volume ν β} {name other : ν} (differ : other ≠ name) :
    (v.unlink name).read other = v.read other := by
  simp [Volume.read, Volume.unlink, Function.update_of_ne differ]

/-- Creating shows through no other name, unless one leads to the file that is emptied. -/
theorem read_create {v : Volume ν β} (sound : v.Sound) {name other : ν} (differ : other ≠ name)
    (apart : ∀ file, v.names name = some file → v.names other ≠ some file) :
    (v.create name).1.read other = v.read other := by
  rcases create_cases v name with ⟨file, bound, same⟩ | ⟨_, same⟩ <;> rw [same]
  · cases found : v.names other with
    | none => simp [Volume.read, found]
    | some inode =>
      have old : inode ≠ file := fun same => apart file bound (by rw [found, same])
      simp [Volume.read, found, Function.update_of_ne old]
  · cases found : v.names other with
    | none => simp [Volume.read, found, Function.update_of_ne differ]
    | some inode =>
      -- The new file is none of the old ones.
      have old : inode ≠ v.next := Nat.ne_of_lt (sound other inode found)
      simp [Volume.read, found, Function.update_of_ne differ, Function.update_of_ne old]

end Files
