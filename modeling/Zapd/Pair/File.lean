import Zapd.Base.Files
import Zapd.Base.Transition
import Zapd.Elect.Model
import Zapd.Pair.CodeLaws

/-! The pairing file: any number of `load` and `reset` calls, one file operation at a time. -/

namespace Zapd

open Utf8 Files

/-- The published file, and the temporary file of each process. -/
inductive PairName
  | pair
  /-- All threads of a process share this one. -/
  | temp (process : Pid)
  deriving DecidableEq

/-- The door ports a new pairing takes first. -/
def WELL_KNOWN : List Nat := [9998, 21000, 21001, 21002, 21003, 21004, 21005, 21006, 21007]

/-- A door port for a new pairing: a well-known one, or one from 20000 to 29999. -/
def freePort (port : UInt16) : Bool :=
  WELL_KNOWN.contains port.toNat || (20000 ≤ port.toNat && port.toNat < 30000)

/-- What is written for a pairing: its code and a newline. -/
def Pairing.text (p : Pairing) : Bytes := asBytes (p.code ++ "\n")

/-- The directory of the pairing file. -/
abbrev PairVolume := Volume PairName UInt8

def noSuchFile : Error := ⟨.notFound, "No such file or directory (os error 2)"⟩
def fileExists : Error := ⟨.alreadyExists, "File exists (os error 17)"⟩
def notUtf8 : Error := ⟨.invalidData, "stream did not contain valid UTF-8"⟩

/-- Read the pairing file. -/
def readPair (volume : PairVolume) : Except Error Pairing :=
  match volume.read .pair with
  | none => .error noSuchFile
  | some bytes => if Valid bytes then Pairing.parse (fromUtf8Lossy bytes) else .error notUtf8

/-- What the part of a call that is under way is for. -/
inductive Purpose
  /-- A `load` by itself. -/
  | load
  /-- The load that a reset starts with. -/
  | before
  /-- The publish of a reset. -/
  | replace
  /-- The load that a reset ends with. -/
  | after
  deriving DecidableEq

/-- The next operation of a call. -/
inductive Doing
  | reading
  | minting
  | creating (given : Pairing)
  | writing (given : Pairing) (file : Inode)
  | syncing (given : Pairing) (file : Inode)
  | moving (given : Pairing) (file : Inode)
  | removing (moved : Except Error Unit)
  /-- The read behind a publish. -/
  | rereading
  | returned (result : Except Error Pairing)
  /-- Its process died. -/
  | crashed
  deriving DecidableEq

/-- One call, in some thread of a process. -/
structure PairTask where
  process : Pid
  purpose : Purpose
  doing : Doing

/-- The directory, the calls so far, and every pairing that was handed to `publish`. -/
structure PairFile where
  volume : PairVolume
  tasks : List PairTask
  handed : List Pairing

/-- No file exists, and nothing was called. -/
def PairFile.initial : PairFile := { volume := .empty, tasks := [], handed := [] }

/-- One operation of a call. -/
inductive FileOp
  | read
  /-- Draw a port and a token, and hand them to `publish`. -/
  | mint (given : Pairing)
  | create
  | write
  | sync
  | move
  | remove
  /-- The operation fails; a write may have got some way. -/
  | fail (error : Error) (written : Nat)

/-- What happens next to the pairing file. -/
inductive PairAction
  /-- A thread of a process calls `load`. -/
  | load (process : Pid)
  /-- A thread of a process calls `reset`. -/
  | reset (process : Pid)
  /-- A call takes its next operation. -/
  | act (t : Nat) (op : FileOp)
  /-- A process dies. -/
  | crash (process : Pid)

/-- A load has its result. -/
def PairTask.finish (task : PairTask) (result : Except Error Pairing) : PairTask :=
  match task.purpose, result with
  | .before, .ok _ => { task with purpose := .replace, doing := .minting }
  | _, _ => { task with doing := .returned result }

/-- A publish has its result: a load reads whatever it is, and a reset wants it to be good. -/
def PairTask.published (task : PairTask) (moved : Except Error Unit) : PairTask :=
  match task.purpose, moved with
  | .replace, .ok _ => { task with purpose := .after, doing := .reading }
  | .replace, .error e => { task with doing := .returned (.error e) }
  | _, _ => { task with doing := .rereading }

/-- Move the temporary file into place: a reset replaces, and a load does not. -/
def PairTask.move (task : PairTask) (volume : PairVolume) : Except Error PairVolume :=
  if task.purpose = .replace then
    match volume.rename (.temp task.process) .pair with
    | none => .error noSuchFile
    | some moved => .ok moved
  else
    match volume.link (.temp task.process) .pair with
    | none => .error (if (volume.names .pair).isSome then fileExists else noSuchFile)
    | some moved => .ok moved

/-- A call fails where it stands. -/
def PairTask.fail (task : PairTask) (volume : PairVolume) (error : Error) (written : Nat) :
    Option (PairTask × PairVolume) :=
  match task.doing with
  | .reading | .minting | .rereading => some (task.finish (.error error), volume)
  | .creating _ | .syncing .. => some (task.published (.error error), volume)
  | .writing given file =>
    some (task.published (.error error), volume.write file (given.text.take written))
  | .moving .. => some ({ task with doing := .removing (.error error) }, volume)
  -- A temporary file that cannot be removed is left behind.
  | .removing moved => some (task.published moved, volume)
  | .returned _ | .crashed => none

/-- One operation of a call, if it is the call's next. -/
def PairTask.act (task : PairTask) (volume : PairVolume) (op : FileOp) :
    Option (PairTask × PairVolume) :=
  match op, task.doing with
  | .read, .reading =>
    match readPair volume with
    | .ok found => some (task.finish (.ok found), volume)
    | .error e =>
      -- Only a pairing that is not there is minted.
      if e.kind = .notFound then some ({ task with doing := .minting }, volume)
      else some (task.finish (.error e), volume)
  | .read, .rereading => some (task.finish (readPair volume), volume)
  | .mint given, .minting =>
    if freePort given.port then some ({ task with doing := .creating given }, volume) else none
  | .create, .creating given =>
    -- A file that has the temporary name already is opened and emptied.
    let (opened, file) := volume.create (.temp task.process)
    some ({ task with doing := .writing given file }, opened)
  | .write, .writing given file =>
    some ({ task with doing := .syncing given file }, volume.write file given.text)
  | .sync, .syncing given file => some ({ task with doing := .moving given file }, volume)
  -- The temporary name is removed next, whether it could be moved or not.
  | .move, .moving .. =>
    match task.move volume with
    | .ok moved => some ({ task with doing := .removing (.ok ()) }, moved)
    | .error e => some ({ task with doing := .removing (.error e) }, volume)
  | .remove, .removing moved =>
    some (task.published moved, volume.unlink (.temp task.process))
  | .fail error written, _ => task.fail volume error written
  | _, _ => none

/-- A call that has not returned dies with its process. -/
def PairTask.crash (process : Pid) (task : PairTask) : PairTask :=
  match task.doing with
  | .returned _ => task
  -- What was under way stops where it is, with its files as they are.
  | _ => if task.process = process then { task with doing := .crashed } else task

/-- The pairings handed to `publish`, after one more operation. -/
def FileOp.hand (op : FileOp) (handed : List Pairing) : List Pairing :=
  match op with
  | .mint given => given :: handed
  | _ => handed

/-- What happens to the directory and to the calls. -/
def PairFile.step (s : PairFile) : PairAction → Option PairFile
  | .load process =>
    some { s with tasks := s.tasks ++ [{ process, purpose := .load, doing := .reading }] }
  | .reset process =>
    -- A reset loads first, so that what it replaces is there.
    some { s with tasks := s.tasks ++ [{ process, purpose := .before, doing := .reading }] }
  | .act t op =>
    s.tasks[t]?.bind fun task => (task.act s.volume op).map fun next =>
      { volume := next.2, tasks := s.tasks.set t next.1, handed := op.hand s.handed }
  | .crash process => some { s with tasks := s.tasks.map (PairTask.crash process) }

/-- The file that a call has open, until it is moved into place. -/
def Doing.file : Doing → Option Inode
  | .writing _ file | .syncing _ file | .moving _ file => some file
  | _ => none

/-- Whether a call may open its temporary file: no other call of its process is between opening
it and moving it into place, and the published file does not have this name too. -/
def PairFile.free (s : PairFile) (task : PairTask) : Bool :=
  s.tasks.all (fun other => other.process ≠ task.process || other.doing.file = none) &&
    (s.volume.names (.temp task.process) = none ||
      s.volume.names (.temp task.process) ≠ s.volume.names .pair)

/-- Every temporary file is opened by a call that may. -/
def PairFile.Alone (s : PairFile) : PairAction → Prop
  | .act t .create => s.tasks[t]?.all s.free
  | _ => True

instance (s : PairFile) (a : PairAction) : Decidable (s.Alone a) :=
  match a with
  | .act t .create => inferInstanceAs (Decidable (s.tasks[t]?.all s.free))
  | .act _ .read | .act _ (.mint _) | .act _ .write | .act _ .sync | .act _ .move | .act _ .remove
  | .act _ (.fail ..) | .load _ | .reset _ | .crash _ => .isTrue trivial

/-- Nobody called `reset`. -/
def PairFile.OnlyLoads (s : PairFile) : Prop := ∀ task ∈ s.tasks, task.purpose = .load

end Zapd
