import Zapd.Elect.Model

/-! The election on Windows: a lock that names nobody, a recorded pid, and a named pipe. -/

namespace Zapd

/-- Where a process stands between two of its atomic steps. -/
inductive PipeStand
  /-- `embed` was not called. -/
  | out
  /-- Another program of this user, which made a pipe of the same name. -/
  | rogue
  /-- Waiting for the lock. -/
  | standing
  /-- The lock is taken; the temporary file of `announce` is written next. -/
  | locked
  /-- The temporary file is written; it is renamed over `zapd.pid` next. -/
  | recording
  /-- `announce` returned, with an error or without; `ELECTED` is set next. -/
  | announced
  /-- Inside `serve`; the first instance of the pipe is made next. -/
  | elected
  /-- Accepting connections, until the process exits. -/
  | serving
  /-- `serve` returned an error; `ELECTED` is cleared next. -/
  | failed
  /-- `ELECTED` is cleared; the lock is dropped next. -/
  | resigning
  /-- Sleeping, to stand again. -/
  | resting
  deriving DecidableEq

/-- A process: its election thread, and its `ELECTED` flag. -/
structure PipeProcess where
  life : Life := .unborn
  stand : PipeStand := .out
  flag : Bool := false

/-- The lock, the recorded pid, the pipe, all processes, and all dials. -/
structure PipeElection where
  /-- The holder of the lock, whom the kernel names to nobody. -/
  lock : Option Pid
  /-- The pid in `zapd.pid`, as it is read back. -/
  record : Option Pid
  /-- The processes that have instances of the pipe. -/
  pipe : List Pid
  procs : Pid → PipeProcess
  dials : DialId → Dialing
  /-- Every HELLO that was said, with the process it was said to. -/
  hellos : List (DialId × Pid)

/-- No process has started. -/
def PipeElection.initial : PipeElection :=
  { lock := none, record := none, pipe := [], procs := fun _ => {}, dials := fun _ => {},
    hellos := [] }

/-- A live process stands here. -/
def PipeElection.stands (s : PipeElection) (p : Pid) (stand : PipeStand) : Bool :=
  (s.procs p).life = .alive && (s.procs p).stand = stand

/-- Change one process. -/
def PipeElection.setProc (s : PipeElection) (p : Pid) (proc : PipeProcess) : PipeElection :=
  { s with procs := Function.update s.procs p proc }

/-- A process goes on. -/
def PipeElection.goOn (s : PipeElection) (p : Pid) (stand : PipeStand) : PipeElection :=
  s.setProc p { s.procs p with stand }

/-- Change one dial. -/
def PipeElection.setDial (s : PipeElection) (d : DialId) (dialing : Dialing) : PipeElection :=
  { s with dials := Function.update s.dials d dialing }

/-- One atomic step of a process, or of a node that dials. -/
inductive PipeAction
  | spawn (p : Pid)
  | embed (p : Pid)
  /-- A process that never embeds makes an instance of the pipe. -/
  | plant (p : Pid)
  /-- `LockFileEx` is granted. -/
  | lock (p : Pid)
  /-- `announce` writes its temporary file. -/
  | write (p : Pid)
  /-- `announce` renames it over `zapd.pid`. -/
  | rename (p : Pid)
  /-- `announce` fails, which is logged. -/
  | miss (p : Pid)
  /-- `ELECTED.store(true)` -/
  | elect (p : Pid)
  /-- The first instance of the pipe is made, which must be new. -/
  | bind (p : Pid)
  /-- `serve` returns an error. -/
  | fail (p : Pid)
  /-- `ELECTED.store(false)` -/
  | resign (p : Pid)
  | unlock (p : Pid)
  /-- The sleep is over. -/
  | wake (p : Pid)
  /-- The process exits or is killed. -/
  | exit (p : Pid)
  /-- A node of a process opens an instance that the second process serves. -/
  | connect (d : DialId) (p q : Pid)
  /-- `ELECTED.load` -/
  | load (d : DialId)
  /-- `zapd.pid` is read. -/
  | ask (d : DialId)
  /-- The peer or the holder could not be told. -/
  | refuse (d : DialId)
  /-- The session of a stream begins. -/
  | hello (d : DialId)

/-- One atomic step, if it is enabled. -/
def PipeElection.step (s : PipeElection) : PipeAction → Option PipeElection
  | .spawn p =>
    if (s.procs p).life = .unborn then some (s.setProc p { life := .alive }) else none
  | .embed p => if s.stands p .out then some (s.goOn p .standing) else none
  -- Any program of this user may make a pipe of this name, and further instances of it.
  | .plant p =>
    if s.stands p .out || s.stands p .rogue then
      some { s.goOn p .rogue with pipe := p :: s.pipe }
    else none
  | .lock p =>
    -- The lock is granted to one process at a time.
    if s.stands p .standing && s.lock.isNone then some { s.goOn p .locked with lock := some p }
    else none
  | .write p => if s.stands p .locked then some (s.goOn p .recording) else none
  -- The record outlives whoever wrote it, and is not removed.
  | .rename p =>
    if s.stands p .recording then some { s.goOn p .announced with record := some p } else none
  -- A candidate that could not announce itself is elected all the same.
  | .miss p =>
    if s.stands p .locked || s.stands p .recording then some (s.goOn p .announced) else none
  | .elect p =>
    if s.stands p .announced then
      some (s.setProc p { s.procs p with stand := .elected, flag := true })
    else none
  | .bind p =>
    -- A pipe of this name that another process made is not shared.
    if s.stands p .elected && s.pipe.isEmpty then some { s.goOn p .serving with pipe := [p] }
    else none
  -- `serve` fails where the pipe could not be made.
  | .fail p => if s.stands p .elected then some (s.goOn p .failed) else none
  | .resign p =>
    if s.stands p .failed then
      some (s.setProc p { s.procs p with stand := .resigning, flag := false })
    else none
  | .unlock p =>
    if s.stands p .resigning then some { s.goOn p .resting with lock := none } else none
  | .wake p => if s.stands p .resting then some (s.goOn p .standing) else none
  | .exit p =>
    if (s.procs p).life = .alive then
      -- The kernel drops the lock and closes the pipe of a process that is gone.
      some { s.setProc p { life := .dead } with
        lock := s.lock.filter (· ≠ p), pipe := s.pipe.filter (· ≠ p) }
    else none
  -- Which of the pipe's processes takes the connection is the kernel's choice.
  | .connect d p q =>
    match (s.dials d).phase with
    | .idle =>
      if (s.procs p).life = .alive && s.pipe.contains q then
        some (s.setDial d { caller := p, phase := .connected q })
      else none
    | _ => none
  | .load d =>
    let dial := s.dials d
    match dial.phase with
    | .connected peer =>
      if (s.procs dial.caller).life = .alive then
        -- With the flag set, the holder is taken to be the caller itself.
        if (s.procs dial.caller).flag then
          some (s.setDial d
            { dial with phase := DialPhase.check (some dial.caller) peer, held := s.lock })
        else some (s.setDial d { dial with phase := .asking peer })
      else none
    | _ => none
  | .ask d =>
    let dial := s.dials d
    match dial.phase with
    | .asking peer =>
      if (s.procs dial.caller).life = .alive then
        -- Whatever is recorded is the holder, whether it lives or not.
        some (s.setDial d { dial with phase := DialPhase.check s.record peer, held := s.lock })
      else none
    | _ => none
  | .refuse d =>
    match (s.dials d).phase with
    | .connected _ | .asking _ => some (s.setDial d { s.dials d with phase := .refused })
    | _ => none
  | .hello d =>
    let dial := s.dials d
    match dial.phase with
    | .joined peer =>
      if (s.procs dial.caller).life = .alive then some { s with hellos := (d, peer) :: s.hellos }
      else none
    | _ => none

end Zapd
