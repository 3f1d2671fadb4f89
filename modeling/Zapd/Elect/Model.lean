import Mathlib.Logic.Function.Basic
import Zapd.Base.Transition

/-! The election on Unix: the record lock, the socket path, and the processes of one user. -/

namespace Zapd

/-- A process, by its pid. Pids are not reused. -/
abbrev Pid := Nat

/-- A call of `dial`, by its number. -/
abbrev DialId := Nat

/-- Whether a process has started, and whether it has ended. -/
inductive Life
  | unborn
  | alive
  | dead
  deriving DecidableEq

/-- Where the thread that `embed` starts stands between two of its atomic steps. -/
inductive Stand
  /-- `embed` was not called. -/
  | out
  /-- Waiting for the lock. -/
  | standing
  /-- The lock is taken; `ELECTED` is set next. -/
  | locked
  /-- Inside `serve`; what is at the socket path is removed next. -/
  | elected
  /-- The path was cleared; the socket is bound next. -/
  | binding
  /-- The socket is bound; its permissions are set next. -/
  | bound
  /-- Accepting connections, until the process exits. -/
  | serving
  /-- `serve` returned an error; `ELECTED` is cleared next. -/
  | failed
  /-- `ELECTED` is cleared; the lock is dropped next. -/
  | resigning
  /-- Sleeping, to stand again. -/
  | resting
  deriving DecidableEq

/-- A process: its election thread, and its `ELECTED` flag. -/
structure Process where
  life : Life := .unborn
  stand : Stand := .out
  flag : Bool := false

/-- A socket at the path: the process that bound it, and whether it can be connected to. Nothing
else is ever there: a directory, which `remove_file` cannot remove, is left out. -/
structure Socket where
  owner : Pid
  listening : Bool

/--
Where a call of `dial` stands between two of its atomic steps.

A stream is known by the process at its other end, which its peer credentials name.
-/
inductive DialPhase
  | idle
  /-- Connected; the `ELECTED` flag of its own process is read next. -/
  | connected (peer : Pid)
  /-- The flag was clear; the lock is asked for its holder next. -/
  | asking (peer : Pid)
  /-- `dial` returned the stream. -/
  | joined (peer : Pid)
  | refused
  deriving DecidableEq

/-- A call of `dial`, and the process whose node makes it. -/
structure Dialing where
  caller : Pid := 0
  phase : DialPhase := .idle
  /-- Who held the lock when `holder` was evaluated. -/
  held : Option Pid := none

/-- The kernel's lock and socket path, all processes, and all dials. -/
structure Election where
  /-- The holder of the lock on `zapd.lock`. -/
  lock : Option Pid
  /-- What is bound at `zapd.sock`. -/
  door : Option Socket
  procs : Pid → Process
  dials : DialId → Dialing
  /-- Every HELLO that was said, with the process it was said to. -/
  hellos : List (DialId × Pid)

/-- No process has started. -/
def Election.initial : Election :=
  { lock := none, door := none, procs := fun _ => {}, dials := fun _ => {}, hellos := [] }

/-- Change one process. -/
def Election.setProc (s : Election) (p : Pid) (proc : Process) : Election :=
  { s with procs := Function.update s.procs p proc }

/-- A live process whose election thread stands here. -/
def Election.stands (s : Election) (p : Pid) (stand : Stand) : Bool :=
  (s.procs p).life = .alive && (s.procs p).stand = stand

/-- The election thread of a process goes on. -/
def Election.goOn (s : Election) (p : Pid) (stand : Stand) : Election :=
  s.setProc p { s.procs p with stand }

/-- Change one dial. -/
def Election.setDial (s : Election) (d : DialId) (dialing : Dialing) : Election :=
  { s with dials := Function.update s.dials d dialing }

/-- A dial ends with its stream if the holder that was found is its peer. -/
def DialPhase.check (holder : Option Pid) (peer : Pid) : DialPhase :=
  if holder = some peer then .joined peer else .refused

/-- What the kernel answers a process that asks who else holds the lock. -/
def Election.getlk (s : Election) (p : Pid) : Option Pid := s.lock.filter (· ≠ p)

/-- What is at the path, once a process has closed its listeners. -/
def Election.closed (s : Election) (p : Pid) : Option Socket :=
  s.door.map fun k => if k.owner = p then { k with listening := false } else k

/-- One atomic step of a candidate, of a process without the lock, or of a node that dials. -/
inductive ElectAction
  | spawn (p : Pid)
  | embed (p : Pid)
  /-- `F_SETLKW` is granted. -/
  | lock (p : Pid)
  /-- `ELECTED.store(true)` -/
  | elect (p : Pid)
  /-- `remove_file` of the socket path. -/
  | unlink (p : Pid)
  | bind (p : Pid)
  /-- `set_permissions` of the socket. -/
  | permit (p : Pid)
  /-- `serve` returns an error. -/
  | fail (p : Pid)
  /-- `ELECTED.store(false)` -/
  | resign (p : Pid)
  | unlock (p : Pid)
  /-- The sleep is over. -/
  | wake (p : Pid)
  /-- The process exits or is killed. -/
  | exit (p : Pid)
  /-- A process that is no candidate binds the path. -/
  | plant (p : Pid)
  /-- A process that is no candidate removes what is at the path. -/
  | uproot (p : Pid)
  /-- A node of a process connects to the path. -/
  | connect (d : DialId) (p : Pid)
  /-- `ELECTED.load` -/
  | load (d : DialId)
  /-- `F_GETLK` -/
  | ask (d : DialId)
  /-- The session of a stream begins. -/
  | hello (d : DialId)

/-- One atomic step, if it is enabled. -/
def Election.step (s : Election) : ElectAction → Option Election
  | .spawn p =>
    if (s.procs p).life = .unborn then some (s.setProc p { life := .alive }) else none
  -- A process may never embed the router, and then it only dials.
  | .embed p => if s.stands p .out then some (s.goOn p .standing) else none
  | .lock p =>
    -- The lock is granted to one process at a time.
    if s.stands p .standing && s.lock.isNone then some { s.goOn p .locked with lock := some p }
    else none
  | .elect p =>
    if s.stands p .locked then some (s.setProc p { s.procs p with stand := .elected, flag := true })
    else none
  -- `remove_file`: what stays at the path makes the bind fail, as `.fail` has it.
  | .unlink p =>
    if s.stands p .elected then some { s.goOn p .binding with door := none } else none
  | .bind p =>
    -- A path that is bound again by now makes the bind fail.
    if s.stands p .binding && s.door.isNone then
      some { s.goOn p .bound with door := some ⟨p, true⟩ }
    else none
  | .permit p => if s.stands p .bound then some (s.goOn p .serving) else none
  | .fail p =>
    if s.stands p .elected || s.stands p .binding then some (s.goOn p .failed)
    -- The listener is dropped, and its path stays behind.
    else if s.stands p .bound then some { s.goOn p .failed with door := s.closed p }
    else none
  -- The flag is cleared before the lock is dropped, as in the source.
  | .resign p =>
    if s.stands p .failed then
      some (s.setProc p { s.procs p with stand := .resigning, flag := false })
    else none
  | .unlock p =>
    if s.stands p .resigning then some { s.goOn p .resting with lock := none } else none
  | .wake p => if s.stands p .resting then some (s.goOn p .standing) else none
  | .exit p =>
    if (s.procs p).life = .alive then
      -- The kernel drops the lock and closes the listeners of a process that is gone.
      some { s.setProc p { life := .dead } with
        lock := s.lock.filter (· ≠ p), door := s.closed p }
    else none
  -- No permission keeps another process of this user away from the path.
  | .plant p =>
    if s.stands p .out && s.door.isNone then some { s with door := some ⟨p, true⟩ } else none
  | .uproot p => if s.stands p .out then some { s with door := none } else none
  -- A connection needs a listener that is still open; its peer is known from here on.
  | .connect d p =>
    match (s.dials d).phase, s.door with
    | .idle, some k =>
      if (s.procs p).life = .alive && k.listening then
        some (s.setDial d { caller := p, phase := .connected k.owner })
      else none
    | _, _ => none
  | .load d =>
    let dial := s.dials d
    match dial.phase with
    | .connected peer =>
      if (s.procs dial.caller).life = .alive then
        -- With the flag set, the holder is taken to be the caller itself.
        if (s.procs dial.caller).flag then
          some (s.setDial d
            { dial with phase := DialPhase.check (some dial.caller) peer, held := s.lock })
        else some (s.setDial d { dial with phase := .asking peer })
      else none
    | _ => none
  | .ask d =>
    let dial := s.dials d
    match dial.phase with
    | .asking peer =>
      if (s.procs dial.caller).life = .alive then
        some (s.setDial d
          { dial with phase := DialPhase.check (s.getlk dial.caller) peer, held := s.lock })
      else none
    | _ => none
  | .hello d =>
    let dial := s.dials d
    match dial.phase with
    | .joined peer =>
      if (s.procs dial.caller).life = .alive then some { s with hellos := (d, peer) :: s.hellos }
      else none
    | _ => none

end Zapd
