import Zapd.Elect.Windows

/-! On Windows a node talks only to who has the lock, and to another process only if recorded. -/

namespace Zapd

open Transition

variable {s s' : PipeElection} {p q : Pid} {d : DialId}

/-- Phases in which a candidate has the lock. -/
@[simp] def PipeStand.holds : PipeStand → Bool
  | .locked | .recording | .announced | .elected | .serving | .failed | .resigning => true
  | .out | .rogue | .standing | .resting => false

/-- Phases in which `ELECTED` is set. -/
@[simp] def PipeStand.flagged : PipeStand → Bool
  | .elected | .serving | .failed => true
  | .out | .rogue | .standing | .locked | .recording | .announced | .resigning | .resting => false

/-- Phases in which a process has an instance of the pipe, and which it leaves by exiting only. -/
@[simp] def PipeStand.served : PipeStand → Bool
  | .rogue | .serving => true
  | _ => false

/-- Phases of a process that called `embed`. -/
@[simp] def PipeStand.candidate : PipeStand → Bool
  | .out | .rogue => false
  | _ => true

/-- What holds in every reachable state. -/
structure PipeElection.Sound (s : PipeElection) : Prop where
  held : ∀ p, (s.procs p).stand.holds = true → s.lock = some p
  flagged : ∀ p, (s.procs p).flag = true → (s.procs p).stand.flagged = true
  living : ∀ p, (s.procs p).stand ≠ .out → (s.procs p).life = .alive
  served : ∀ p ∈ s.pipe, (s.procs p).stand.served = true
  bound : ∀ p, (s.procs p).stand = .serving → p ∈ s.pipe
  recorded : ∀ p, s.record = some p →
    (s.procs p).life = .dead ∨ (s.procs p).stand.candidate = true
  reached : ∀ d p, (s.dials d).phase = .connected p ∨ (s.dials d).phase = .asking p →
    (s.procs p).life = .dead ∨ (s.procs p).stand.served = true
  joined : ∀ d p, (s.dials d).phase = .joined p →
    (s.procs p).life = .dead ∨ (s.procs p).stand = .serving
  said : ∀ h ∈ s.hellos, (s.dials h.1).phase = .joined h.2

/-- No process has started. -/
theorem PipeElection.Sound.initial : PipeElection.initial.Sound where
  held p holds := by cases holds
  flagged p flag := by cases flag
  living p standing := absurd rfl standing
  served p member := by cases member
  bound p serving := by cases serving
  recorded p record := by cases record
  reached d p phase := by rcases phase with phase | phase <;> cases phase
  joined d p phase := by cases phase
  said h member := by cases member

/-- The lock has one holder. -/
theorem PipeElection.Sound.alone (sound : s.Sound) (holds : (s.procs p).stand.holds = true)
    (also : (s.procs q).stand.holds = true) : q = p := by
  -- Both are named by the same lock.
  have same := (sound.held p holds).symm.trans (sound.held q also)
  exact (Option.some.inj same).symm

/-- A live process stands where it is said to. -/
theorem pipeStands_iff {stand : PipeStand} :
    s.stands p stand = true ↔ (s.procs p).life = .alive ∧ (s.procs p).stand = stand := by
  simp [PipeElection.stands]

/-- The steps of one dial, made by a node of this process. -/
def PipeAction.dials (d : DialId) (c : Pid) : PipeAction → Prop
  | .connect e p _ => e = d ∧ p = c
  | .load e | .ask e | .refuse e | .hello e => e = d
  | _ => False

/-- A step of the election, one case for each kind of thing it can change. -/
inductive PipeMoves (s : PipeElection) : PipeAction → PipeElection → Prop
  | spawned {p : Pid} (unborn : (s.procs p).life = .unborn) :
    PipeMoves s (.spawn p) (s.setProc p { life := .alive })
  /-- A process without an instance goes on as a candidate, and may record itself. -/
  | moved {a : PipeAction} {p : Pid} {before stand : PipeStand} {record : Option Pid}
    (stands : s.stands p before = true) (unserved : before.served = false)
    (candidate : stand.candidate = true) (unserving : stand.served = false)
    (holds : stand.holds = before.holds) (flagged : stand.flagged = before.flagged)
    (recorded : record = s.record ∨ before = .recording ∧ record = some p)
    (undialed : ∀ d c, ¬ a.dials d c) :
    PipeMoves s a { s.goOn p stand with record }
  | planted {p : Pid} (alive : (s.procs p).life = .alive)
    (apart : (s.procs p).stand = .out ∨ (s.procs p).stand = .rogue) :
    PipeMoves s (.plant p) { s.goOn p .rogue with pipe := p :: s.pipe }
  | locked {p : Pid} (stands : s.stands p .standing = true) (free : s.lock = none) :
    PipeMoves s (.lock p) { s.goOn p .locked with lock := some p }
  | elected {p : Pid} (stands : s.stands p .announced = true) :
    PipeMoves s (.elect p) (s.setProc p { s.procs p with stand := .elected, flag := true })
  | bound {p : Pid} (stands : s.stands p .elected = true) (empty : s.pipe = []) :
    PipeMoves s (.bind p) { s.goOn p .serving with pipe := [p] }
  | resigned {p : Pid} (stands : s.stands p .failed = true) :
    PipeMoves s (.resign p) (s.setProc p { s.procs p with stand := .resigning, flag := false })
  | unlocked {p : Pid} (stands : s.stands p .resigning = true) :
    PipeMoves s (.unlock p) { s.goOn p .resting with lock := none }
  | exited {p : Pid} (alive : (s.procs p).life = .alive) :
    PipeMoves s (.exit p) { s.setProc p { life := .dead } with
      lock := s.lock.filter (· ≠ p), pipe := s.pipe.filter (· ≠ p) }
  | connected {d : DialId} {p q : Pid} (idle : (s.dials d).phase = .idle) (member : q ∈ s.pipe) :
    PipeMoves s (.connect d p q) (s.setDial d { caller := p, phase := .connected q })
  | asking {d : DialId} {peer : Pid} (connected : (s.dials d).phase = .connected peer) :
    PipeMoves s (.load d) (s.setDial d { s.dials d with phase := .asking peer })
  /-- `holder` was evaluated, by the own flag or by the record. -/
  | evaluated {a : PipeAction} {d : DialId} {peer : Pid} {holder : Option Pid}
    (asks : a = .load d ∨ a = .ask d)
    (open_ : (s.dials d).phase = .connected peer ∨ (s.dials d).phase = .asking peer)
    (known : holder = some (s.dials d).caller ∧ (s.procs (s.dials d).caller).flag = true ∨
      holder = s.record) :
    PipeMoves s a
      (s.setDial d { s.dials d with phase := DialPhase.check holder peer, held := s.lock })
  | refused {d : DialId} {peer : Pid}
    (open_ : (s.dials d).phase = .connected peer ∨ (s.dials d).phase = .asking peer) :
    PipeMoves s (.refuse d) (s.setDial d { s.dials d with phase := .refused })
  | said {d : DialId} {peer : Pid} (joined : (s.dials d).phase = .joined peer) :
    PipeMoves s (.hello d) { s with hellos := (d, peer) :: s.hellos }

/-- Every enabled step is one of the cases. -/
theorem pipe_moves {a : PipeAction} (enabled : s.step a = some s') : PipeMoves s a s' := by
  cases a with
  | spawn p =>
    obtain ⟨unborn, same⟩ := Option.ite_none_right_eq_some.mp enabled
    cases same
    exact .spawned unborn
  -- These go on between places that agree on the lock and the flag.
  | embed p | write p | fail p | wake p =>
    obtain ⟨stands, same⟩ := Option.ite_none_right_eq_some.mp enabled
    cases same
    exact .moved stands rfl rfl rfl rfl rfl (.inl rfl) fun _ _ => id
  | miss p =>
    obtain ⟨either, same⟩ := Option.ite_none_right_eq_some.mp enabled
    cases same
    -- The temporary file failed, or the rename.
    rcases Bool.or_eq_true_iff.mp either with stands | stands
    · exact .moved stands rfl rfl rfl rfl rfl (.inl rfl) fun _ _ => id
    · exact .moved stands rfl rfl rfl rfl rfl (.inl rfl) fun _ _ => id
  -- Only here is a pid recorded, and it is the candidate's own.
  | rename p =>
    obtain ⟨stands, same⟩ := Option.ite_none_right_eq_some.mp enabled
    cases same
    exact .moved stands rfl rfl rfl rfl rfl (.inr ⟨rfl, rfl⟩) fun _ _ => id
  -- Whoever makes a pipe without the lock did not embed.
  | plant p =>
    obtain ⟨stands, same⟩ := Option.ite_none_right_eq_some.mp enabled
    cases same
    obtain ⟨alive, apart⟩ : (s.procs p).life = .alive ∧
        ((s.procs p).stand = .out ∨ (s.procs p).stand = .rogue) := by
      simpa [PipeElection.stands, ← and_or_left] using stands
    exact .planted alive apart
  | lock p =>
    obtain ⟨allowed, same⟩ := Option.ite_none_right_eq_some.mp enabled
    cases same
    obtain ⟨stands, free⟩ := Bool.and_eq_true_iff.mp allowed
    exact .locked stands (Option.isNone_iff_eq_none.mp free)
  | elect p =>
    obtain ⟨stands, same⟩ := Option.ite_none_right_eq_some.mp enabled
    cases same
    exact .elected stands
  -- The first instance is made where there is none yet.
  | bind p =>
    obtain ⟨allowed, same⟩ := Option.ite_none_right_eq_some.mp enabled
    cases same
    obtain ⟨stands, empty⟩ := Bool.and_eq_true_iff.mp allowed
    exact .bound stands (List.isEmpty_iff.mp empty)
  | resign p =>
    obtain ⟨stands, same⟩ := Option.ite_none_right_eq_some.mp enabled
    cases same
    exact .resigned stands
  | unlock p =>
    obtain ⟨stands, same⟩ := Option.ite_none_right_eq_some.mp enabled
    cases same
    exact .unlocked stands
  | exit p =>
    obtain ⟨alive, same⟩ := Option.ite_none_right_eq_some.mp enabled
    cases same
    exact .exited alive
  -- What a dial does leaves the processes and the record alone.
  | connect d p q =>
    simp only [PipeElection.step] at enabled
    split at enabled
    · rename_i idle
      obtain ⟨allowed, same⟩ := Option.ite_none_right_eq_some.mp enabled
      cases same
      exact .connected idle (by simpa using (Bool.and_eq_true_iff.mp allowed).2)
    · cases enabled
  | load d =>
    simp only [PipeElection.step] at enabled
    split at enabled
    · rename_i peer connected
      obtain ⟨_, taken⟩ := Option.ite_none_right_eq_some.mp enabled
      -- The own process is the holder if its flag is set.
      split at taken
      · rename_i flag
        cases taken
        exact .evaluated (.inl rfl) (.inl connected) (.inl ⟨rfl, flag⟩)
      · cases taken
        exact .asking connected
    · cases enabled
  -- Any other process goes by the record.
  | ask d =>
    simp only [PipeElection.step] at enabled
    split at enabled
    · rename_i peer asking
      obtain ⟨_, taken⟩ := Option.ite_none_right_eq_some.mp enabled
      cases taken
      exact .evaluated (.inr rfl) (.inr asking) (.inr rfl)
    · cases enabled
  -- A dial can end early before its check and before its question.
  | refuse d =>
    simp only [PipeElection.step] at enabled
    split at enabled
    · rename_i peer connected
      cases enabled
      exact .refused (.inl connected)
    · rename_i peer asking
      cases enabled
      exact .refused (.inr asking)
    · cases enabled
  | hello d =>
    simp only [PipeElection.step] at enabled
    split at enabled
    · rename_i peer joined
      obtain ⟨_, same⟩ := Option.ite_none_right_eq_some.mp enabled
      cases same
      exact .said joined
    · cases enabled

/-- A change of one process keeps the facts about the others. -/
theorem forall_setPipeProc {P : Pid → PipeProcess → Prop} {proc : PipeProcess} (own : P p proc)
    (others : ∀ q, q ≠ p → P q (s.procs q)) (q : Pid) : P q ((s.setProc p proc).procs q) := by
  -- The process that changed is judged by what it is now.
  by_cases same : q = p
  · subst same
    simpa [PipeElection.setProc] using own
  · simpa [PipeElection.setProc, Function.update_of_ne same] using others q same

/-- What a live process may become: it keeps serving, or being a rogue, unless it exits. -/
structure PipeProcess.Becomes (before after : PipeProcess) : Prop where
  alive : before.life ≠ .dead
  living : after.stand ≠ .out → after.life = .alive
  flagged : after.flag = true → after.stand.flagged = true
  served : after.life = .dead ∨ (before.stand.served = true → after.stand = before.stand)

/-- One process changes, and the lock, the record and the pipe with it. -/
theorem PipeElection.Sound.change (sound : s.Sound) {proc : PipeProcess} {lock record : Option Pid}
    {pipe : List Pid} (becomes : (s.procs p).Becomes proc)
    (held : proc.stand.holds = true → lock = some p)
    (others : ∀ q, q ≠ p → (s.procs q).stand.holds = true → lock = some q)
    (served : ∀ q ∈ pipe, if q = p then proc.stand.served = true else q ∈ s.pipe)
    (bound : proc.stand = .serving → p ∈ pipe) (kept : ∀ q ∈ s.pipe, q ≠ p → q ∈ pipe)
    (recorded : ∀ q, record = some q →
      if q = p then proc.life = .dead ∨ proc.stand.candidate = true else s.record = some q) :
    ({ s.setProc p proc with lock, record, pipe } : PipeElection).Sound where
  held q := forall_setPipeProc (P := fun q proc => proc.stand.holds = true → lock = some q)
    held others q
  flagged q := forall_setPipeProc (P := fun _ proc => proc.flag = true → proc.stand.flagged = true)
    becomes.flagged (fun q _ => sound.flagged q) q
  living q := forall_setPipeProc (P := fun _ proc => proc.stand ≠ .out → proc.life = .alive)
    becomes.living (fun q _ => sound.living q) q
  -- What is in the pipe was there before, or is the changed process's own.
  served q member := by
    have there := served q member
    refine forall_setPipeProc (P := fun r proc => r = q → proc.stand.served = true)
      (fun same => ?_) (fun r other same => ?_) q rfl
    · rwa [if_pos same.symm] at there
    · subst same
      rw [if_neg other] at there
      exact sound.served r there
  bound q := forall_setPipeProc (P := fun q proc => proc.stand = .serving → q ∈ pipe)
    bound (fun q other serving => kept q (sound.bound q serving) other) q
  -- What is recorded was so before, or is the changed process.
  recorded q named := by
    have there := recorded q named
    refine forall_setPipeProc
      (P := fun r proc => r = q → proc.life = .dead ∨ proc.stand.candidate = true)
      (fun same => ?_) (fun r other same => ?_) q rfl
    · rwa [if_pos same.symm] at there
    · subst same
      rw [if_neg other] at there
      exact sound.recorded r there
  reached d q phase := by
    refine forall_setPipeProc
      (P := fun r proc => r = q → proc.life = .dead ∨ proc.stand.served = true)
      (fun same => ?_) (fun r _ same => same ▸ sound.reached d q phase) q rfl
    -- Whoever had an instance keeps it until it exits.
    subst same
    have before := (sound.reached d p phase).resolve_left becomes.alive
    exact becomes.served.imp id fun kept => by rw [kept before]; exact before
  -- A stream stays with a process that serves, or with one that has exited.
  joined d q phase := by
    refine forall_setPipeProc
      (P := fun r proc => r = q → proc.life = .dead ∨ proc.stand = .serving)
      (fun same => ?_) (fun r _ same => same ▸ sound.joined d q phase) q rfl
    subst same
    have before := (sound.joined d p phase).resolve_left becomes.alive
    exact becomes.served.imp id fun kept => (kept (by rw [before]; rfl)).trans before
  said := sound.said

/-- A process that has no instance of the pipe goes on alive. -/
theorem PipeProcess.Becomes.goOn {proc : PipeProcess} {before stand : PipeStand}
    (alive : proc.life = .alive) (stands : proc.stand = before) (unserved : before.served = false)
    {flag : Bool} (flagged : flag = true → stand.flagged = true) :
    proc.Becomes { proc with stand, flag } where
  alive dead := by
    rw [alive] at dead
    cases dead
  living _ := alive
  flagged := flagged
  served := .inr fun served => by
    rw [stands, unserved] at served
    cases served

/-- A process without an instance goes on as a candidate, and the lock, the record and the pipe
change with it. -/
theorem PipeElection.Sound.advance (sound : s.Sound) {before stand : PipeStand} {flag : Bool}
    {lock record : Option Pid} {pipe : List Pid} (stands : s.stands p before = true)
    (unserved : before.served = false) (candidate : stand.candidate = true)
    (flagged : flag = true → stand.flagged = true) (held : stand.holds = true → lock = some p)
    (others : ∀ q, q ≠ p → (s.procs q).stand.holds = true → lock = some q)
    (served : pipe = s.pipe ∧ stand.served = false ∨
      s.pipe = [] ∧ pipe = [p] ∧ stand.served = true)
    (recorded : record = s.record ∨ record = some p) :
    ({ s.setProc p { s.procs p with stand, flag } with lock, record, pipe } : PipeElection).Sound
    := by
  -- An instance comes only with the first of the pipe, and the record only with the own pid.
  obtain ⟨alive, stood⟩ := pipeStands_iff.mp stands
  refine sound.change (.goOn alive stood unserved flagged) held others (fun q member => ?_)
    (fun serving => ?_) (fun q member _ => ?_) fun q named => ?_
  -- Either this process is looked at, or another one.
  · split
    · rename_i same
      rcases served with ⟨kept, _⟩ | ⟨_, _, serves⟩
      · -- A process without an instance is not in the pipe.
        have there := sound.served q (kept ▸ member)
        rw [same, stood, unserved] at there
        cases there
      · exact serves
    · rename_i other
      rcases served with ⟨kept, _⟩ | ⟨_, only, _⟩
      · exact kept ▸ member
      · rw [only] at member
        exact absurd (List.mem_singleton.mp member) other
  · rcases served with ⟨_, unserving⟩ | ⟨_, only, _⟩
    · rw [show stand = .serving from serving] at unserving
      cases unserving
    · rw [only]
      exact List.mem_singleton_self p
  · -- The first instance is made where there is none.
    rcases served with ⟨kept, _⟩ | ⟨none_, _, _⟩
    · exact kept ▸ member
    · rw [none_] at member
      cases member
  · split
    · exact .inr candidate
    · rename_i other
      rcases recorded with kept | self
      · exact kept ▸ named
      · rw [self] at named
        exact absurd (Option.some.inj named).symm other

/-- A candidate goes on between phases that agree on the lock and the flag. -/
theorem PipeElection.Sound.goOn (sound : s.Sound) {before stand : PipeStand}
    {record : Option Pid} (stands : s.stands p before = true) (unserved : before.served = false)
    (candidate : stand.candidate = true) (unserving : stand.served = false)
    (holds : stand.holds = before.holds)
    (flagged : stand.flagged = before.flagged) (recorded : record = s.record ∨ record = some p) :
    ({ s.goOn p stand with record } : PipeElection).Sound := by
  -- The lock and the flag are what they were at the place before.
  have stood := (pipeStands_iff.mp stands).2
  refine sound.advance stands unserved candidate (fun flag => ?_) (fun held => ?_)
    (fun q _ => sound.held q) (.inl ⟨rfl, unserving⟩) recorded
  · rw [flagged, ← stood]
    exact sound.flagged p flag
  · rw [holds, ← stood] at held
    exact sound.held p held

/-- A dial that has not returned goes on to a peer that has an instance, or returns a stream to one
that accepts connections. -/
theorem PipeElection.Sound.dial (sound : s.Sound) {dialing : Dialing}
    (open_ : ∀ p, (s.dials d).phase ≠ .joined p)
    (reached : ∀ p, dialing.phase = .connected p ∨ dialing.phase = .asking p →
      (s.procs p).life = .dead ∨ (s.procs p).stand.served = true)
    (joined : ∀ p, dialing.phase = .joined p →
      (s.procs p).life = .dead ∨ (s.procs p).stand = .serving) :
    (s.setDial d dialing).Sound := by
  -- Only the dial that goes on changes; all the others are as they were.
  have self : (s.setDial d dialing).dials d = dialing := Function.update_self ..
  have others : ∀ e, e ≠ d → (s.setDial d dialing).dials e = s.dials e := fun e other =>
    Function.update_of_ne other ..
  refine ⟨sound.held, sound.flagged, sound.living, sound.served, sound.bound, sound.recorded,
    fun e p phase => ?_, fun e p phase => ?_, fun h member => ?_⟩
  · by_cases same : e = d
    · rw [same, self] at phase
      exact reached p phase
    · rw [others e same] at phase
      exact sound.reached e p phase
  · by_cases same : e = d
    · rw [same, self] at phase
      exact joined p phase
    · rw [others e same] at phase
      exact sound.joined e p phase
  · -- Nobody has said HELLO on a stream that is not there yet.
    have phase := sound.said h member
    rwa [others h.1 fun same => open_ _ (same ▸ phase)]

/-- The holder that was found is the peer, and accepts connections, or the dial is refused. -/
theorem PipeElection.Sound.check (sound : s.Sound) {peer : Pid} {holder : Option Pid}
    (open_ : (s.dials d).phase = .connected peer ∨ (s.dials d).phase = .asking peer)
    (candidate : holder = some peer →
      (s.procs peer).life = .dead ∨ (s.procs peer).stand.candidate = true) :
    (s.setDial d { s.dials d with phase := DialPhase.check holder peer, held := s.lock }).Sound
    := by
  refine sound.dial (fun p phase => ?_) (fun p phase => ?_) fun p phase => ?_
  -- A dial that waits has not returned a stream.
  · rcases open_ with open_ | open_ <;> rw [open_] at phase <;> cases phase
  -- A check ends the dial, one way or the other.
  · unfold DialPhase.check at phase
    split at phase <;> simp at phase
  · unfold DialPhase.check at phase
    split at phase
    · rename_i found
      cases phase
      -- Of those that have an instance, a candidate is one that serves.
      rcases sound.reached d peer open_ with dead | served
      · exact .inl dead
      · refine (candidate found).imp id fun embeds => ?_
        cases stand : (s.procs peer).stand <;> simp [stand] at served embeds ⊢
    · cases phase

/-- A dial that waits for its check has not returned its stream. -/
theorem unjoined {peer : Pid}
    (open_ : (s.dials d).phase = .connected peer ∨ (s.dials d).phase = .asking peer) (p : Pid) :
    (s.dials d).phase ≠ .joined p := by
  intro joined
  rcases open_ with open_ | open_ <;> rw [open_] at joined <;> cases joined

/-- Every step keeps the election sound. -/
theorem PipeElection.Sound.step (sound : s.Sound) {a : PipeAction} (enabled : s.step a = some s') :
    s'.Sound := by
  cases pipe_moves enabled with
  | @spawned p unborn =>
    -- A process that was not there stood nowhere.
    have out : (s.procs p).stand = .out := by
      by_contra standing
      rw [sound.living p standing] at unborn
      cases unborn
    refine sound.change ⟨by simp [unborn], by simp, by simp, .inr (by simp [out])⟩ (by simp)
      (fun q _ => sound.held q) (fun q member => ?_) (by simp) (fun q member _ => member)
      fun q named => ?_
    · split
      · rename_i same
        have served := sound.served q member
        simp [same, out] at served
      · exact member
    · split
      · rename_i same
        rcases sound.recorded q named with dead | candidate
        · simp [same, unborn] at dead
        · simp [same, out] at candidate
      · exact named
  -- Between two such places nothing is held, set or served anew.
  | moved stands unserved candidate unserving holds flagged recorded _ =>
    exact sound.goOn stands unserved candidate unserving holds flagged
      (recorded.imp_right And.right)
  | @planted p alive apart =>
    -- Neither a rogue nor a process that did not embed has the flag set.
    have unflagged : (s.procs p).flag = false := by
      by_contra flag
      have flagged := sound.flagged p (by simpa using flag)
      rcases apart with stand | stand <;> simp [stand] at flagged
    refine sound.change ⟨by simp [alive], fun _ => alive, by simp [unflagged], .inr ?_⟩ (by simp)
      (fun q _ => sound.held q) (fun q member => ?_) (by simp)
      (fun q member _ => List.mem_cons_of_mem _ member) fun q named => ?_
    · rcases apart with stand | stand <;> simp [stand]
    · split
      · rfl
      · rename_i other
        exact (List.mem_cons.mp member).resolve_left other
    · split
      · -- A rogue was never recorded.
        rename_i same
        rcases sound.recorded q named with dead | candidate
        · simp [same, alive] at dead
        · rw [same] at candidate
          rcases apart with stand | stand <;> simp [stand] at candidate
      · exact named
  | @locked p stands free =>
    refine sound.advance stands rfl rfl (fun flag => ?_) (fun _ => rfl) (fun q _ holds => ?_)
      (.inl ⟨rfl, rfl⟩) (.inl rfl)
    -- A candidate that stands for election has no flag set.
    · have flagged := sound.flagged p flag
      rw [(pipeStands_iff.mp stands).2] at flagged
      cases flagged
    · -- Whoever had the lock would be its holder.
      rw [sound.held q holds] at free
      cases free
  -- The flag is set with the lock, and cleared before it is dropped.
  | @elected p stands =>
    have held := sound.held p (by rw [(pipeStands_iff.mp stands).2]; rfl)
    exact sound.advance stands rfl rfl (fun _ => rfl) (fun _ => held) (fun q _ => sound.held q)
      (.inl ⟨rfl, rfl⟩) (.inl rfl)
  | @bound p stands empty =>
    -- The first instance is made with the lock, and where there is none.
    have held := sound.held p (by rw [(pipeStands_iff.mp stands).2]; rfl)
    exact sound.advance stands rfl rfl (fun _ => rfl) (fun _ => held) (fun q _ => sound.held q)
      (.inr ⟨empty, rfl, rfl⟩) (.inl rfl)
  | @resigned p stands =>
    have held := sound.held p (by rw [(pipeStands_iff.mp stands).2]; rfl)
    exact sound.advance stands rfl rfl (fun same => by cases same) (fun _ => held)
      (fun q _ => sound.held q) (.inl ⟨rfl, rfl⟩) (.inl rfl)
  | @unlocked p stands =>
    have holds : (s.procs p).stand.holds = true := by
      rw [(pipeStands_iff.mp stands).2]
      rfl
    refine sound.advance stands rfl rfl (fun flag => ?_) (fun same => by cases same)
      (fun q other also => ?_) (.inl ⟨rfl, rfl⟩) (.inl rfl)
    · have flagged := sound.flagged p flag
      rw [(pipeStands_iff.mp stands).2] at flagged
      cases flagged
    · -- The lock that is dropped was nobody else's.
      exact absurd (sound.alone holds also) other
  | @exited p alive =>
    -- The kernel leaves neither the lock nor an instance with a process that is gone.
    refine sound.change ⟨by simp [alive], by simp, by simp, .inl rfl⟩ (by simp)
      (fun q other holds => ?_) (fun q member => ?_) (by simp)
      (fun q member other => List.mem_filter.mpr ⟨member, by simpa using other⟩) fun q named => ?_
    · rw [sound.held q holds, Option.filter_some, if_pos (by simpa using other)]
    · obtain ⟨there, other⟩ := List.mem_filter.mp member
      rw [if_neg (by simpa using other)]
      exact there
    · split
      · exact .inl rfl
      · exact named
  | @connected d p q idle member =>
    refine sound.dial (by simp [idle]) (fun r phase => ?_) (fun r phase => by cases phase)
    -- Only a process with an instance is connected to.
    rcases phase with phase | phase <;> cases phase
    exact .inr (sound.served q member)
  | @asking d peer connected =>
    refine sound.dial (unjoined (.inl connected)) (fun r phase => ?_) fun r phase => by cases phase
    -- The peer is the one it was.
    rcases phase with phase | phase <;> cases phase
    exact sound.reached d peer (.inl connected)
  | @evaluated _ d peer holder asks open_ known =>
    refine sound.check open_ fun found => ?_
    rcases known with ⟨own, flag⟩ | record
    · -- A process whose flag is set is a candidate.
      have flagged := sound.flagged _ flag
      rw [← Option.some.inj (own.symm.trans found)]
      right
      cases stand : (s.procs (s.dials d).caller).stand <;> simp [stand] at flagged ⊢
    -- A pid that is recorded is a candidate's.
    · exact sound.recorded peer (record ▸ found)
  -- A dial that was refused is with nobody.
  | refused open_ => exact sound.dial (unjoined open_) (by simp) (by simp)
  | said joined => exact { sound with said := List.forall_mem_cons.mpr ⟨joined, sound.said⟩ }

/-- Every reachable state is sound. -/
theorem PipeElection.Sound.reachable
    (reached : Reachable PipeElection.step PipeElection.initial s) : s.Sound :=
  reached.invariant .initial fun _ _ _ sound enabled => sound.step enabled

/--
The flag is set only with the lock, and the pipe is made only with the lock where there is none.

A process to which a dial has returned a stream has the lock as long as it lives, and accepts
connections; HELLO is said to no other.
-/
theorem windows_election_safety (reached : Reachable PipeElection.step PipeElection.initial s) :
    (∀ p, (s.procs p).flag = true → s.lock = some p) ∧
    (∀ p s', s.step (.bind p) = some s' → s.lock = some p ∧ s.pipe = []) ∧
    (∀ d p, (s.dials d).phase = .joined p → (s.procs p).life = .alive →
      s.lock = some p ∧ (s.procs p).stand = .serving) ∧
    (∀ h ∈ s.hellos, (s.dials h.1).phase = .joined h.2) := by
  have sound := PipeElection.Sound.reachable reached
  refine ⟨fun p flag => ?_, fun p s' enabled => ?_, fun d p joined alive => ?_, sound.said⟩
  -- Every place with the flag set is one with the lock.
  · apply sound.held
    have flagged := sound.flagged p flag
    cases stand : (s.procs p).stand <;> simp [stand] at flagged ⊢
  -- The instance is made by a candidate that is elected, if there is none.
  · obtain ⟨allowed, _⟩ := Option.ite_none_right_eq_some.mp enabled
    obtain ⟨stands, empty⟩ := Bool.and_eq_true_iff.mp allowed
    exact ⟨sound.held p (by rw [(pipeStands_iff.mp stands).2]; rfl), List.isEmpty_iff.mp empty⟩
  · -- Whoever serves goes on serving until it exits.
    have serving := (sound.joined d p joined).resolve_left (by simp [alive])
    exact ⟨sound.held p (by rw [serving]; rfl), serving⟩

/-- A candidate that serves is dialed from another process, and is killed before HELLO is said. -/
theorem windows_election_safety_killed : ∃ s : PipeElection,
    Reachable PipeElection.step PipeElection.initial s ∧ s.lock = some 8 ∧ s.record = some 7 ∧
      (s.dials 0).phase = .joined 7 := by
  -- The next candidate has the lock, and has not announced itself yet.
  have ran : (run PipeElection.step PipeElection.initial
      [.spawn 7, .spawn 8, .spawn 9, .embed 7, .embed 8, .lock 7, .write 7, .rename 7, .elect 7,
        .bind 7, .connect 0 9 7, .load 0, .exit 7, .lock 8, .ask 0, .write 8, .miss 8,
        .elect 8]).map (fun s => ((s.procs 8).flag, s.record, (s.dials 0).phase)) =
      some (true, some 7, .joined 7) := by decide +kernel
  obtain ⟨s, reached, facts⟩ := Option.map_eq_some_iff.mp ran
  simp only [Prod.mk.injEq] at facts
  obtain ⟨flag, record, joined⟩ := facts
  exact ⟨s, ⟨_, reached⟩, (windows_election_safety ⟨_, reached⟩).1 8 flag, record, joined⟩

/-- What a step does to the processes and the record: nothing, or one process goes on that does
not serve, unless it exits, and only one that is recording changes the record. -/
theorem pipe_moved (sound : s.Sound) {a : PipeAction} (enabled : s.step a = some s') :
    (s'.procs = s.procs ∧ s'.record = s.record) ∨
    ∃ q proc, s'.procs = Function.update s.procs q proc ∧
      (a = .exit q ∨ (s.procs q).stand ≠ .serving) ∧
      (s'.record = s.record ∨ (s.procs q).stand = .recording) := by
  -- A process that is known to stand elsewhere does not serve.
  have elsewhere : ∀ {q stand}, s.stands q stand = true → stand ≠ .serving →
      (s.procs q).stand ≠ .serving := by
    intro q stand stands other
    rw [(pipeStands_iff.mp stands).2]
    exact other
  cases pipe_moves enabled with
  | @spawned p unborn =>
    refine .inr ⟨p, _, rfl, .inr fun serving => ?_, .inl rfl⟩
    -- Whoever serves is alive.
    rw [sound.living p (by simp [serving])] at unborn
    cases unborn
  | @moved _ p before stand record stands unserved _ _ _ _ recorded _ =>
    refine .inr ⟨p, _, rfl, .inr (elsewhere stands fun same => ?_), ?_⟩
    · -- A process that serves has an instance.
      rw [same] at unserved
      cases unserved
    · exact recorded.imp_right fun own => (pipeStands_iff.mp stands).2.trans own.1
  | @planted p alive apart =>
    refine .inr ⟨p, _, rfl, .inr fun serving => ?_, .inl rfl⟩
    rcases apart with stand | stand <;> rw [stand] at serving <;> cases serving
  -- None of these leaves the place where a process serves, and none records.
  | locked stands => exact .inr ⟨_, _, rfl, .inr (elsewhere stands (by decide)), .inl rfl⟩
  | elected stands => exact .inr ⟨_, _, rfl, .inr (elsewhere stands (by decide)), .inl rfl⟩
  | bound stands => exact .inr ⟨_, _, rfl, .inr (elsewhere stands (by decide)), .inl rfl⟩
  | resigned stands => exact .inr ⟨_, _, rfl, .inr (elsewhere stands (by decide)), .inl rfl⟩
  | unlocked stands => exact .inr ⟨_, _, rfl, .inr (elsewhere stands (by decide)), .inl rfl⟩
  -- An exit is the one way out of serving.
  | exited => exact .inr ⟨_, _, rfl, .inl rfl, .inl rfl⟩
  -- A dial changes no process.
  | connected | asking | evaluated | refused | said => exact .inl ⟨rfl, rfl⟩

/-- A process that serves goes on serving until it exits, and nobody records another meanwhile. -/
theorem serving_kept (sound : s.Sound) (serving : (s.procs p).stand = .serving) {a : PipeAction}
    (stays : a ≠ .exit p) (enabled : s.step a = some s') :
    (s'.procs p).stand = .serving ∧ s'.record = s.record := by
  rcases pipe_moved sound enabled with ⟨procs, record⟩ | ⟨q, proc, procs, leaves, record⟩
  · exact ⟨by rw [procs, serving], record⟩
  -- The process that changed is another one, since this one stays.
  · have other : p ≠ q := by
      rintro rfl
      exact leaves.elim stays fun elsewhere => elsewhere serving
    refine ⟨by rw [procs, Function.update_of_ne other, serving], ?_⟩
    refine record.resolve_right fun writes => ?_
    -- Whoever records itself has the lock, as whoever serves.
    exact other (sound.alone (by simp [writes]) (by simp [serving]))

/-- What its own steps can make of a dial of another process than the peer's: they change no process
and no record, and end with the peer only if that is recorded. -/
structure PipeElection.Dials (s : PipeElection) (d : DialId) (c p : Pid) (t : PipeElection) :
    Prop where
  procs : t.procs = s.procs
  record : t.record = s.record
  caller : (t.dials d).phase = .idle ∨ (t.dials d).caller = c
  joined : (t.dials d).phase = .joined p → s.record = some p

/-- A dial that was checked against a holder ends with a peer that is this holder. -/
theorem check_joined {holder : Option Pid} {peer : Pid}
    (joined : DialPhase.check holder peer = .joined p) : holder = some p := by
  unfold DialPhase.check at joined
  split at joined
  · rename_i found
    cases joined
    exact found
  · cases joined

/-- A step of the dial keeps it so. -/
theorem PipeElection.Dials.step {t t' : PipeElection} {c : Pid} (other : c ≠ p)
    (dials : s.Dials d c p t) {a : PipeAction} (own : a.dials d c) (enabled : t.step a = some t') :
    s.Dials d c p t' := by
  obtain ⟨procs, record, caller, joined⟩ := dials
  -- A dial that goes on is the caller's, and ends with the peer only if that is recorded.
  have changed : ∀ dialing : Dialing, dialing.caller = c →
      (dialing.phase = .joined p → s.record = some p) → s.Dials d c p (t.setDial d dialing) := by
    intro dialing calls ends
    have self : (t.setDial d dialing).dials d = dialing := Function.update_self ..
    exact ⟨procs, record, .inr (by rw [self, calls]), by rw [self]; exact ends⟩
  -- A dial that is under way is the caller's.
  have calls : (t.dials d).phase ≠ .idle → (t.dials d).caller = c := fun begun =>
    caller.resolve_left begun
  cases pipe_moves enabled with
  | connected =>
    obtain ⟨rfl, rfl⟩ := own
    exact changed _ rfl (fun same => by cases same)
  | asking connected =>
    cases own
    exact changed _ (calls (by simp [connected])) (fun same => by cases same)
  | @evaluated _ e peer holder asks open_ known =>
    have same : e = d := by rcases asks with rfl | rfl <;> exact own
    subst same
    have mine := calls (by rcases open_ with open_ | open_ <;> simp [open_])
    refine changed _ mine fun ends => ?_
    have found := check_joined ends
    rcases known with ⟨self, _⟩ | recorded
    · -- A process that finds itself is not the peer.
      exact absurd (mine.symm.trans (Option.some.inj (self.symm.trans found))) other
    -- Otherwise it went by the record.
    · exact record ▸ recorded ▸ found
  | @refused e peer open_ =>
    cases own
    refine changed _ (calls ?_) (fun same => by cases same)
    rcases open_ with open_ | open_ <;> simp [open_]
  -- HELLO is said on a dial that has ended.
  | said => exact ⟨procs, record, caller, joined⟩
  -- The steps of a process are no dial's.
  | moved _ _ _ _ _ _ _ undialed => exact absurd own (undialed d c)
  | spawned | planted | locked | elected | bound | resigned | unlocked | exited => cases own

/-- While a process is not recorded, a dial ends with it only by a check of its own flag. -/
theorem unrecorded_step (unrecorded : s.record ≠ some p) {a : PipeAction}
    (enabled : s.step a = some s') (joined : (s'.dials d).phase = .joined p) :
    s'.dials d = s.dials d ∨ (s'.dials d).caller = p := by
  -- A dial that changes comes to another phase, or is checked.
  have changed : ∀ e dialing, s'.dials = Function.update s.dials e dialing →
      (dialing.phase = .joined p → dialing.caller = p) →
      s'.dials d = s.dials d ∨ (s'.dials d).caller = p := by
    intro e dialing dials ends
    by_cases same : d = e
    · rw [dials, same, Function.update_self] at joined ⊢
      exact .inr (ends joined)
    · exact .inl (by rw [dials, Function.update_of_ne same])
  cases pipe_moves enabled with
  | connected | asking | refused => exact changed _ _ rfl fun same => by cases same
  | @evaluated _ e peer holder asks open_ known =>
    refine changed e _ rfl fun ends => ?_
    have found := check_joined ends
    rcases known with ⟨self, _⟩ | recorded
    -- By its own flag a process finds only itself.
    · exact Option.some.inj (self.symm.trans found)
    -- By the record it would find the one that is not recorded.
    · exact absurd (recorded.symm.trans found) unrecorded
  -- No step of a process touches a dial.
  | moved | spawned | planted | locked | elected | bound | resigned | unlocked | exited | said =>
    exact .inl rfl

/-- A process that serves is reached by the nodes of other processes exactly if it is recorded, and
what is recorded does not change until it exits. In whatever order the processes and the dials take
their steps meanwhile, no dial but its own comes to return a stream to one that is not recorded. -/
theorem windows_recorded (reached : Reachable PipeElection.step PipeElection.initial s)
    (serving : (s.procs p).stand = .serving) :
    (∀ actions t, (∀ a ∈ actions, a ≠ .exit p) → run PipeElection.step s actions = some t →
      (t.procs p).stand = .serving ∧ t.record = s.record ∧
      (s.record ≠ some p → ∀ d, (t.dials d).phase = .joined p →
        (s.dials d).phase = .joined p ∨ (t.dials d).caller = p)) ∧
    (∀ d c, c ≠ p → (s.dials d).phase = .idle → (s.procs c).life = .alive →
      (Leads (PipeAction.dials d c) PipeElection.step s (fun t => (t.dials d).phase = .joined p) ↔
        s.record = some p)) := by
  have sound := PipeElection.Sound.reachable reached
  refine ⟨fun actions t stay ran => ?_, fun d c other idle alive =>
    ⟨fun leads => ?_, fun recorded => ?_⟩⟩
  · refine (run_invariant_kind (P := fun t : PipeElection => t.Sound ∧
      (t.procs p).stand = .serving ∧ t.record = s.record ∧
      (s.record ≠ some p → ∀ d, (t.dials d).phase = .joined p →
        (s.dials d).phase = .joined p ∨ (t.dials d).caller = p)) ?_
      ⟨sound, serving, rfl, fun _ _ => .inl⟩ stay ran).2
    -- One step keeps the place and the record, and brings no other process's dial to it.
    intro t a next stays ⟨soundHere, serves, record, dialed⟩ enabled
    obtain ⟨still, same⟩ := serving_kept soundHere serves stays enabled
    refine ⟨soundHere.step enabled, still, same.trans record, fun unrecorded d joined => ?_⟩
    rcases unrecorded_step (record.symm ▸ unrecorded) enabled joined with kept | own
    · rw [kept] at joined ⊢
      exact dialed unrecorded d joined
    · exact .inr own
  -- By its own steps a dial ends with the peer only if the record names it.
  · obtain ⟨actions, t, own, ran, joined⟩ := leads
    refine (run_invariant_kind (P := s.Dials d c p) ?_ ?_ own ran).joined joined
    · intro t a next own dials enabled
      exact dials.step other own enabled
    · exact ⟨rfl, rfl, .inl idle, fun ends => by rw [idle] at ends; cases ends⟩
  · -- The process has an instance, and the caller is not elected itself.
    have bound := sound.bound p serving
    have unflagged : (s.procs c).flag = false := by
      by_contra flag
      have flagged := sound.flagged c (by simpa using flag)
      refine other (sound.alone (p := p) (by simp [serving]) ?_)
      cases stand : (s.procs c).stand <;> simp [stand] at flagged ⊢
    -- So it connects, finds its flag clear, and reads the pid of its peer.
    have connects : s.step (.connect d c p) =
        some (s.setDial d { caller := c, phase := .connected p }) := by
      simp [PipeElection.step, idle, alive, bound]
    refine .cons (show PipeAction.dials d c (.connect d c p) from ⟨rfl, rfl⟩) connects ?_
    have loads : (s.setDial d { caller := c, phase := .connected p }).step (.load d) =
        some ((s.setDial d { caller := c, phase := .connected p }).setDial d
          { caller := c, phase := .asking p }) := by
      simp [PipeElection.step, PipeElection.setDial, alive, unflagged]
    refine .cons (show PipeAction.dials d c (.load d) from rfl) loads ?_
    have asks : ((s.setDial d { caller := c, phase := .connected p }).setDial d
          { caller := c, phase := .asking p }).step (.ask d) =
        some (((s.setDial d { caller := c, phase := .connected p }).setDial d
          { caller := c, phase := .asking p }).setDial d
            { caller := c, phase := .joined p, held := s.lock }) := by
      simp [PipeElection.step, PipeElection.setDial, alive, recorded, DialPhase.check]
    exact .cons (show PipeAction.dials d c (.ask d) from rfl) asks
      (.now (by simp [PipeElection.setDial]))

/-- A router that could not record itself serves, and no node of another process reaches it,
whoever takes which steps. -/
theorem windows_recorded_missed : ∃ s : PipeElection,
    Reachable PipeElection.step PipeElection.initial s ∧ (s.procs 7).stand = .serving ∧
      ¬ Leads (PipeAction.dials 0 9) PipeElection.step s
        (fun t => (t.dials 0).phase = .joined 7) ∧
      ∀ actions t, (∀ a ∈ actions, a ≠ .exit 7) → run PipeElection.step s actions = some t →
        ∀ d, (t.dials d).phase = .joined 7 →
          (s.dials d).phase = .joined 7 ∨ (t.dials d).caller = 7 := by
  -- The temporary file is written, and its rename fails.
  have ran : (run PipeElection.step PipeElection.initial
      [.spawn 7, .spawn 9, .embed 7, .lock 7, .write 7, .miss 7, .elect 7, .bind 7]).map
        (fun s => ((s.procs 7).stand, s.record, (s.dials 0).phase, (s.procs 9).life)) =
      some (.serving, none, .idle, .alive) := by decide +kernel
  obtain ⟨s, reached, facts⟩ := Option.map_eq_some_iff.mp ran
  simp only [Prod.mk.injEq] at facts
  obtain ⟨serving, record, idle, alive⟩ := facts
  have unrecorded : s.record ≠ some 7 := by
    intro same
    rw [record] at same
    cases same
  obtain ⟨kept, exactly_⟩ := windows_recorded ⟨_, reached⟩ serving
  refine ⟨s, ⟨_, reached⟩, serving, fun leads => ?_, fun actions t stay ran => ?_⟩
  · exact unrecorded ((exactly_ 0 9 (by decide) idle alive).mp leads)
  · exact (kept actions t stay ran).2.2 unrecorded

end Zapd
