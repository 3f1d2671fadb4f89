import Zapd.Elect.Safety

/-! The election recovers: from every reachable state one candidate alone can come to serve. -/

namespace Zapd

open Transition

variable {s s' : Election} {p q : Pid} {d : DialId}

/-- The process whose election thread takes the step by itself. -/
def ElectAction.candidate : ElectAction → Option Pid
  | .lock p | .elect p | .unlink p | .bind p | .permit p | .fail p | .resign p | .unlock p
  | .wake p => some p
  | .spawn _ | .embed _ | .exit _ | .plant _ | .uproot _ | .connect .. | .load _ | .ask _
  | .hello _ => none

/-- The dial that takes the step. -/
def ElectAction.dial : ElectAction → Option DialId
  | .connect d _ | .load d | .ask d | .hello d => some d
  | _ => none

/-- No process that is no candidate touches the socket path. -/
def Untampered (_ : Election) : ElectAction → Prop
  | .plant _ | .uproot _ => False
  | _ => True

instance (s : Election) : ∀ a : ElectAction, Decidable (Untampered s a)
  | .plant _ | .uproot _ => .isFalse id
  | .spawn _ | .embed _ | .lock _ | .elect _ | .unlink _ | .bind _ | .permit _ | .fail _
  | .resign _ | .unlock _ | .wake _ | .exit _ | .connect .. | .load _ | .ask _ | .hello _ =>
    .isTrue trivial

/-- Whoever stands lives, whoever has the lock stands where it has it, and the flag is set there. -/
structure Election.Live (s : Election) : Prop where
  living : ∀ p, (s.procs p).stand ≠ .out → (s.procs p).life = .alive
  holder : ∀ p, s.lock = some p → (s.procs p).stand.holds = true
  set : ∀ p, (s.procs p).stand.flagged = true → (s.procs p).flag = true

/-- No process has started. -/
theorem Election.Live.initial : Election.initial.Live where
  living p standing := absurd rfl standing
  holder p held := by cases held
  set p flagged := by cases flagged

/-- One process changes, and the lock and the path with it. -/
theorem Election.Live.change (live : s.Live) {proc : Process} {lock : Option Pid}
    {door : Option Socket} (living : proc.stand ≠ .out → proc.life = .alive)
    (set : proc.stand.flagged = true → proc.flag = true)
    (holder : lock = some p → proc.stand.holds = true)
    (others : ∀ q, q ≠ p → lock = some q → s.lock = some q) :
    ({ s.setProc p proc with lock, door } : Election).Live where
  -- The process that changed answers for itself, and the others as before.
  living q := forall_setProc (P := fun _ proc => proc.stand ≠ .out → proc.life = .alive)
    living (fun q _ => live.living q) q
  holder q := forall_setProc (P := fun q proc => lock = some q → proc.stand.holds = true)
    holder (fun q other held => live.holder q (others q other held)) q
  set q := forall_setProc (P := fun _ proc => proc.stand.flagged = true → proc.flag = true)
    set (fun q _ => live.set q) q

/-- Every step keeps the election live. -/
theorem Election.Live.step (live : s.Live) {a : ElectAction} (enabled : s.step a = some s') :
    s'.Live := by
  cases elects_of_step enabled with
  | @spawned p unborn =>
    refine live.change (by simp) (by simp) (fun held => ?_) fun q _ held => held
    -- A process that was not there has no lock.
    have out : (s.procs p).stand = .out := by
      by_contra standing
      rw [live.living p standing] at unborn
      cases unborn
    have holds := live.holder p held
    rw [out] at holds
    cases holds
  | @moved _ p stand door alive holds flagged leaves =>
    refine live.change (fun _ => alive) (fun isFlagged => ?_) (fun held => ?_) fun q _ held => held
    · -- Both places agree on the flag, and both on the lock.
      exact live.set p (flagged ▸ isFlagged)
    · show stand.holds = true
      rw [holds]
      exact live.holder p held
  | @locked p free alive stands =>
    refine live.change (fun _ => alive) (by simp) (fun _ => rfl) fun q other held => ?_
    -- The lock is the candidate's now, so it is nobody else's.
    exact absurd (Option.some.inj held).symm other
  -- The lock stays where it is while the flag changes.
  | elected alive stands =>
    exact live.change (fun _ => alive) (fun _ => rfl) (fun _ => rfl) fun q _ held => held
  | resigned alive stands =>
    -- The flag is cleared before the lock is dropped.
    exact live.change (fun _ => alive) (by simp) (fun _ => rfl) fun q _ held => held
  -- Nobody has the lock then.
  | unlocked alive stands => exact live.change (fun _ => alive) (by simp) (by simp) (by simp)
  | exited alive =>
    -- The lock is not left with a process that is gone.
    refine live.change (by simp) (by simp) (fun held => ?_) fun q _ held => ?_
    · simp [Option.filter_eq_some_iff] at held
    · exact (Option.filter_eq_some_iff.mp held).1
  -- The path and the dials are none of its concern.
  | meddled _ => exact ⟨live.living, live.holder, live.set⟩
  | connected _ => exact ⟨live.living, live.holder, live.set⟩
  | asking _ => exact ⟨live.living, live.holder, live.set⟩
  | evaluated _ _ _ => exact ⟨live.living, live.holder, live.set⟩
  | said _ => exact ⟨live.living, live.holder, live.set⟩

/-- Every reachable state is live. -/
theorem Election.Live.reachable (reached : Reachable Election.step Election.initial s) : s.Live :=
  reached.invariant .initial fun _ _ _ live enabled => live.step enabled

/-- The process lives, has the lock and the flag, and accepts connections. -/
structure Election.Serves (s : Election) (p : Pid) : Prop where
  alive : (s.procs p).life = .alive
  stand : (s.procs p).stand = .serving
  flag : (s.procs p).flag = true
  lock : s.lock = some p

/-- The election thread of one process can come to serve by its own steps alone. -/
def Election.Completes (s : Election) (p : Pid) : Prop :=
  Leads (fun a => a.candidate = some p) Election.step s (·.Serves p)

/-- A candidate stands here with the lock, and its flag is what it is there. -/
structure Election.At (s : Election) (p : Pid) (stand : Stand) : Prop where
  stands : s.stands p stand = true
  flag : stand.flagged = true → (s.procs p).flag = true
  lock : s.lock = if stand.holds then some p else none

/-- The candidate's own step takes it from one place to the next. -/
theorem Election.At.next {stand next : Stand} {proc : Process} {lock : Option Pid}
    {door : Option Socket} (at_ : s.At p stand) (alive : proc.life = (s.procs p).life)
    (stands : proc.stand = next) (flag : next.flagged = true → proc.flag = true)
    (locked : lock = if next.holds then some p else none) :
    ({ s.setProc p proc with lock, door } : Election).At p next := by
  -- The process that went on is the one that is looked at.
  have here : Function.update s.procs p proc p = proc := Function.update_self ..
  refine ⟨?_, fun flagged => ?_, locked⟩
  · have life := (stands_iff.mp at_.stands).1
    rw [stands_iff]
    show (Function.update s.procs p proc p).life = .alive ∧
      (Function.update s.procs p proc p).stand = next
    rw [here, alive, life]
    exact ⟨rfl, stands⟩
  · show (Function.update s.procs p proc p).flag = true
    rw [here]
    exact flag flagged

/-- A candidate that serves has nothing left to do. -/
theorem Election.At.serving (at_ : s.At p .serving) : s.Completes p := by
  obtain ⟨alive, stand⟩ := stands_iff.mp at_.stands
  exact .now ⟨alive, stand, at_.flag rfl, at_.lock⟩

/-- Once the socket is bound, its permissions are set. -/
theorem Election.At.bound (at_ : s.At p .bound) : s.Completes p :=
  .cons (show ElectAction.candidate (.permit p) = some p from rfl) (if_pos at_.stands)
    (Election.At.serving (at_.next rfl rfl (fun _ => at_.flag rfl) at_.lock))

/-- Where nothing is at the path, the socket is bound. -/
theorem Election.At.binding (at_ : s.At p .binding) (free : s.door = none) : s.Completes p := by
  -- The lock keeps the other candidates away, so a free path can be bound.
  have enabled : s.step (.bind p) = some { s.goOn p .bound with door := some ⟨p, true⟩ } := by
    refine if_pos ?_
    rw [at_.stands, free]
    rfl
  exact .cons rfl enabled
    (Election.At.bound (at_.next rfl rfl (fun _ => at_.flag rfl) at_.lock))

/-- What is at the path is removed first. -/
theorem Election.At.elected (at_ : s.At p .elected) : s.Completes p :=
  .cons (show ElectAction.candidate (.unlink p) = some p from rfl) (if_pos at_.stands)
    (Election.At.binding (at_.next rfl rfl (fun _ => at_.flag rfl) at_.lock) rfl)

/-- With the lock, the flag is set. -/
theorem Election.At.locked (at_ : s.At p .locked) : s.Completes p :=
  .cons (show ElectAction.candidate (.elect p) = some p from rfl) (if_pos at_.stands)
    (Election.At.elected (at_.next rfl rfl (fun _ => rfl) at_.lock))

/-- Where nobody has the lock, it is granted. -/
theorem Election.At.standing (at_ : s.At p .standing) : s.Completes p := by
  -- A candidate that stands here has no lock, and neither has anybody else.
  have enabled : s.step (.lock p) = some { s.goOn p .locked with lock := some p } := by
    refine if_pos ?_
    rw [at_.stands, at_.lock]
    rfl
  exact .cons rfl enabled (Election.At.locked (at_.next rfl rfl nofun rfl))

/-- A candidate that rests stands again. -/
theorem Election.At.resting (at_ : s.At p .resting) : s.Completes p :=
  .cons (show ElectAction.candidate (.wake p) = some p from rfl) (if_pos at_.stands)
    (Election.At.standing (at_.next rfl rfl nofun at_.lock))

/-- The lock is dropped, so that it can be granted again. -/
theorem Election.At.resigning (at_ : s.At p .resigning) : s.Completes p :=
  .cons (show ElectAction.candidate (.unlock p) = some p from rfl) (if_pos at_.stands)
    (Election.At.resting (at_.next rfl rfl nofun rfl))

/-- A candidate that failed resigns first. -/
theorem Election.At.failed (at_ : s.At p .failed) : s.Completes p :=
  .cons (show ElectAction.candidate (.resign p) = some p from rfl) (if_pos at_.stands)
    (Election.At.resigning (at_.next rfl rfl nofun at_.lock))

/-- A candidate whose path was bound again before it could bind fails, and stands again. -/
theorem Election.At.beaten (at_ : s.At p .binding) : s.Completes p := by
  -- Whatever was bound meanwhile goes with the next `unlink`, once it is elected again.
  have enabled : s.step (.fail p) = some (s.goOn p .failed) := by
    refine if_pos ?_
    rw [at_.stands, Bool.or_true]
  exact .cons rfl enabled
    (Election.At.failed (at_.next rfl rfl (fun _ => at_.flag rfl) at_.lock))

/-- From every place a candidate can come to serve, if nobody else has the lock. -/
theorem Election.At.completes {stand : Stand} (at_ : s.At p stand) (stands : stand ≠ .out) :
    s.Completes p := by
  -- Each place leads to the next one, and `binding` back to the start by way of `failed`.
  cases stand with
  | out => exact absurd rfl stands
  | standing => exact at_.standing
  | locked => exact at_.locked
  | elected => exact at_.elected
  | binding => exact at_.beaten
  | bound => exact at_.bound
  | serving => exact at_.serving
  | failed => exact at_.failed
  | resigning => exact at_.resigning
  | resting => exact at_.resting

/-- Some live candidate can come to serve: the holder of the lock, or anyone where there is none. -/
theorem Election.Live.completes (live : s.Live) (sound : s.Sound)
    (candidate : (s.procs p).stand ≠ .out) : ∃ q, s.Completes q := by
  -- Where a candidate stands, it has the lock just as its place says.
  have here : ∀ q, (s.procs q).stand ≠ .out →
      s.lock = (if (s.procs q).stand.holds then some q else none) → s.Completes q :=
    fun q standing locked =>
      Election.At.completes ⟨stands_iff.mpr ⟨live.living q standing, rfl⟩, live.set q, locked⟩
        standing
  cases held : s.lock with
  -- The holder goes on from where it is: nobody else can.
  | some q =>
    have holds := live.holder q held
    refine ⟨q, here q (fun out => ?_) (by rw [if_pos holds, held])⟩
    rw [out] at holds
    cases holds
  -- Nobody has the lock, so the candidate itself goes on.
  | none =>
    refine ⟨p, here p candidate ?_⟩
    -- A candidate with the lock would be its holder.
    rw [if_neg, held]
    intro holds
    rw [sound.held p holds] at held
    cases held

/-- Whoever has bound the path and not failed is found there. -/
def Election.Placed (s : Election) : Prop :=
  ∀ p, (s.procs p).stand = .bound ∨ (s.procs p).stand = .serving → s.door = some ⟨p, true⟩

/-- One process changes, and perhaps the path. -/
theorem Election.Placed.change (placed : s.Placed) {proc : Process} {lock : Option Pid}
    {door : Option Socket}
    (own : proc.stand = .bound ∨ proc.stand = .serving → door = some ⟨p, true⟩)
    (others : ∀ q, q ≠ p → (s.procs q).stand.holds = true → s.door = some ⟨q, true⟩ →
      door = some ⟨q, true⟩) :
    ({ s.setProc p proc with lock, door } : Election).Placed := by
  -- Another process that has bound the path has the lock.
  refine fun q => forall_setProc (P := fun q proc =>
    proc.stand = .bound ∨ proc.stand = .serving → door = some ⟨q, true⟩) own ?_ q
  intro q other there
  refine others q other ?_ (placed q there)
  rcases there with bound | serving
  · rw [bound]
    rfl
  · rw [serving]
    rfl

/-- Another process's listener is still there when a process has closed its own. -/
theorem closed_other (other : q ≠ p) (there : s.door = some ⟨q, true⟩) :
    s.closed p = some ⟨q, true⟩ := by
  simp [Election.closed, there, other]

/-- Where nobody tampers with the path, every step keeps what was bound in its place. -/
theorem Election.Placed.step (placed : s.Placed) (sound : s.Sound) {a : ElectAction}
    (untampered : Untampered s a) (enabled : s.step a = some s') : s'.Placed := by
  cases elects_of_step enabled with
  | spawned _ => exact placed.change (by simp) fun _ _ _ there => there
  | @moved _ p stand door alive holds flagged leaves =>
    -- Whoever has the lock has it alone, so nobody else has bound the path.
    have alone : (s.procs p).stand.holds = true → ∀ q, q ≠ p →
        (s.procs q).stand.holds = true → False := by
      intro own q other also
      exact other (sound.alone own also)
    generalize at_ : (s.procs p).stand = before at leaves alone
    cases leaves with
    | same unbound arrived =>
      refine placed.change (fun there => ?_) fun _ _ _ there => there
      -- It serves what it has bound.
      rcases there with bound | serving
      · exact absurd bound unbound
      · exact placed p (.inl (at_.trans (arrived serving)))
    -- Whoever clears or binds the path does so with the lock.
    | cleared => exact placed.change (by simp) fun q other also _ => (alone rfl q other also).elim
    | bound =>
      exact placed.change (fun _ => rfl) fun q other also _ => (alone rfl q other also).elim
    -- A process closes its own listeners only.
    | closed => exact placed.change (by simp) fun q other _ there => closed_other other there
  | locked _ _ _ => exact placed.change (by simp) fun _ _ _ there => there
  | elected _ _ => exact placed.change (by simp) fun _ _ _ there => there
  | resigned _ _ => exact placed.change (by simp) fun _ _ _ there => there
  | unlocked _ _ => exact placed.change (by simp) fun _ _ _ there => there
  | exited _ => exact placed.change (by simp) fun q other _ there => closed_other other there
  | meddled rogue =>
    -- Only a process that is no candidate does that.
    rcases rogue with rfl | rfl
    · exact untampered.elim
    · exact untampered.elim
  -- A dial changes no process and not the path.
  | connected _ => exact placed
  | asking _ => exact placed
  | evaluated _ _ _ => exact placed
  | said _ => exact placed

/-- Where nobody tampers with the path, what was bound is in its place. -/
theorem Election.Placed.reachable
    (reached : GuardedReachable Untampered Election.step Election.initial s) : s.Placed := by
  refine reached.induction (P := Election.Placed) ?_ ?_
  · intro p there
    simp [Election.initial] at there
  · intro state action next reach untampered placed enabled
    exact placed.step (Election.Sound.reachable reach) untampered enabled

/-- A new dial of any live process comes to return a stream to the process that serves. -/
theorem Election.Serves.dialed (serves : s.Serves q) (there : s.door = some ⟨q, true⟩)
    (sound : s.Sound) (idle : (s.dials d).phase = .idle) (alive : (s.procs p).life = .alive) :
    Leads (fun a => a.dial = some d) Election.step s fun t =>
      (t.dials d).phase = .joined q ∧ (t.dials d).caller = p ∧ t.procs = s.procs ∧
        t.lock = s.lock ∧ t.hellos = s.hellos := by
  -- The path leads to the process that serves, and its listener is open.
  have connects : s.step (.connect d p) =
      some (s.setDial d { caller := p, phase := .connected q }) := by
    simp [Election.step, idle, there, alive]
  refine .cons rfl connects ?_
  have at_ : ((s.setDial d { caller := p, phase := .connected q }).dials d) =
      { caller := p, phase := .connected q } := Function.update_self ..
  have procs : (s.setDial d { caller := p, phase := .connected q }).procs = s.procs := rfl
  have same : (s.setDial d { caller := p, phase := .connected q }).lock = s.lock := rfl
  have lock := same.trans serves.lock
  have hellos : (s.setDial d { caller := p, phase := .connected q }).hellos = s.hellos := rfl
  generalize s.setDial d { caller := p, phase := .connected q } = t
    at at_ procs same lock hellos
  by_cases own : (s.procs p).flag = true
  · -- A process whose flag is set is the one that serves, and finds itself.
    obtain rfl : q = p := Option.some.inj (serves.lock.symm.trans (sound.lock own))
    have loads : t.step (.load d) =
        some (t.setDial d { caller := q, phase := .joined q, held := some q }) := by
      simp [Election.step, at_, procs, alive, own, DialPhase.check, lock]
    exact .cons rfl loads (.now (by simp [Election.setDial, procs, same, hellos]))
  · -- Any other process asks the lock, which names the one that serves.
    have other : q ≠ p := by
      intro same
      exact own (same ▸ serves.flag)
    have loads : t.step (.load d) = some (t.setDial d { caller := p, phase := .asking q }) := by
      simp [Election.step, at_, procs, alive, own]
    refine .cons rfl loads ?_
    have asks : (t.setDial d { caller := p, phase := .asking q }).step (.ask d) =
        some ((t.setDial d { caller := p, phase := .asking q }).setDial d
          { caller := p, phase := .joined q, held := some q }) := by
      simp [Election.step, Election.setDial, procs, alive, DialPhase.check, Election.getlk, lock,
        Option.filter, other]
    exact .cons rfl asks (.now (by simp [Election.setDial, procs, same, hellos]))

/-- A candidate's own steps tamper with nothing. -/
theorem untampered_candidate {a : ElectAction} (own : a.candidate = some p) : Untampered s a := by
  cases a <;> first | exact trivial | cases own

/-- The election is never stuck: from every reachable state with a live candidate, one process can
come to serve by its own steps alone, whatever failed, exited or bound a socket there before; and
where nobody tampered with the path, every live process's new dial can then reach it. -/
theorem election_recovers (reached : Reachable Election.step Election.initial s)
    (candidate : (s.procs p).stand ≠ .out) :
    ∃ q, Leads (fun a => a.candidate = some q) Election.step s fun t => t.Serves q ∧
      (GuardedReachable Untampered Election.step Election.initial s →
        ∀ d c, (t.dials d).phase = .idle → (t.procs c).life = .alive →
          Leads (fun a => a.dial = some d) Election.step t fun u =>
            (u.dials d).phase = .joined q ∧ (u.dials d).caller = c) := by
  -- The holder of the lock, or the candidate, comes to serve; the dial finds it at the path.
  have sound := Election.Sound.reachable reached
  obtain ⟨q, completes⟩ := (Election.Live.reachable reached).completes sound candidate
  refine ⟨q, completes.imp fun actions t own ran serves => ⟨serves, ?_⟩⟩
  intro untampered d c idle alive
  -- The run that comes to serve tampers with nothing either.
  have guarded := untampered.run (fun _ a member => untampered_candidate (own a member)) ran
  have there := Election.Placed.reachable guarded q (.inr serves.stand)
  exact (serves.dialed there (Election.Sound.reachable guarded.reachable) idle alive).imp
    fun _ _ _ _ joined => ⟨joined.1, joined.2.1⟩

/-- A process that is killed while it serves leaves another that can take over. -/
theorem election_recovers_killed : ∃ s : Election,
    Reachable Election.step Election.initial s ∧ s.lock = none ∧
      ∃ q, Leads (fun a => a.candidate = some q) Election.step s (·.Serves q) := by
  -- One of two candidates serves and is killed, and its socket stays behind.
  have ran : (run Election.step Election.initial
      [.spawn 7, .spawn 9, .embed 7, .embed 9, .lock 7, .elect 7, .unlink 7, .bind 7, .permit 7,
        .exit 7]).map (fun s => (s.lock, (s.procs 9).stand)) = some (none, .standing) := by
    decide +kernel
  obtain ⟨s, reached, facts⟩ := Option.map_eq_some_iff.mp ran
  obtain ⟨free, standing⟩ := Prod.mk.inj facts
  obtain ⟨q, leads⟩ := election_recovers (p := 9) ⟨_, reached⟩ (by simp [standing])
  exact ⟨s, ⟨_, reached⟩, free, q, leads.imp fun _ _ _ _ both => both.1⟩

end Zapd
