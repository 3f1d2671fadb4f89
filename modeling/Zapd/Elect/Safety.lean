import Zapd.Elect.Model

/-! Election safety: the flag, the socket path and every stream a node talks on follow the lock. -/

namespace Zapd

/-- Phases in which a candidate has the lock. -/
@[simp] def Stand.holds : Stand → Bool
  | .locked | .elected | .binding | .bound | .serving | .failed | .resigning => true
  | .out | .standing | .resting => false

/-- Phases in which `ELECTED` is set. -/
@[simp] def Stand.flagged : Stand → Bool
  | .elected | .binding | .bound | .serving | .failed => true
  | .out | .standing | .locked | .resigning | .resting => false

/-- What holds in every reachable state of the election. -/
structure Election.Sound (s : Election) : Prop where
  held : ∀ p, (s.procs p).stand.holds = true → s.lock = some p
  flagged : ∀ p, (s.procs p).flag = true → (s.procs p).stand.flagged = true
  joined : ∀ d peer, (s.dials d).phase = .joined peer → (s.dials d).held = some peer
  said : ∀ h ∈ s.hellos, (s.dials h.1).phase = .joined h.2

/-- What a candidate that goes on from one place to another leaves at the socket path. -/
inductive Leaves (s : Election) (p : Pid) : Stand → Stand → Option Socket → Prop
  | same {before stand : Stand} (unbound : stand ≠ .bound)
    (arrived : stand = .serving → before = .bound) : Leaves s p before stand s.door
  | cleared : Leaves s p .elected .binding none
  | bound : Leaves s p .binding .bound (some ⟨p, true⟩)
  /-- A listener that is dropped leaves its path behind. -/
  | closed : Leaves s p .bound .failed (s.closed p)

/-- A step of the election, one case for each kind of thing it can change. -/
inductive Elects (s : Election) : ElectAction → Election → Prop
  | spawned {p : Pid} (unborn : (s.procs p).life = .unborn) :
    Elects s (.spawn p) (s.setProc p { life := .alive })
  /-- A candidate goes on, with the lock or without it. -/
  | moved {a : ElectAction} {p : Pid} {stand : Stand} {door : Option Socket}
    (alive : (s.procs p).life = .alive) (holds : stand.holds = (s.procs p).stand.holds)
    (flagged : stand.flagged = (s.procs p).stand.flagged)
    (leaves : Leaves s p (s.procs p).stand stand door) :
    Elects s a { s.goOn p stand with door }
  | locked {p : Pid} (free : s.lock = none) (alive : (s.procs p).life = .alive)
    (stands : (s.procs p).stand = .standing) :
    Elects s (.lock p) { s.goOn p .locked with lock := some p }
  | elected {p : Pid} (alive : (s.procs p).life = .alive)
    (stands : (s.procs p).stand = .locked) :
    Elects s (.elect p) (s.setProc p { s.procs p with stand := .elected, flag := true })
  | resigned {p : Pid} (alive : (s.procs p).life = .alive)
    (stands : (s.procs p).stand = .failed) :
    Elects s (.resign p) (s.setProc p { s.procs p with stand := .resigning, flag := false })
  | unlocked {p : Pid} (alive : (s.procs p).life = .alive)
    (stands : (s.procs p).stand = .resigning) :
    Elects s (.unlock p) { s.goOn p .resting with lock := none }
  | exited {p : Pid} (alive : (s.procs p).life = .alive) :
    Elects s (.exit p) { s.setProc p { life := .dead } with
      lock := s.lock.filter (· ≠ p), door := s.closed p }
  /-- Somebody else changes what is at the path. -/
  | meddled {a : ElectAction} {p : Pid} {door : Option Socket}
    (rogue : a = .plant p ∨ a = .uproot p) :
    Elects s a { s with door }
  | connected {d : DialId} {p peer : Pid} (idle : (s.dials d).phase = .idle) :
    Elects s (.connect d p) (s.setDial d { caller := p, phase := .connected peer })
  | asking {d : DialId} {peer : Pid} (connected : (s.dials d).phase = .connected peer) :
    Elects s (.load d) (s.setDial d { s.dials d with phase := .asking peer })
  /-- `holder` was evaluated, by the flag or by the lock. -/
  | evaluated {a : ElectAction} {d : DialId} {peer : Pid} {holder : Option Pid}
    (asks : a = .load d ∨ a = .ask d)
    (open_ : (s.dials d).phase = .connected peer ∨ (s.dials d).phase = .asking peer)
    (known : ∀ q, holder = some q → (s.procs q).flag = true ∨ s.lock = some q) :
    Elects s a
      (s.setDial d { s.dials d with phase := DialPhase.check holder peer, held := s.lock })
  | said {d : DialId} {peer : Pid} (joined : (s.dials d).phase = .joined peer) :
    Elects s (.hello d) { s with hellos := (d, peer) :: s.hellos }

/-- A candidate stands where it is said to. -/
theorem stands_iff {s : Election} {p : Pid} {stand : Stand} :
    s.stands p stand = true ↔ (s.procs p).life = .alive ∧ (s.procs p).stand = stand := by
  simp [Election.stands]

/-- A candidate goes on between phases that agree on the lock and the flag. -/
theorem elects_goOn {s : Election} {a : ElectAction} {p : Pid} {before stand : Stand}
    {door : Option Socket} (stands : s.stands p before = true)
    (holds : stand.holds = before.holds) (flagged : stand.flagged = before.flagged)
    (leaves : Leaves s p before stand door) : Elects s a { s.goOn p stand with door } := by
  obtain ⟨alive, rfl⟩ := stands_iff.mp stands
  exact .moved alive holds flagged leaves

/-- Whom the kernel names holds the lock. -/
theorem getlk_eq_some {s : Election} {p q : Pid} (named : s.getlk p = some q) :
    s.lock = some q :=
  (Option.filter_eq_some_iff.mp named).1

/-- Every enabled step is one of the cases. -/
theorem elects_of_step {s s' : Election} {a : ElectAction} (enabled : s.step a = some s') :
    Elects s a s' := by
  cases a with
  | spawn p =>
    obtain ⟨unborn, same⟩ := Option.ite_none_right_eq_some.mp enabled
    cases same
    exact .spawned unborn
  | embed p =>
    obtain ⟨stands, same⟩ := Option.ite_none_right_eq_some.mp enabled
    cases same
    exact elects_goOn stands rfl rfl (.same (by decide) (by decide))
  -- The grant and the unlock are the only steps at which the lock changes hands.
  | lock p =>
    obtain ⟨granted, same⟩ := Option.ite_none_right_eq_some.mp enabled
    obtain ⟨stands, free⟩ := Bool.and_eq_true_iff.mp granted
    cases same
    obtain ⟨alive, stands⟩ := stands_iff.mp stands
    exact .locked (Option.isNone_iff_eq_none.mp free) alive stands
  -- The flag changes only here and where a candidate resigns.
  | elect p =>
    obtain ⟨stands, same⟩ := Option.ite_none_right_eq_some.mp enabled
    cases same
    obtain ⟨alive, stands⟩ := stands_iff.mp stands
    exact .elected alive stands
  -- From here to the permissions the path is the candidate's to change.
  | unlink p =>
    obtain ⟨stands, same⟩ := Option.ite_none_right_eq_some.mp enabled
    cases same
    exact elects_goOn stands rfl rfl .cleared
  | bind p =>
    obtain ⟨allowed, same⟩ := Option.ite_none_right_eq_some.mp enabled
    obtain ⟨stands, _⟩ := Bool.and_eq_true_iff.mp allowed
    cases same
    exact elects_goOn stands rfl rfl .bound
  | permit p =>
    obtain ⟨stands, same⟩ := Option.ite_none_right_eq_some.mp enabled
    cases same
    -- The permissions are set on what is already bound.
    exact elects_goOn stands rfl rfl (.same (by decide) (by decide))
  | fail p =>
    simp only [Election.step] at enabled
    -- Before the bind there is no listener to close.
    split at enabled
    · rename_i early
      cases enabled
      -- Nothing was bound yet.
      rcases Bool.or_eq_true_iff.mp early with stands | stands
      · exact elects_goOn stands rfl rfl (.same (by decide) (by decide))
      · exact elects_goOn stands rfl rfl (.same (by decide) (by decide))
    · obtain ⟨stands, same⟩ := Option.ite_none_right_eq_some.mp enabled
      cases same
      exact elects_goOn stands rfl rfl .closed
  | resign p =>
    obtain ⟨stands, same⟩ := Option.ite_none_right_eq_some.mp enabled
    cases same
    obtain ⟨alive, stands⟩ := stands_iff.mp stands
    exact .resigned alive stands
  | unlock p =>
    obtain ⟨stands, same⟩ := Option.ite_none_right_eq_some.mp enabled
    cases same
    obtain ⟨alive, stands⟩ := stands_iff.mp stands
    exact .unlocked alive stands
  | wake p =>
    obtain ⟨stands, same⟩ := Option.ite_none_right_eq_some.mp enabled
    cases same
    exact elects_goOn stands rfl rfl (.same (by decide) (by decide))
  | exit p =>
    obtain ⟨alive, same⟩ := Option.ite_none_right_eq_some.mp enabled
    cases same
    exact .exited alive
  -- Others change what is at the path, and nothing else.
  | plant p =>
    obtain ⟨_, same⟩ := Option.ite_none_right_eq_some.mp enabled
    cases same
    exact .meddled (.inl rfl)
  | uproot p =>
    obtain ⟨_, same⟩ := Option.ite_none_right_eq_some.mp enabled
    cases same
    exact .meddled (.inr rfl)
  -- What a dial does leaves the candidates alone.
  | connect d p =>
    simp only [Election.step] at enabled
    split at enabled
    · rename_i idle _
      obtain ⟨_, same⟩ := Option.ite_none_right_eq_some.mp enabled
      cases same
      exact .connected idle
    · cases enabled
  | load d =>
    simp only [Election.step] at enabled
    split at enabled
    · rename_i peer connected
      split at enabled
      · split at enabled
        · rename_i flag
          cases enabled
          -- The holder is taken to be the own process.
          refine .evaluated (.inl rfl) (.inl connected) fun q own => .inl ?_
          cases own
          exact flag
        · cases enabled
          exact .asking connected
      · cases enabled
    · cases enabled
  -- The kernel names only who has the lock.
  | ask d =>
    simp only [Election.step] at enabled
    split at enabled
    · rename_i peer asking
      obtain ⟨_, same⟩ := Option.ite_none_right_eq_some.mp enabled
      cases same
      exact .evaluated (.inr rfl) (.inr asking) fun q named => .inr (getlk_eq_some named)
    · cases enabled
  | hello d =>
    simp only [Election.step] at enabled
    split at enabled
    · rename_i peer joined
      obtain ⟨_, same⟩ := Option.ite_none_right_eq_some.mp enabled
      cases same
      exact .said joined
    · cases enabled

/-- A set flag is a held lock. -/
theorem Election.Sound.lock {s : Election} (sound : s.Sound) {p : Pid}
    (flag : (s.procs p).flag = true) : s.lock = some p := by
  have flagged := sound.flagged p flag
  -- Wherever the flag is set, the candidate has the lock.
  apply sound.held p
  cases stand : (s.procs p).stand <;> simp [stand] at flagged ⊢

/-- A change of one process keeps the facts about the others. -/
theorem forall_setProc {P : Pid → Process → Prop} {s : Election} {p : Pid} {proc : Process}
    (own : P p proc) (others : ∀ q, q ≠ p → P q (s.procs q)) (q : Pid) :
    P q ((s.setProc p proc).procs q) := by
  -- The process that changed is judged by what it is now.
  by_cases same : q = p
  · subst same
    simpa [Election.setProc] using own
  · simpa [Election.setProc, Function.update_of_ne same] using others q same

/-- A dial that has not returned can go on, as long as it returns only a stream to the holder. -/
theorem Election.Sound.dials {s : Election} (sound : s.Sound) {d : DialId} {dialing : Dialing}
    (open_ : ∀ peer, (s.dials d).phase ≠ .joined peer)
    (joined : ∀ peer, dialing.phase = .joined peer → dialing.held = some peer) :
    (s.setDial d dialing).Sound where
  held := sound.held
  flagged := sound.flagged
  joined e peer phase := by
    -- Only the dial that goes on can have come to return a stream.
    by_cases same : e = d
    · subst same
      simp only [Election.setDial, Function.update_self] at phase ⊢
      exact joined peer phase
    · simp only [Election.setDial, Function.update_of_ne same] at phase ⊢
      exact sound.joined e peer phase
  said h member := by
    have phase := sound.said h member
    -- Nobody has said HELLO on a stream that is not there yet.
    have other : h.1 ≠ d := by
      intro same
      rw [same] at phase
      exact open_ _ phase
    simpa [Election.setDial, Function.update_of_ne other] using phase

/-- One process can change, and the lock and the path with it, as long as the lock is followed. -/
theorem Election.Sound.procs {s : Election} (sound : s.Sound) {p : Pid} {proc : Process}
    {lock : Option Pid} {door : Option Socket} (held : proc.stand.holds = true → lock = some p)
    (flagged : proc.flag = true → proc.stand.flagged = true)
    (others : ∀ q, q ≠ p → (s.procs q).stand.holds = true → lock = some q) :
    ({ s.setProc p proc with lock, door } : Election).Sound where
  held q :=
    forall_setProc (P := fun q proc => proc.stand.holds = true → lock = some q) held others q
  flagged q :=
    forall_setProc (P := fun _ proc => proc.flag = true → proc.stand.flagged = true) flagged
      (fun q _ => sound.flagged q) q
  joined := sound.joined
  said := sound.said

/-- The lock has one holder. -/
theorem Election.Sound.alone {s : Election} (sound : s.Sound) {p q : Pid}
    (holds : (s.procs p).stand.holds = true) (also : (s.procs q).stand.holds = true) : q = p := by
  -- Both are named by the same lock.
  have same := (sound.held p holds).symm.trans (sound.held q also)
  exact (Option.some.inj same).symm

/-- Every step keeps the election sound. -/
theorem Election.Sound.step {s s' : Election} {a : ElectAction} (sound : s.Sound)
    (enabled : s.step a = some s') : s'.Sound := by
  cases elects_of_step enabled with
  | spawned _ => exact sound.procs (by simp) (by simp) fun q _ => sound.held q
  -- Both places agree on the lock and on the flag.
  | @moved _ p stand door alive holds flagged leaves =>
    refine sound.procs (fun held => ?_) (fun flag => ?_) fun q _ => sound.held q
    · rw [holds] at held
      exact sound.held p held
    · rw [flagged]
      exact sound.flagged p flag
  | @locked p free alive stands =>
    refine sound.procs (fun _ => rfl) (fun flag => ?_) fun q _ held => ?_
    · -- A candidate that stands for election has no flag set.
      have flagged := sound.flagged p flag
      simp [stands] at flagged
    · -- A lock that was granted was free.
      have taken := sound.held q held
      rw [free] at taken
      cases taken
  -- The flag is set, and cleared, by a candidate that has the lock.
  | @elected p alive stands =>
    exact sound.procs (fun _ => sound.held p (by simp [stands])) (fun _ => rfl)
      fun q _ => sound.held q
  | @resigned p alive stands =>
    exact sound.procs (fun _ => sound.held p (by simp [stands])) (by simp)
      fun q _ => sound.held q
  | @unlocked p alive stands =>
    refine sound.procs (by simp) (fun flag => ?_) fun q other held => ?_
    · have flagged := sound.flagged p flag
      simp [stands] at flagged
    · -- The lock was this candidate's, so nobody else relied on it.
      exact absurd (sound.alone (by simp [stands]) held) other
  | @exited p alive =>
    refine sound.procs (by simp) (by simp) fun q other held => ?_
    -- The lock of a process that is gone was its own.
    simp [sound.held q held, other]
  -- What is at the path says nothing about the lock.
  | meddled _ => exact ⟨sound.held, sound.flagged, sound.joined, sound.said⟩
  -- A dial that only goes on has returned no stream yet.
  | connected idle => exact sound.dials (by simp [idle]) (by simp)
  | asking connected => exact sound.dials (by simp [connected]) (by simp)
  | @evaluated _ d peer holder asks open_ known =>
    refine sound.dials (fun other joined => ?_) fun other joined => ?_
    -- It had returned nothing before it was evaluated.
    · rcases open_ with phase | phase <;> rw [phase] at joined <;> cases joined
    · -- The stream was returned, so its peer is the holder that was found.
      simp only [DialPhase.check] at joined
      split at joined
      · rename_i found
        cases joined
        rcases known _ found with flag | taken
        · exact sound.lock flag
        · exact taken
      · cases joined
  | @said d peer joined =>
    refine ⟨sound.held, sound.flagged, sound.joined, fun h member => ?_⟩
    -- The new HELLO is on the stream that its dial returned.
    rcases List.mem_cons.mp member with rfl | before
    · exact joined
    · exact sound.said h before

/-- Nobody stands for election at first. -/
theorem Election.Sound.initial : Election.initial.Sound where
  held p held := by cases held
  flagged p flag := by cases flag
  joined d peer joined := by cases joined
  said h member := by cases member

/-- Every reachable state is sound. -/
theorem Election.Sound.reachable {s : Election}
    (reached : Transition.Reachable Election.step Election.initial s) : s.Sound :=
  reached.invariant Election.Sound.initial fun _ _ _ sound enabled => sound.step enabled

/-- A candidate unlinks or binds the path only with the lock. -/
theorem Election.Sound.path {s s' : Election} {a : ElectAction} {p : Pid} (sound : s.Sound)
    (path : a = .unlink p ∨ a = .bind p) (enabled : s.step a = some s') :
    (s.procs p).stand.holds = true ∧ s.lock = some p := by
  have holds : (s.procs p).stand.holds = true := by
    -- Both steps are taken between the grant and the unlock.
    rcases path with rfl | rfl
    · obtain ⟨stands, _⟩ := Option.ite_none_right_eq_some.mp enabled
      simp [stands_iff.mp stands]
    · obtain ⟨allowed, _⟩ := Option.ite_none_right_eq_some.mp enabled
      simp [stands_iff.mp (Bool.and_eq_true_iff.mp allowed).1]
  exact ⟨holds, sound.held p holds⟩

/-- A dial that has joined since is the one that was changed, and it was changed to that. -/
theorem joined_setDial {s : Election} {d e : DialId} {dialing : Dialing} {peer : Pid}
    (before : (s.dials d).phase ≠ .joined peer)
    (joined : ((s.setDial e dialing).dials d).phase = .joined peer) :
    d = e ∧ dialing.phase = .joined peer := by
  by_cases same : d = e
  · subst same
    simp only [Election.setDial, Function.update_self] at joined
    exact ⟨rfl, joined⟩
  · -- Every other dial is as it was.
    simp only [Election.setDial, Function.update_of_ne same] at joined
    exact absurd joined before

/-- The step by which a dial returns a stream finds the peer holding the lock. -/
theorem Election.Sound.returns {s s' : Election} {a : ElectAction} {d : DialId} {peer : Pid}
    (sound : s.Sound) (enabled : s.step a = some s') (before : (s.dials d).phase ≠ .joined peer)
    (joined : (s'.dials d).phase = .joined peer) : s.lock = some peer := by
  -- What is recorded with a returned stream is whoever had the lock as it was asked.
  have held := (sound.step enabled).joined d peer joined
  cases elects_of_step enabled with
  | evaluated =>
    -- The holder was recorded in this step.
    obtain ⟨rfl, _⟩ := joined_setDial before joined
    simpa [Election.setDial] using held
  -- A dial that goes on in another way returns nothing.
  | connected =>
    obtain ⟨_, phase⟩ := joined_setDial before joined
    cases phase
  | asking =>
    obtain ⟨_, phase⟩ := joined_setDial before joined
    cases phase
  -- No other step touches a dial.
  | _ => exact absurd joined before

/--
The flag is set only with the lock, and the path is changed by candidates only with the lock.

A dial returns only a stream to whoever held the lock as it was asked, and HELLO is said on no
other.
-/
theorem election_safety {s : Election}
    (reached : Transition.Reachable Election.step Election.initial s) :
    (∀ p, (s.procs p).flag = true → s.lock = some p) ∧
    (∀ (p : Pid) (a : ElectAction) (s' : Election), a = .unlink p ∨ a = .bind p →
      s.step a = some s' → s.lock = some p ∧ ∀ q, (s.procs q).stand = .serving → q = p) ∧
    (∀ (a : ElectAction) (s' : Election) (d : DialId) (peer : Pid), s.step a = some s' →
      (s.dials d).phase ≠ .joined peer → (s'.dials d).phase = .joined peer →
        s.lock = some peer) ∧
    (∀ h ∈ s.hellos, (s.dials h.1).phase = .joined h.2 ∧ (s.dials h.1).held = some h.2) := by
  have sound := Election.Sound.reachable reached
  refine ⟨fun p => sound.lock, ?_, ?_, ?_⟩
  · intro p a s' path enabled
    obtain ⟨holds, locked⟩ := sound.path path enabled
    refine ⟨locked, fun q serving => ?_⟩
    -- Whoever serves has the lock too.
    exact sound.alone holds (by simp [serving])
  -- A stream is returned by the step that asks who has the lock.
  · intro a s' d peer enabled before joined
    exact sound.returns enabled before joined
  -- HELLO is said on a stream that was returned.
  · intro h member
    have phase := sound.said h member
    exact ⟨phase, sound.joined h.1 h.2 phase⟩

/-- A candidate that serves is dialed from another process and from its own. -/
theorem election_safety_served : ∃ s : Election,
    Transition.Reachable Election.step Election.initial s ∧ s.lock = some 7 ∧
      (s.dials 0).held = some 7 ∧ (s.dials 1).held = some 7 := by
  -- One process is elected and dials itself; another connects to it and is served.
  have ran : (Transition.run Election.step Election.initial
      [.spawn 7, .spawn 9, .embed 7, .lock 7, .elect 7, .unlink 7, .bind 7, .permit 7,
        .connect 0 9, .load 0, .ask 0, .hello 0, .connect 1 7, .load 1, .hello 1]).map
        (fun s => ((s.procs 7).flag, s.hellos)) = some (true, [(1, 7), (0, 7)]) := by
    decide +kernel
  obtain ⟨s, reached, facts⟩ := Option.map_eq_some_iff.mp ran
  obtain ⟨flag, hellos⟩ := Prod.mk.inj facts
  obtain ⟨elected, _, _, said⟩ := election_safety ⟨_, reached⟩
  exact ⟨s, ⟨_, reached⟩, elected 7 flag, (said (0, 7) (by simp [hellos])).2,
    (said (1, 7) (by simp [hellos])).2⟩

end Zapd
