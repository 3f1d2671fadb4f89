import Zapd.Router.Answers

/-! A replaced connection that is told to leave causes nothing more, if it heeds the signal. -/

namespace Zapd

open Utf8

/-- The connection whose evict signal is fired next. -/
def Phase.replaces : Phase → Option ConnId
  | .inserted (some p) => some p.conn
  | _ => none

/-- A connection has no frame in hand when its evict signal is fired, and from then on takes the
evict branch over a frame it could read. -/
def HeedsEviction (s : Router) : Action → Prop
  | .read c (.ok (some _)) => s.evictedAt c = none
  | .advance c => ∀ k ∈ (s.conns c).phase.replaces, (s.conns k).phase.pending = false
  | _ => True

instance (s : Router) (a : Action) : Decidable (HeedsEviction s a) :=
  match a with
  | .read c (.ok (some _)) => inferInstanceAs (Decidable (s.evictedAt c = none))
  | .advance c => inferInstanceAs
      (Decidable (∀ k ∈ (s.conns c).phase.replaces, (s.conns k).phase.pending = false))
  | .read _ (.ok none) | .read _ (.error _) | .refuse .. | .snapshot .. | .evicted _
  | .writerFails _ => .isTrue trivial

/-- The frames on a channel that one connection's frames caused. -/
def causedBy (c : ConnId) (queue : List Queued) : List Queued :=
  queue.filter fun q => q.origin.cause.map Prod.fst = some c

/-- A step leaves a connection's signal alone, or it is the step that fires it, at what the
connection has read by then. -/
theorem step_evictedAt {s s' : Router} {a : Action} (enabled : s.step a = some s') (k : ConnId) :
    s'.evictedAt k = s.evictedAt k ∨
      s'.evictedAt k = some (s'.conns k).received.length ∧
        ∃ c, a = .advance c ∧ (s.conns c).phase.replaces = some k ∧
          (s'.conns c).phase = .welcoming := by
  obtain ⟨t, conn, acts, rfl⟩ := step_acts enabled
  cases acts with
  | @fired c old inserted =>
    rcases old with _ | p
    · -- Nobody was replaced.
      exact .inl rfl
    · -- Only the signal of the replaced connection is fired.
      by_cases self : k = p.conn
      · subst self
        refine .inr ⟨?_, c, rfl, by rw [inserted]; rfl, by simp⟩
        by_cases own : p.conn = c
        · simp [fireEvict, own]
        · simp [fireEvict, Function.update_of_ne own]
      · exact .inl (by simp [fireEvict, Function.update_of_ne self])
  | welcomed welcoming => exact .inl (by simp [push_eq])
  | forwarded f forwarding => exact .inl (by simp [sendTo_eq])
  | replied q owed => exact .inl (by simp [sendTo_eq])
  | _ => exact .inl rfl

/-- A step that heeds the signal reads nothing on a connection it was fired for. -/
theorem step_heeds {s s' : Router} {a : Action} {c : ConnId} (enabled : s.step a = some s')
    (heeds : HeedsEviction s a) (told : (s.evictedAt c).isSome) :
    (s'.conns c).received = (s.conns c).received := by
  rcases step_conns enabled c with ⟨rfl, t, acts⟩ | kept
  · rcases acts.received_eq with same | ⟨f, read, _⟩
    · exact same
    · -- A read of a frame would not have heeded the signal.
      rw [read] at heeds
      simp only [HeedsEviction] at heeds
      simp [heeds] at told
  · rw [kept]

/-- A fired signal stays fired. -/
theorem step_told {s s' : Router} {a : Action} {c : ConnId} (enabled : s.step a = some s')
    (told : (s.evictedAt c).isSome) : (s'.evictedAt c).isSome := by
  rcases step_evictedAt enabled c with same | ⟨fired, _⟩
  · rwa [same]
  · simp [fired]

/-- If signals are heeded, a connection has read no frame since its signal was fired. -/
theorem received_evicted {host : String} {door : ConnId → Bool} {s : Router}
    (reached : Transition.GuardedReachable HeedsEviction Router.step (Router.initial host door) s)
    {c : ConnId} {m : Nat} (told : s.evictedAt c = some m) : (s.conns c).received.length = m := by
  refine reached.induction (P := fun s => ∀ c m, s.evictedAt c = some m →
    (s.conns c).received.length = m) (fun c m told => ?_)
    (fun s a s' reach heeds silent enabled c m told => ?_) c m told
  · simp [Router.initial] at told
  · rcases step_evictedAt enabled c with same | ⟨fired, _⟩
    · -- The signal was fired before, so nothing was read since.
      rw [step_heeds enabled heeds (by simp [← same, told])]
      exact silent c m (same ▸ told)
    · -- It is fired now, at what was read by now.
      simpa [fired] using told

/-- What a step queues on account of a connection comes from the frame it has in hand. -/
theorem causedBy_step {s s' : Router} {a : Action} (enabled : s.step a = some s') (c b : ConnId) :
    ∃ added, causedBy c (s'.queues b) = causedBy c (s.queues b) ++ added ∧
      ∀ q ∈ added, (s.conns c).phase.pending = true ∧
        q.origin.cause = some (c, (s.conns c).handled) := by
  refine ⟨causedBy c (emitted s a b), ?_, fun q member => ?_⟩
  · rw [step_queues enabled, causedBy, List.filter_append]
    rfl
  -- What was added is what the step emits on account of the connection.
  obtain ⟨sent, caused⟩ := List.mem_filter.mp member
  simp only [decide_eq_true_eq, Option.map_eq_some_iff] at caused
  obtain ⟨⟨k, n⟩, cause, rfl⟩ := caused
  obtain ⟨_, pending, rfl⟩ := (emits_of_mem sent).2.cause cause
  exact ⟨pending, cause⟩

/-- A frame in hand after a step that read nothing was in hand before it. -/
theorem WellFormed.pending_back {s s' : Router} {a : Action} (wf : WellFormed s)
    (enabled : s.step a = some s') {c : ConnId}
    (silent : (s'.conns c).received = (s.conns c).received)
    (pending : (s'.conns c).phase.pending = true) :
    (s.conns c).phase.pending = true ∧ (s'.conns c).handled = (s.conns c).handled := by
  -- Were nothing in hand before, more frames would be done with than after.
  have read := ((wf.step enabled).coherent c).read pending
  have mono := step_handled enabled c
  unfold Conn.handled at mono ⊢
  rw [if_pos pending] at mono ⊢
  rw [silent] at mono read ⊢
  split at mono
  · rename_i before
    simp [before]
  · omega

/-- Where signals are heeded, a connection told to leave has no frame in hand. -/
theorem WellFormed.idle_step {s s' : Router} {a : Action} (wf : WellFormed s)
    (heeds : HeedsEviction s a) (enabled : s.step a = some s')
    (idle : ∀ c, (s.evictedAt c).isSome → (s.conns c).phase.pending = false) (c : ConnId)
    (told : (s'.evictedAt c).isSome) : (s'.conns c).phase.pending = false := by
  rcases step_evictedAt enabled c with same | ⟨_, k, rfl, replaces, welcoming⟩
  · -- Who was told before reads nothing, so nothing has come into its hand.
    rw [same] at told
    by_contra pending
    rw [Bool.not_eq_false] at pending
    have before := (wf.pending_back enabled (step_heeds enabled heeds told) pending).1
    rw [idle c told] at before
    cases before
  · -- Who is told now has nothing in hand by the condition.
    have empty : (s.conns c).phase.pending = false := heeds c replaces
    by_cases self : c = k
    · rw [self, welcoming]
      rfl
    · rw [step_other enabled self]
      exact empty

/-- Where signals are heeded all along, whoever was told to leave has no frame in hand. -/
theorem idle_evicted {host : String} {door : ConnId → Bool} {s : Router}
    (reached : Transition.GuardedReachable HeedsEviction Router.step (Router.initial host door) s)
    (c : ConnId) (told : (s.evictedAt c).isSome) : (s.conns c).phase.pending = false := by
  refine reached.induction (P := fun s => ∀ c, (s.evictedAt c).isSome →
    (s.conns c).phase.pending = false) (fun c told => ?_)
    (fun s a s' reach heeds idle enabled c told => ?_) c told
  · simp [Router.initial] at told
  · have reachable : RouterReachable host door s := reach
    have wf := reachable.wellFormed
    exact wf.idle_step heeds enabled idle c told

/-- Along a run that heeds signals, a connection told to leave causes nothing more. -/
theorem WellFormed.causedBy_run {s s' : Router} {actions : List Action} (wf : WellFormed s)
    (idle : ∀ c, (s.evictedAt c).isSome → (s.conns c).phase.pending = false)
    (heeds : Transition.Guarded HeedsEviction Router.step s actions)
    (ran : Transition.run Router.step s actions = some s') {c : ConnId}
    (told : (s.evictedAt c).isSome) (b : ConnId) :
    causedBy c (s'.queues b) = causedBy c (s.queues b) := by
  -- By induction on the run: whoever is told stays told, with nothing in hand.
  induction actions generalizing s with
  | nil =>
    cases ran
    rfl
  | cons a rest ih =>
    obtain ⟨next, enabled, tail⟩ := Transition.run_cons_eq_some.mp ran
    obtain ⟨first, later⟩ := (Transition.guarded_cons enabled).mp heeds
    have rest := ih (wf.step enabled) (wf.idle_step first enabled idle) later tail
      (step_told enabled told)
    obtain ⟨added, queued, inHand⟩ := causedBy_step enabled c b
    have nothing : added = [] := by
      refine List.eq_nil_iff_forall_not_mem.mpr fun q member => ?_
      have pending := (inHand q member).1
      rw [idle c told] at pending
      cases pending
    rw [rest, queued, nothing, List.append_nil]

/-- Nothing queued anywhere stems from a frame read after its connection was told to leave. -/
def Router.Silenced (s : Router) : Prop :=
  ∀ c m, s.evictedAt c = some m →
    ∀ b, ∀ q ∈ s.queues b, ∀ n, q.origin.cause = some (c, n) → n < m

/--
Where every connection is told to leave with nothing in hand, and takes the evict branch, two never
speak as one node.

Nothing that it sends or has sent has an effect on any channel once its signal was fired.
-/
theorem evicted_silenced {host : String} {door : ConnId → Bool} {s : Router}
    (reached : Transition.GuardedReachable HeedsEviction Router.step
      (Router.initial host door) s) :
    s.Silenced ∧
    ∀ c, (s.evictedAt c).isSome → (s.conns c).phase.pending = false ∧
      ∀ actions s', Transition.Guarded HeedsEviction Router.step s actions →
        Transition.run Router.step s actions = some s' →
        ∀ b, causedBy c (s'.queues b) = causedBy c (s.queues b) := by
  have reach : RouterReachable host door s := reached.reachable
  have idle := idle_evicted reached
  refine ⟨fun c m told b q member n cause => ?_, fun c told => ⟨idle c told,
    fun actions s' heeds ran b => reach.wellFormed.causedBy_run idle heeds ran told b⟩⟩
  -- Only frames done with cause anything, and none were read since the signal.
  have done := reach.handled member cause
  have count := received_evicted reached told
  unfold Conn.handled at done
  -- Neither count is past the frames read by the signal.
  split at done <;> omega

/-- A connection that is told to leave and does: what it sent before is all that is on a channel. -/
theorem evicted_silenced_leaves : ∃ s s', Transition.run Router.step
      (Router.initial "dgx" fun _ => false)
      (joins 0 "agent/a" ++ joins 1 "dev/b" ++
        [.read 0 (.ok (some (Frame.new ROUTE "" "dev/dgx/b" [7]))), .advance 0] ++
        joins 2 "agent/a") = some s ∧
    s.evictedAt 0 = some 1 ∧ Transition.run Router.step s [.evicted 0, .advance 0] = some s' ∧
    s'.Silenced ∧ ∀ b, causedBy 0 (s'.queues b) = causedBy 0 (s.queues b) := by
  have heeds : Transition.Guarded HeedsEviction Router.step (Router.initial "dgx" fun _ => false)
      (joins 0 "agent/a" ++ joins 1 "dev/b" ++
        [.read 0 (.ok (some (Frame.new ROUTE "" "dev/dgx/b" [7]))), .advance 0] ++
        joins 2 "agent/a" ++ [.evicted 0, .advance 0]) := by decide
  have first : Transition.Guarded HeedsEviction Router.step (Router.initial "dgx" fun _ => false)
      (joins 0 "agent/a" ++ joins 1 "dev/b" ++
        [.read 0 (.ok (some (Frame.new ROUTE "" "dev/dgx/b" [7]))), .advance 0] ++
        joins 2 "agent/a") := by decide
  refine ⟨_, _, rfl, by decide, rfl, (evicted_silenced ⟨_, heeds, rfl⟩).1, ?_⟩
  exact ((evicted_silenced ⟨_, first, rfl⟩).2 0 (by decide)).2 [.evicted 0, .advance 0] _
    (by decide) rfl

/--
A connection told to leave reads on instead: its frames are forwarded under the id it lost, and
its answers go to the newer connection of that id.
-/
theorem evicted_speaks : ∃ s s', RouterReachable "dgx" (fun _ => false) s ∧
    holder s.peers "agent/dgx/a" = some 2 ∧ s.evictedAt 0 = some 0 ∧
    Transition.run Router.step s
      [.read 0 (.ok (some (Frame.new ROUTE "" "dev/dgx/b" [7]))), .advance 0,
        .read 0 (.ok (some (Frame.new EVENT "" "" []))), .advance 0] = some s' ∧
    ⟨Frame.new ROUTE "agent/dgx/a" "dev/dgx/b" [7], .relayed 0 0⟩ ∈ s'.queues 1 ∧
    ⟨errorFrame "agent/dgx/a" "unknown_control", .answer 0 1⟩ ∈ s'.queues 2 ∧
    ¬ s'.Silenced := by
  have reached : RouterReachable "dgx" (fun _ => false) _ :=
    ⟨joins 0 "agent/a" ++ joins 1 "dev/b" ++ joins 2 "agent/a", rfl⟩
  refine ⟨_, _, reached, by decide, by decide, rfl, by decide, by decide, fun silenced => ?_⟩
  exact absurd (silenced 0 0 (by decide) 1
    ⟨Frame.new ROUTE "agent/dgx/a" "dev/dgx/b" [7], .relayed 0 0⟩ (by decide) 0 rfl) (by decide)

end Zapd
