import Zapd.Router.Routing

/-! Each frame causes at most one delivery or answer, and one that nobody takes is answered. -/

namespace Zapd

open Utf8

/-- The frame that caused a frame to be queued, by its sender and its place among those sent. -/
def Origin.cause : Origin → Option (ConnId × Nat)
  | .relayed c n | .answer c n | .listing c n _ _ => some (c, n)
  | .welcome _ | .presence .. => none

/-- A frame is in hand, not yet delivered or answered. -/
def Phase.pending : Phase → Bool
  | .forwarding _ | .unrouted _ | .listing _ | .listed .. | .unknown => true
  | _ => false

/-- How many of the frames read are done with. -/
def Conn.handled (conn : Conn) : Nat :=
  if conn.phase.pending then conn.received.length - 1 else conn.received.length

/-- Nothing is in hand before a frame was read. -/
theorem Conn.Coherent.read {host : String} {conn : Conn} (held : conn.Coherent host)
    (pending : conn.phase.pending = true) : 0 < conn.received.length := by
  have inHand := held.inHand
  rcases read : conn.received with _ | ⟨first, rest⟩
  · -- What is in hand is the last of the frames read.
    cases phase : conn.phase <;> simp_all [Phase.pending]
  · simp

/-- A frame queued on account of another is queued by its sender while that one is in hand. -/
theorem Emits.cause {s : Router} {b c : ConnId} {a : Action} {q : Queued} {n : Nat}
    (emits : Emits s b a q) (caused : q.origin.cause = some (c, n)) :
    a = .advance c ∧ (s.conns c).phase.pending = true ∧ n = (s.conns c).handled := by
  cases emits with
  | welcomed | announced => simp [Origin.cause] at caused
  | forwarded forwarding held =>
    obtain ⟨rfl, rfl⟩ := by simpa [Conn.stamped, Origin.cause] using caused
    simp [forwarding, Conn.handled, Phase.pending]
  | replied owed held =>
    unfold Conn.reply at owed
    split at owed
    -- Each of the three replies names the last frame read.
    all_goals
      cases owed
      try
        rename_i phased
        obtain ⟨rfl, rfl⟩ := by simpa [Origin.cause] using caused
        simp [phased, Conn.handled, Phase.pending]

/-- Once a frame is done with it stays so. -/
theorem Acts.handled_mono {s t : Router} {a : Action} {conn : Conn} (acts : Acts s a t conn) :
    (s.conns a.conn).handled ≤ conn.handled := by
  -- Never more frames are done with than were read.
  have less : (s.conns a.conn).handled ≤ (s.conns a.conn).received.length := by
    unfold Conn.handled
    split <;> omega
  cases acts with
  | @greeted c first waiting =>
    -- After the greeting nothing is in hand.
    have idle : (greet s.host (s.conns c) first).phase.pending = false := by
      rcases greet_phase s.host (s.conns c) first with
        ⟨_, _, phased, _⟩ | ⟨_, _, phased⟩ | ⟨_, phased⟩ <;>
      rw [phased] <;> rfl
    rw [Conn.handled.eq_def (greet _ _ _), idle, greet_received]
    exact less
  | @received c next relaying =>
    rcases next with e | _ | f
    · exact less
    · exact less
    · -- One more frame was read, and at most that one is in hand.
      refine Nat.le_trans less ?_
      simp only [Conn.handled, receive, List.length_append, List.length_cons, List.length_nil]
      split <;> simp
  | forwarded f forwarding =>
    unfold Conn.handled
    dsimp only
    split <;> split <;> simp_all [Phase.pending]
  | snapped filter entries listing snapshot => simp [Conn.handled, listing, Phase.pending]
  | broke spawned => exact Nat.le_refl _
  | _ => exact less

/-- Once a frame is done with it stays so, whoever takes the step. -/
theorem step_handled {s s' : Router} {a : Action} (enabled : s.step a = some s') (k : ConnId) :
    (s.conns k).handled ≤ (s'.conns k).handled := by
  rcases step_conns enabled k with ⟨rfl, t, acts⟩ | kept
  · exact acts.handled_mono
  · rw [kept]

/-- The frame in hand is done with once something is queued on account of it. -/
theorem WellFormed.handled_emits {s s' : Router} {a : Action} (wf : WellFormed s)
    (enabled : s.step a = some s') {b c : ConnId} {q : Queued} {n : Nat}
    (emits : Emits s b a q) (alive : (s.conns b).writer = true)
    (caused : q.origin.cause = some (c, n)) : n < (s'.conns c).handled := by
  obtain ⟨rfl, pending, rfl⟩ := emits.cause caused
  have read := (wf.coherent c).read pending
  have before : (s.conns c).handled = (s.conns c).received.length - 1 := by
    simp [Conn.handled, pending]
  -- Its connection goes back to reading, since what it sent was taken.
  have after : (s'.conns c).phase = .relaying ∧
      (s'.conns c).received = (s.conns c).received := by
    cases emits with
    | welcomed | announced => simp [Origin.cause] at caused
    | @forwarded _ f forwarding held =>
      have taken := (sendTo_ok s f.to_ ((s.conns c).stamped c f)).mpr ⟨b, held, alive⟩
      rw [step_forwarding enabled forwarding, taken]
      exact ⟨rfl, rfl⟩
    | replied owed held =>
      rw [step_replied enabled owed]
      exact ⟨rfl, rfl⟩
  rw [before, Conn.handled, after.1, after.2]
  simp only [Phase.pending, Bool.false_eq_true, if_false]
  omega

/-- Whatever was queued on account of a frame, that frame is done with. -/
theorem RouterReachable.handled {host : String} {door : ConnId → Bool} {s : Router}
    (reached : RouterReachable host door s) {b c : ConnId} {q : Queued} {n : Nat}
    (member : q ∈ s.queues b) (caused : q.origin.cause = some (c, n)) :
    n < (s.conns c).handled := by
  refine reached.induction (P := fun s => ∀ b, ∀ q ∈ s.queues b, ∀ c n,
    q.origin.cause = some (c, n) → n < (s.conns c).handled)
    (fun b q none => ?_) (fun s a s' reach past enabled b q member c n caused => ?_)
    b q member c n caused
  · simp [Router.initial] at none
  · rcases step_mem enabled member with old | ⟨alive, emits⟩
    · -- What was done with when it was queued is done with still.
      exact Nat.lt_of_lt_of_le (past b q old c n caused) (step_handled enabled c)
    · exact (RouterReachable.wellFormed reach).handled_emits enabled emits alive caused

/-- The router's own errors on a channel that answer one frame. -/
def answersTo (a : ConnId) (n : Nat) (queue : List Queued) : List Queued :=
  queue.filter (·.origin = .answer a n)

/-- A step answers no frame but the one its connection has in hand. -/
theorem answersTo_emitted {s : Router} {act : Action} {a b : ConnId} {n : Nat}
    (notInHand : act = .advance a → n ≠ (s.conns a).handled) :
    answersTo a n (emitted s act b) = [] := by
  refine List.filter_eq_nil_iff.mpr fun q member => ?_
  obtain ⟨_, emits⟩ := emits_of_mem member
  simp only [decide_eq_true_eq]
  intro answers
  obtain ⟨advance, _, last⟩ := emits.cause (by rw [answers]; rfl)
  -- An answer is to the frame in hand.
  exact notInHand advance last

/-- What becomes of a frame that no registered node was there to take. -/
structure Undelivered (s : Router) (a : ConnId) (n : Nat) (f : Frame) : Prop where
  claimed : ((s.conns a).id, a) ∈ s.claims
  nowhere : ∀ b, ∀ q ∈ s.queues b, q.origin ≠ .relayed a n
  answered :
    ((s.conns a).phase = .unrouted f.to_ ∧ (s.conns a).received.length = n + 1 ∧
      ∀ b, answersTo a n (s.queues b) = []) ∨
    (n < (s.conns a).handled ∧ (s.Live (s.conns a).id a →
      answersTo a n (s.queues a) =
        [⟨errorFrame (s.conns a).id ("no_route:" ++ f.to_), .answer a n⟩] ∧
      ∀ b, b ≠ a → answersTo a n (s.queues b) = []))

/-- A channel's answers to a frame are those it had and those the step emits. -/
theorem answersTo_step {s s' : Router} {act : Action} (enabled : s.step act = some s')
    (a b : ConnId) (n : Nat) : answersTo a n (s'.queues b) =
      answersTo a n (s.queues b) ++ answersTo a n (emitted s act b) := by
  rw [step_queues enabled, answersTo, List.filter_append]
  rfl

/-- Nobody is there to take the frame in hand: nothing is queued, and an error is owed. -/
theorem WellFormed.undelivered {s s' : Router} {a : ConnId} {f : Frame} (wf : WellFormed s)
    (past : ∀ b, ∀ q ∈ s.queues b, ∀ c n, q.origin.cause = some (c, n) → n < (s.conns c).handled)
    (forwarding : (s.conns a).phase = .forwarding f) (gone : holder s.peers f.to_ = none)
    (enabled : s.step (.advance a) = some s') :
    Undelivered s' a ((s.conns a).received.length - 1) f := by
  have claimed := wf.registered a (by simp [forwarding])
  have sameId := wf.step_id enabled claimed
  have read := (wf.coherent a).read (by simp [forwarding, Phase.pending])
  have handled : (s.conns a).handled = (s.conns a).received.length - 1 := by
    simp [Conn.handled, forwarding, Phase.pending]
  -- The send fails, and nothing was queued on account of this frame before.
  have failed : (sendTo s f.to_ ((s.conns a).stamped a f)).2 = false := by
    rw [Bool.eq_false_iff]
    intro taken
    obtain ⟨b, held, _⟩ := (sendTo_ok s f.to_ ((s.conns a).stamped a f)).mp taken
    simp [gone] at held
  have moved := step_forwarding enabled forwarding
  rw [failed] at moved
  -- Nobody holds the destination, so nothing is queued.
  have silent : ∀ b, s'.queues b = s.queues b := fun b => by
    rw [step_queues enabled]
    simp [emitted, forwarding, delivered, gone]
  have fresh : ∀ b, ∀ q ∈ s'.queues b,
      q.origin.cause ≠ some (a, (s.conns a).received.length - 1) := by
    intro b q member caused
    rw [silent] at member
    -- A frame that caused something was done with, and this one was not.
    have before := past b q member a _ caused
    omega
  refine ⟨sameId ▸ step_claims enabled claimed, fun b q member relayed => ?_, .inl ⟨?_, ?_, ?_⟩⟩
  · exact fresh b q member (by rw [relayed]; rfl)
  · rw [moved]
    rfl
  · rw [moved]
    dsimp only
    omega
  · refine fun b => List.filter_eq_nil_iff.mpr fun q member => ?_
    simp only [decide_eq_true_eq]
    exact fun answers => fresh b q member (by rw [answers]; rfl)

/-- A connection that owes its node an error stays so until its own next step. -/
theorem step_waits {s s' : Router} {act : Action} {a : ConnId} {dest : String}
    (enabled : s.step act = some s') (unrouted : (s.conns a).phase = .unrouted dest)
    (notOwn : act ≠ .advance a) : (s'.conns a).phase = (s.conns a).phase ∧
      (s'.conns a).received = (s.conns a).received := by
  rcases step_conns enabled a with ⟨rfl, t, acts⟩ | kept
  · generalize s'.conns act.conn = conn at acts ⊢
    -- Of the other steps, only the loss of its writer is the connection's own.
    cases acts with
    | broke spawned => exact ⟨rfl, rfl⟩
    | _ => simp_all
  · rw [kept]
    exact ⟨rfl, rfl⟩

/-- The step that owes an error queues it to its own node, if that one is still registered. -/
theorem WellFormed.answered_once {s s' : Router} {a : ConnId} {n : Nat} {dest : String}
    (wf : WellFormed s) (enabled : s.step (.advance a) = some s')
    (unrouted : (s.conns a).phase = .unrouted dest) (count : (s.conns a).received.length = n + 1)
    (none : ∀ b, answersTo a n (s.queues b) = [])
    (claimed : ((s.conns a).id, a) ∈ s.claims) :
    n < (s'.conns a).handled ∧ (s'.Live (s'.conns a).id a →
      answersTo a n (s'.queues a) =
        [⟨errorFrame (s'.conns a).id ("no_route:" ++ dest), .answer a n⟩] ∧
      ∀ b, b ≠ a → answersTo a n (s'.queues b) = []) := by
  have owed : (s.conns a).reply a =
      some ⟨errorFrame (s.conns a).id ("no_route:" ++ dest), .answer a n⟩ := by
    simp [Conn.reply, unrouted, count]
  have moved := step_replied enabled owed
  have emits : ∀ b, emitted s (.advance a) b = delivered s (s.conns a).id
      ⟨errorFrame (s.conns a).id ("no_route:" ++ dest), .answer a n⟩ b := fun b => by
    simp [emitted, unrouted, Conn.reply, count]
  refine ⟨by simp [moved, Conn.handled, Phase.pending, count], fun live => ?_⟩
  -- Whoever holds the id after the step held it when the error was sent.
  rw [wf.step_id enabled claimed] at live ⊢
  have before := wf.live_back enabled claimed live
  refine ⟨?_, fun b other => ?_⟩
  · rw [answersTo_step enabled, none, emits]
    simp [delivered, before.held, before.writer, answersTo]
  · rw [answersTo_step enabled, none, emits]
    simp [delivered, before.held, Ne.symm other, answersTo]

/-- The answer to an undeliverable frame is queued once, and only by its sender's next step. -/
theorem Undelivered.step {s s' : Router} {act : Action} {a : ConnId} {n : Nat} {f : Frame}
    (fate : Undelivered s a n f) (wf : WellFormed s) (enabled : s.step act = some s') :
    Undelivered s' a n f := by
  have sameId := wf.step_id enabled fate.claimed
  refine ⟨sameId ▸ step_claims enabled fate.claimed, fun b q member => ?_, ?_⟩
  · rcases step_mem enabled member with old | ⟨_, emits⟩
    · -- It was not relayed before.
      exact fate.nowhere b q old
    · intro relayed
      obtain ⟨g, advance, forwarding, _⟩ := emits.relayed relayed
      obtain ⟨_, _, last⟩ := emits.cause (by rw [relayed]; rfl)
      rcases fate.answered with ⟨unrouted, _⟩ | ⟨past, _⟩
      · simp [unrouted] at forwarding
      · omega
  · rcases fate.answered with ⟨unrouted, count, none⟩ | ⟨past, once⟩
    · -- The error is queued by the connection's own next step, and by no other.
      by_cases advance : act = .advance a
      · subst advance
        exact .inr (wf.answered_once enabled unrouted count none fate.claimed)
      · have silent : ∀ b, answersTo a n (emitted s act b) = [] := fun b =>
          answersTo_emitted fun same => absurd same advance
        obtain ⟨samePhase, sameReceived⟩ := step_waits enabled unrouted advance
        refine .inl ⟨by rw [samePhase, unrouted], by rw [sameReceived, count], fun b => ?_⟩
        rw [answersTo_step enabled, silent, none]
        rfl
    · refine .inr ⟨Nat.lt_of_lt_of_le past (step_handled enabled a), fun live => ?_⟩
      rw [sameId] at live ⊢
      -- It was answered before, and no frame is answered twice.
      obtain ⟨exactly, others⟩ := once (wf.live_back enabled fate.claimed live)
      have silent : ∀ b, answersTo a n (emitted s act b) = [] := fun b =>
        answersTo_emitted fun _ => Nat.ne_of_lt past
      refine ⟨by rw [answersTo_step enabled, silent, exactly]; rfl, fun b other => ?_⟩
      rw [answersTo_step enabled, silent, others b other]
      rfl

/-- Along any run, a frame nobody was there to take is queued to nobody and answered once. -/
theorem WellFormed.undelivered_run {s s' : Router} {actions : List Action} {a : ConnId} {n : Nat}
    {f : Frame} (wf : WellFormed s) (fate : Undelivered s a n f)
    (ran : Transition.run Router.step s actions = some s') : Undelivered s' a n f :=
  (Transition.run_invariant (P := fun s => WellFormed s ∧ Undelivered s a n f)
    (fun _ _ _ ⟨wf, fate⟩ enabled => ⟨wf.step enabled, fate.step wf enabled⟩) ⟨wf, fate⟩ ran).2

/-- A frame the router built comes from `zapd`. -/
theorem Origin.Accounts.source {s : Router} {origin : Origin} {frame : Frame}
    (accounts : origin.Accounts s frame) (built : ∀ a n, origin ≠ .relayed a n) :
    frame.from_ = "zapd" := by
  cases origin with
  -- Each of these is built with the router's name.
  | welcome c => exact congrArg Frame.from_ accounts
  | presence c subject connected => exact congrArg Frame.from_ accounts.1
  | relayed a n => exact absurd rfl (built a n)
  | answer c n =>
    obtain ⟨f, _, _, built⟩ := accounts
    exact congrArg Frame.from_ built
  | listing c n filter entries =>
    obtain ⟨f, _, _, _, _, _, built⟩ := accounts
    exact congrArg Frame.from_ built

/--
Routing over all interleavings.

A channel carries the router's own frames and those sent to its id, under their senders' ids.
-/
theorem routing_fidelity {host : String} {door : ConnId → Bool} {s : Router}
    (reached : RouterReachable host door s) :
    (∀ b, ∀ q ∈ s.queues b, q.frame.to_ = (s.conns b).id ∧
      ((q.frame.from_ = "zapd" ∧ ∀ a n, q.origin ≠ .relayed a n) ∨
        ∃ a n f, q.origin = .relayed a n ∧ (s.conns a).received[n]? = some f ∧ f.to_ ≠ "" ∧
          ((s.conns a).id, a) ∈ s.claims ∧ q.frame = { f with from_ := (s.conns a).id })) ∧
    (∀ id c, (id, c) ∈ s.claims → id ≠ "zapd") ∧
    (∀ b, (∀ id, (id, b) ∉ s.claims) → s.queues b = []) ∧
    (∀ a b id actions s', Transition.run Router.step s actions = some s' → (id, b) ∈ s.claims →
      s'.Live id b → ∃ decided, (s'.conns a).routed = (s.conns a).routed ++ decided ∧
        relayedFrom a (s'.queues b) = relayedFrom a (s.queues b) ++
          (decided.filter (·.to_ = id)).map fun f => { f with from_ := (s'.conns a).id }) ∧
    (∀ a f actions s', (s.conns a).phase = .forwarding f → holder s.peers f.to_ = none →
      Transition.run Router.step s (.advance a :: actions) = some s' →
      (s.conns a).received[(s.conns a).received.length - 1]? = some f ∧
      (∀ b, ∀ q ∈ s'.queues b, q.origin ≠ .relayed a ((s.conns a).received.length - 1)) ∧
      (s'.Live (s.conns a).id a →
        ((s'.conns a).phase = .unrouted f.to_ ∧
          ∀ b, answersTo a ((s.conns a).received.length - 1) (s'.queues b) = []) ∨
        (answersTo a ((s.conns a).received.length - 1) (s'.queues a) =
            [⟨errorFrame (s.conns a).id ("no_route:" ++ f.to_),
              .answer a ((s.conns a).received.length - 1)⟩] ∧
          ∀ b, b ≠ a → answersTo a ((s.conns a).received.length - 1) (s'.queues b) = []))) := by
  have wf := reached.wellFormed
  refine ⟨fun b q member => ?_, fun id c claim => ?_, fun b unclaimed => ?_,
    fun a b id actions s' ran claimed live => (wf.relays_run ran claimed live).2,
    fun a f actions s' forwarding gone ran => ?_⟩
  · have traced := reached.traced member
    refine ⟨traced.addressed, ?_⟩
    cases origin : q.origin with
    | relayed a n =>
      obtain ⟨f, read, addressed, claimed, built⟩ : Origin.Accounts s (.relayed a n) q.frame :=
        origin ▸ traced.accounted
      exact .inr ⟨a, n, f, rfl, read, addressed, claimed, built⟩
    | _ =>
      refine .inl ⟨traced.accounted.source ?_, ?_⟩ <;> simp [origin]
  · obtain ⟨proposed, stamped⟩ := wf.genuine id c claim
    exact stamp_ne_zapd stamped
  · exact List.eq_nil_iff_forall_not_mem.mpr fun q member =>
      unclaimed _ (reached.traced member).claimed
  · -- The failed lookup settles the fate of the frame, and the rest of the run keeps it.
    obtain ⟨next, enabled, tail⟩ := Transition.run_cons_eq_some.mp ran
    have past : ∀ b, ∀ q ∈ s.queues b, ∀ c n, q.origin.cause = some (c, n) →
        n < (s.conns c).handled := fun b q member c n => reached.handled member
    have owed := wf.undelivered past forwarding gone enabled
    have fate := (wf.step enabled).undelivered_run owed tail
    obtain ⟨last, _⟩ := by simpa [forwarding] using (wf.coherent a).inHand
    have sameId := wf.run_id ran (k := a)
      (wf.registered a (by simp [forwarding]))
    refine ⟨last, fate.nowhere, fun live => ?_⟩
    rw [← sameId] at live ⊢
    rcases fate.answered with ⟨owed, _, silent⟩ | ⟨_, once⟩
    · exact .inl ⟨owed, silent⟩
    · exact .inr (once live)

/-- A frame to an id nobody has: its sender is told, once. -/
theorem routing_fidelity_unknown : ∃ s s', RouterReachable "dgx" (fun _ => false) s ∧
    Transition.run Router.step s [.advance 0, .advance 0] = some s' ∧
    answersTo 0 0 (s'.queues 0) =
      [⟨errorFrame "agent/dgx/a" "no_route:agent/dgx/b", .answer 0 0⟩] := by
  have reached : RouterReachable "dgx" (fun _ => false) _ :=
    ⟨joins 0 "agent/a" ++ [.read 0 (.ok (some (Frame.new ROUTE "" "agent/dgx/b" [])))], rfl⟩
  refine ⟨_, _, reached, rfl, ?_⟩
  -- The frame in hand is addressed to nobody, so its sender is told.
  have settled := (routing_fidelity reached).2.2.2.2 0 (Frame.new ROUTE "" "agent/dgx/b" [])
    [.advance 0] _ rfl (by decide) rfl
  have once := (settled.2.2 ⟨by decide, by decide⟩).resolve_left fun pending => by
    cases pending.1
  exact once.1

end Zapd
