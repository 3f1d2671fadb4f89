import Zapd.Router.Progress

/-! Every queued frame is the router's own or one a node sent, under the id of that node. -/

namespace Zapd

open Utf8

/-- What the router answers a frame with that it does not deliver. -/
def answerText (f : Frame) : String :=
  if f.to_ = "" then "unknown_control" else "no_route:" ++ f.to_

/-- What a frame queued for a reason looks like, and the frame it goes back to. -/
def Origin.Accounts (s : Router) : Origin → Frame → Prop
  | .welcome _, frame => frame = Frame.new WELCOME "zapd" frame.to_ []
  | .presence c subject connected, frame =>
    frame = Frame.new (presenceType connected) "zapd" frame.to_ (encodePeer subject) ∧
      subject ≠ frame.to_ ∧ (subject, c) ∈ s.claims
  | .relayed a n, frame => ∃ f, (s.conns a).received[n]? = some f ∧ f.to_ ≠ "" ∧
      ((s.conns a).id, a) ∈ s.claims ∧ frame = { f with from_ := (s.conns a).id }
  | .answer a n, frame => ∃ f, (s.conns a).received[n]? = some f ∧ (frame.to_, a) ∈ s.claims ∧
      frame = errorFrame frame.to_ (answerText f)
  | .listing a n filter entries, frame => ∃ f, (s.conns a).received[n]? = some f ∧
      f.to_ = "" ∧ f.typ = PROVIDERS_LIST ∧ filter = decodeBrandFilter f.payload ∧
      (frame.to_, a) ∈ s.claims ∧
      frame = Frame.new PROVIDERS "zapd" frame.to_ (encodeProviders entries)

/-- A queued frame is addressed to the id of its channel's connection, and accounted for. -/
structure Traced (s : Router) (b : ConnId) (q : Queued) : Prop where
  claimed : ((s.conns b).id, b) ∈ s.claims
  addressed : q.frame.to_ = (s.conns b).id
  accounted : q.origin.Accounts s q.frame

/-- A frame read stays where it is among the frames read. -/
theorem step_received_get {s s' : Router} {a : Action} (enabled : s.step a = some s') {k : ConnId}
    {n : Nat} {f : Frame} (read : (s.conns k).received[n]? = some f) :
    (s'.conns k).received[n]? = some f := by
  obtain ⟨more, grown⟩ := step_received enabled k
  -- Frames are appended behind it.
  rw [← grown, List.getElem?_append_left (List.getElem?_eq_some_iff.mp read).1]
  exact read

/-- Claims are never withdrawn in a step. -/
theorem step_claims {s s' : Router} {a : Action} (enabled : s.step a = some s') :
    s.claims ⊆ s'.claims :=
  run_claims_subset (Transition.run_single enabled)

/-- What accounts for a frame goes on accounting for it. -/
theorem Origin.Accounts.step {s s' : Router} {a : Action} {origin : Origin} {frame : Frame}
    (accounts : origin.Accounts s frame) (wf : WellFormed s) (enabled : s.step a = some s') :
    origin.Accounts s' frame := by
  have claims := step_claims enabled
  cases origin with
  | welcome c => exact accounts
  | presence c subject connected =>
    obtain ⟨built, other, claimed⟩ := accounts
    exact ⟨built, other, claims claimed⟩
  | relayed c n =>
    obtain ⟨f, read, addressed, claimed, built⟩ := accounts
    -- The sender's id is settled by its claim.
    have same := wf.step_id enabled claimed
    exact ⟨f, step_received_get enabled read, addressed, same ▸ claims claimed, same ▸ built⟩
  | answer c n =>
    obtain ⟨f, read, claimed, built⟩ := accounts
    exact ⟨f, step_received_get enabled read, claims claimed, built⟩
  | listing c n filter entries =>
    obtain ⟨f, read, toRouter, asked, filtered, claimed, built⟩ := accounts
    exact ⟨f, step_received_get enabled read, toRouter, asked, filtered, claims claimed, built⟩

/-- What a step emits is addressed and accounted for. -/
theorem Emits.traced {s : Router} {b : ConnId} {a : Action} {q : Queued} (wf : WellFormed s)
    (emits : Emits s b a q) : Traced s b q := by
  cases emits with
  | welcomed welcoming =>
    exact ⟨wf.registered b (by simp [welcoming]), rfl, rfl⟩
  | @announced c pid connected phased held other =>
    obtain ⟨rfl, holding⟩ := wf.holder_id held
    -- The subject is about to announce itself, so it has entered.
    refine ⟨wf.holder_claimed held, rfl, rfl, Ne.symm other, wf.registered c ?_⟩
    cases phase : (s.conns c).phase <;> simp_all
  | @forwarded c f forwarding held =>
    obtain ⟨named, holding⟩ := wf.holder_id held
    -- The frame in hand is the last one read.
    obtain ⟨last, addressed⟩ := by simpa [forwarding] using (wf.coherent c).inHand
    exact ⟨wf.holder_claimed held, named.symm, f, last, addressed,
      wf.registered c (by simp [forwarding]), rfl⟩
  | @replied c q owed held =>
    -- Each of the three replies names the frame in hand.
    obtain ⟨named, _⟩ := wf.holder_id held
    have claimed := wf.registered c (Phase.entered_of_holding (Conn.holding_of_reply owed))
    have inHand := (wf.coherent c).inHand
    unfold Conn.reply at owed
    split at owed
    · -- The error about a missing route.
      rename_i dest unrouted
      obtain ⟨f, last, rfl, addressed⟩ := by simpa [unrouted] using inHand
      cases owed
      exact ⟨wf.holder_claimed held, named.symm, f, last, claimed,
        by simp [answerText, addressed, errorFrame, Frame.new]⟩
    · -- The list that was asked for.
      rename_i filter entries listed
      obtain ⟨f, last, toRouter, asked, filtered⟩ := by
        simpa [listed] using inHand
      cases owed
      exact ⟨wf.holder_claimed held, named.symm, f, last, toRouter, asked, filtered, claimed, rfl⟩
    · -- The error about an unknown control frame.
      rename_i unknown
      obtain ⟨f, last, toRouter⟩ := by simpa [unknown] using inHand
      cases owed
      exact ⟨wf.holder_claimed held, named.symm, f, last, claimed,
        by simp [answerText, toRouter, errorFrame, Frame.new]⟩
    · cases owed

/-- A queued frame stays traced. -/
theorem Traced.step {s s' : Router} {a : Action} {b : ConnId} {q : Queued} (traced : Traced s b q)
    (wf : WellFormed s) (enabled : s.step a = some s') : Traced s' b q := by
  -- The receiver keeps the id its channel is addressed by.
  have same := wf.step_id enabled traced.claimed
  exact ⟨same ▸ step_claims enabled traced.claimed, same ▸ traced.addressed,
    traced.accounted.step wf enabled⟩

/-- Every frame on every channel is traced, in every reachable state. -/
theorem RouterReachable.traced {host : String} {door : ConnId → Bool} {s : Router}
    (reached : RouterReachable host door s) {b : ConnId} {q : Queued} (member : q ∈ s.queues b) :
    Traced s b q := by
  -- A frame on a channel after a step was there before it, or was emitted by it.
  refine reached.induction (P := fun s => ∀ b, ∀ q ∈ s.queues b, Traced s b q)
    (fun b q none => ?_) (fun s a s' reach traced enabled b q member => ?_) b q member
  · simp [Router.initial] at none
  · have wf := RouterReachable.wellFormed reach
    rcases step_mem enabled member with old | ⟨_, emits⟩
    · exact (traced b q old).step wf enabled
    · exact (emits.traced wf).step wf enabled

/-- The frames read whose routing is decided: all but one still in hand for its destination. -/
def Conn.routed (conn : Conn) : List Frame :=
  match conn.phase with
  | .forwarding _ => conn.received.dropLast
  | _ => conn.received

/-- The frames of one connection on a channel, in order. -/
def relayedFrom (a : ConnId) (queue : List Queued) : List Frame :=
  queue.filterMap fun q =>
    match q.origin with
    | .relayed c _ => if c = a then some q.frame else none
    | _ => none

/-- A frame in hand is the last one read. -/
theorem dropLast_inHand {received : List Frame} {f : Frame}
    (last : received[received.length - 1]? = some f) : received = received.dropLast ++ [f] := by
  rw [← List.getLast?_eq_getElem?] at last
  exact (List.dropLast_append_getLast? f last).symm

/-- A step decides the frame in hand, or reads one for the router, or decides nothing. -/
theorem Acts.routed {s t : Router} {a : Action} {conn : Conn} (acts : Acts s a t conn) :
    (∃ f, a = .advance a.conn ∧ (s.conns a.conn).phase = .forwarding f ∧
      conn.routed = (s.conns a.conn).received) ∨
    ((∀ f, a = .advance a.conn → (s.conns a.conn).phase ≠ .forwarding f) ∧
      (conn.routed = (s.conns a.conn).routed ∨
        ∃ f, f.to_ = "" ∧ conn.routed = (s.conns a.conn).routed ++ [f])) := by
  cases acts with
  | forwarded f forwarding =>
    refine .inl ⟨f, rfl, forwarding, ?_⟩
    -- Whether or not it was taken, the frame is no longer in hand.
    unfold Conn.routed
    dsimp only
    split <;> rename_i phased <;> split at phased <;> first | rfl | cases phased
  | @greeted c first waiting =>
    refine .inr ⟨fun f same => (by cases same), .inl ?_⟩
    rcases greet_phase s.host (s.conns c) first with
      ⟨_, _, phased, _⟩ | ⟨_, _, phased⟩ | ⟨_, phased⟩ <;>
    simp [Conn.routed, phased, waiting]
  | @received c next relaying =>
    refine .inr ⟨fun f same => (by cases same), ?_⟩
    rcases next with e | _ | f
    · exact .inl (by simp [Conn.routed, receive, relaying])
    · exact .inl (by simp [Conn.routed, receive, relaying])
    · by_cases toRouter : f.to_ = ""
      · -- A frame for the router is decided as soon as it is read.
        refine .inr ⟨f, toRouter, ?_⟩
        simp only [Conn.routed, receive, dispatch, toRouter, if_true, conn_read, relaying]
        split <;> rename_i phased <;> repeat' split at phased
        all_goals first | rfl | cases phased
      · -- A frame for a node is in hand, so it is not decided yet.
        exact .inl (by simp [Conn.routed, receive, dispatch, toRouter, relaying])
  | broke spawned => exact .inr ⟨fun f same => (by cases same), .inl rfl⟩
  | @replied c q owed =>
    refine .inr ⟨fun f _ (forwarding : (s.conns c).phase = .forwarding f) => ?_, .inl ?_⟩
    · simp [Conn.reply, forwarding] at owed
    · unfold Conn.routed Conn.reply at *
      split at owed <;> simp_all
  | _ => exact .inr ⟨by simp_all, .inl (by simp_all [Conn.routed, refusal])⟩

/-- A frame is relayed only by the connection that has it in hand. -/
theorem Emits.relayed {s : Router} {a : Action} {b c : ConnId} {q : Queued} {n : Nat}
    (emits : Emits s b a q) (relayed : q.origin = .relayed c n) :
    ∃ f, a = .advance c ∧ (s.conns c).phase = .forwarding f ∧ holder s.peers f.to_ = some b ∧
      q = (s.conns c).stamped c f := by
  cases emits with
  | @forwarded k f forwarding held =>
    obtain ⟨rfl, _⟩ := by simpa [Conn.stamped] using relayed
    exact ⟨f, rfl, forwarding, held, rfl⟩
  -- What the router builds is not relayed.
  | welcomed | announced => cases relayed
  | replied owed held =>
    unfold Conn.reply at owed
    split at owed <;> cases owed <;> cases relayed

/-- A step relays nothing of a connection that does not decide the frame in hand. -/
theorem relayedFrom_emitted {s : Router} {a : Action} {k b : ConnId}
    (notForwarding : ∀ f, a = .advance k → (s.conns k).phase ≠ .forwarding f) :
    relayedFrom k (emitted s a b) = [] := by
  refine List.filterMap_eq_nil_iff.mpr fun q member => ?_
  obtain ⟨_, emits⟩ := emits_of_mem member
  split
  · rename_i c n relayed
    obtain ⟨f, advance, forwarding, _⟩ := emits.relayed relayed
    -- What is relayed in this step is another connection's.
    by_cases self : c = k
    · subst self
      exact absurd forwarding (notForwarding f advance)
    · simp [self]
  · rfl

/-- What a step decides for one sender is what it relays, as long as the receiver stays. -/
theorem WellFormed.relays_step {s s' : Router} {a : Action} (wf : WellFormed s)
    (enabled : s.step a = some s') {id : String} {k b : ConnId} (live : s.Live id b) :
    ∃ decided, (s'.conns k).routed = (s.conns k).routed ++ decided ∧
      relayedFrom k (s'.queues b) = relayedFrom k (s.queues b) ++
        (decided.filter (·.to_ = id)).map (fun f => { f with from_ := (s'.conns k).id }) ∧
      (decided.filter (·.to_ = id) = [] ∨ ((s'.conns k).id, k) ∈ s'.claims) := by
  have appended : relayedFrom k (s'.queues b) =
      relayedFrom k (s.queues b) ++ relayedFrom k (emitted s a b) := by
    simp [step_queues enabled, relayedFrom]
  rw [appended]
  -- A registered id is not empty, so no frame for the router counts.
  have notEmpty : id ≠ "" := by
    obtain ⟨rfl, holding⟩ := wf.holder_id live.held
    have named := Phase.named_of_drawn (Phase.drawn_of_entered (Phase.entered_of_holding holding))
    obtain ⟨proposed, stamped⟩ := (wf.coherent b).named named
    exact stamp_ne_empty stamped
  by_cases self : k = a.conn
  · subst self
    obtain ⟨t, acts⟩ := step_moves enabled
    rcases acts.routed with ⟨f, advance, forwarding, all⟩ | ⟨notForwarding, kept⟩
    · -- The frame in hand is delivered here exactly when it is addressed here.
      obtain ⟨last, _⟩ := by
        simpa [forwarding] using (wf.coherent a.conn).inHand
      have claimed := wf.registered a.conn (by simp [forwarding])
      have same := wf.step_id enabled claimed
      refine ⟨[f], ?_, ?_, .inr (same ▸ step_claims enabled claimed)⟩
      · rw [all, Conn.routed, forwarding]
        exact dropLast_inHand last
      · have emits : emitted s a b = delivered s f.to_ ((s.conns a.conn).stamped a.conn f) b := by
          rw [advance]
          simp [emitted, forwarding]
        rw [emits]
        by_cases addressed : f.to_ = id
        · simp [delivered, addressed, live.held, live.writer, relayedFrom, Conn.stamped, same]
        · -- Nobody is registered under two ids, so the frame goes elsewhere.
          have elsewhere : holder s.peers f.to_ ≠ some b := fun held =>
            addressed ((wf.holder_id held).1.symm.trans (wf.holder_id live.held).1)
          simp [delivered, elsewhere, addressed, relayedFrom]
    · rw [relayedFrom_emitted notForwarding]
      rcases kept with same | ⟨f, toRouter, more⟩
      · -- Nothing was decided.
        exact ⟨[], by simp [same], by simp, .inl rfl⟩
      · have elsewhere : [f].filter (·.to_ = id) = [] := by simp [toRouter, notEmpty.symm]
        exact ⟨[f], more, by simp [elsewhere], .inl elsewhere⟩
  · refine ⟨[], by simp [step_other enabled self], ?_, .inl rfl⟩
    rw [relayedFrom_emitted fun f advance => absurd (by rw [advance]; rfl) self]
    simp

/-- Along a run, a receiver gets a sender's frames addressed to it, in order, each once. -/
theorem WellFormed.relays_run {s s' : Router} {actions : List Action} (wf : WellFormed s)
    (ran : Transition.run Router.step s actions = some s') {id : String} {k b : ConnId}
    (claimed : (id, b) ∈ s.claims) (live : s'.Live id b) :
    s.Live id b ∧ ∃ decided, (s'.conns k).routed = (s.conns k).routed ++ decided ∧
      relayedFrom k (s'.queues b) = relayedFrom k (s.queues b) ++
        (decided.filter (·.to_ = id)).map fun f => { f with from_ := (s'.conns k).id } := by
  induction actions generalizing s with
  -- Nothing is decided by no step.
  | nil =>
    cases ran
    exact ⟨live, [], by simp, by simp⟩
  | cons a rest ih =>
    obtain ⟨next, enabled, tail⟩ := Transition.run_cons_eq_some.mp ran
    obtain ⟨liveNext, later, routedLater, relayedLater⟩ :=
      ih (wf.step enabled) tail (step_claims enabled claimed)
    -- The receiver is live throughout, because it is live at the end.
    have liveNow := wf.live_back enabled claimed liveNext
    obtain ⟨first, routedFirst, relayedFirst, settled⟩ := wf.relays_step enabled (k := k) liveNow
    refine ⟨liveNow, first ++ later, ?_, ?_⟩
    · rw [routedLater, routedFirst, List.append_assoc]
    · rw [relayedLater, relayedFirst]
      -- The sender's id is settled by the time it relays anything.
      have settledId : (first.filter (·.to_ = id)).map
            (fun f => { f with from_ := (next.conns k).id }) =
          (first.filter (·.to_ = id)).map fun f => { f with from_ := (s'.conns k).id } := by
        rcases settled with nothing | claimedBy
        · rw [nothing]
          rfl
        · rw [(wf.step enabled).run_id tail claimedBy]
      rw [settledId, List.filter_append, List.map_append, List.append_assoc]

end Zapd
