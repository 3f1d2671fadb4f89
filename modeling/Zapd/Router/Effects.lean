import Zapd.Base.Counted
import Zapd.Router.Answers

/-! Every frame read has exactly one effect, and no channel has two frames for one reason. -/

namespace Zapd

open Utf8 Counted

variable {host : String} {door : ConnId → Bool} {s s' : Router} {c : ConnId} {n : Nat} {f : Frame}

/-- The frames whose effects are on a channel, by their senders and their places, in order. -/
def causes (queue : List Queued) : List (ConnId × Nat) := queue.filterMap (·.origin.cause)

/-- What a connection's own course put on a channel: its WELCOME, its arrival, its departure. -/
def Origin.milestone : Origin → Option (ConnId × Nat)
  | .welcome c => some (c, 0)
  | .presence c _ true => some (c, 1)
  | .presence c _ false => some (c, 3)
  | .relayed .. | .answer .. | .listing .. => none

/-- How far a connection's course has come. -/
@[simp] def Phase.stage : Phase → Nat
  | .hello | .refusing .. | .stamped _ | .armed _ | .inserted _ | .welcoming => 0
  | .arriving => 1
  | .relaying | .forwarding _ | .unrouted _ | .listing _ | .listed .. | .unknown | .leaving _ => 2
  | .departing _ => 3
  | .returned _ => 4

/-- The steps of connections' courses that a channel was told of, in order. -/
def milestones (queue : List Queued) : List (ConnId × Nat) :=
  queue.filterMap (·.origin.milestone)

/-- What the router answers a frame with, on its sender's own channel. -/
inductive Answers (id : String) (f : Frame) : Frame → Prop
  | listed (entries : List Entry) (toRouter : f.to_ = "") (asked : f.typ = PROVIDERS_LIST) :
    Answers id f (Frame.new PROVIDERS "zapd" id (encodeProviders entries))
  | unknown (toRouter : f.to_ = "") (noList : f.typ ≠ PROVIDERS_LIST) (noHello : f.typ ≠ HELLO) :
    Answers id f (errorFrame id "unknown_control")
  | unrouted (addressed : f.to_ ≠ "") : Answers id f (errorFrame id ("no_route:" ++ f.to_))

/-- A frame read was delivered under its sender's id, or answered. -/
def Router.Effected (s : Router) (c : ConnId) (n : Nat) (f : Frame) : Prop :=
  (f.to_ ≠ "" ∧ ∃ b, ⟨{ f with from_ := (s.conns c).id }, .relayed c n⟩ ∈ s.queues b) ∨
  ∃ q ∈ s.queues c, q.origin.cause = some (c, n) ∧ Answers (s.conns c).id f q.frame

/-- The id that a connection sends to next. -/
def Conn.target (conn : Conn) : String :=
  match conn.phase with
  | .forwarding f => f.to_
  | _ => conn.id

/-- Effects are found where the frames are queued. -/
theorem mem_causes {queue : List Queued} {cause : ConnId × Nat} :
    cause ∈ causes queue ↔ ∃ q ∈ queue, q.origin.cause = some cause :=
  List.mem_filterMap

/-- A channel's effects are those it had and those the step emits. -/
theorem causes_step {a : Action} (enabled : s.step a = some s') (b : ConnId) :
    causes (s'.queues b) = causes (s.queues b) ++ causes (emitted s a b) := by
  rw [step_queues enabled, causes, List.filterMap_append]
  rfl

/-- A send has one effect at most. -/
theorem causes_delivered (s : Router) (dest : String) (q : Queued) (b : ConnId) :
    (causes (delivered s dest q b)).length ≤ 1 := by
  unfold delivered
  split
  · exact List.length_filterMap_le _ [q]
  · exact Nat.zero_le 1

/-- Presence is no effect of a frame. -/
theorem causes_announced (s : Router) (except : String) (typ : UInt8) (payload : Bytes)
    (subject : String) (connected : Bool) (b : ConnId) :
    causes (announced s except typ payload (.presence c subject connected) b) = [] := by
  refine List.filterMap_eq_nil_iff.mpr fun q member => ?_
  obtain ⟨_, _, _, _, rfl⟩ := mem_announced.mp member
  rfl

/-- A step has at most one effect on a channel. -/
theorem causes_emitted (s : Router) (a : Action) (b : ConnId) :
    (causes (emitted s a b)).length ≤ 1 := by
  cases a with
  | advance c =>
    unfold emitted
    dsimp only
    split
    · -- WELCOME is no effect.
      split <;> simp [causes, Origin.cause]
    · rw [causes_announced]
      exact Nat.zero_le 1
    · rw [causes_announced]
      exact Nat.zero_le 1
    · exact causes_delivered ..
    · cases (s.conns c).reply c with
      | none => exact Nat.zero_le 1
      | some q => exact causes_delivered ..
  | _ => exact Nat.zero_le 1

/-- The effects of a step are those of the frame in hand, which is done with then. -/
theorem RouterReachable.causes_numbered {a : Action} (reached : RouterReachable host door s)
    (enabled : s.step a = some s') :
    Numbered (fun b => causes (emitted s a b)) (fun c => (s.conns c).handled)
      (fun c => (s'.conns c).handled) where
  current b cause member := by
    obtain ⟨q, isEmitted, caused⟩ := mem_causes.mp member
    exact ((emits_of_mem isEmitted).2.cause caused).2.2
  passed b cause member := by
    obtain ⟨q, isEmitted, caused⟩ := mem_causes.mp member
    obtain ⟨alive, emits⟩ := emits_of_mem isEmitted
    exact reached.wellFormed.handled_emits enabled emits alive caused
  ordered b := ordered_single (causes_emitted s a b)

/-- Effects come in order on every channel. -/
theorem RouterReachable.causes_sequenced (reached : RouterReachable host door s) :
    Sequenced (fun b => causes (s.queues b)) fun c => (s.conns c).handled := by
  refine reached.induction (P := fun s => Sequenced (fun b => causes (s.queues b))
    fun c => (s.conns c).handled) Sequenced.empty ?_
  intro s a s' reach sequenced enabled
  simp only [causes_step enabled]
  exact sequenced.append (RouterReachable.causes_numbered reach enabled) (step_handled enabled)

/-- A frame has its effect where its sender sends to. -/
theorem Emits.receiver {a : Action} {b : ConnId} {q : Queued} (emits : Emits s b a q)
    (caused : q.origin.cause = some (c, n)) : holder s.peers (s.conns c).target = some b := by
  cases emits with
  | welcomed | announced => cases caused
  | @forwarded k f forwarding held =>
    obtain ⟨rfl, _⟩ := Prod.mk.inj (Option.some.inj caused)
    rw [Conn.target, forwarding]
    exact held
  | @replied k q owed held =>
    unfold Conn.reply at owed
    split at owed
    -- Each of the three replies goes to the own id.
    all_goals
      cases owed
      try
        rename_i phased
        obtain ⟨rfl, _⟩ := Prod.mk.inj (Option.some.inj caused)
        rw [Conn.target, phased]
        exact held

/-- No frame has effects on two channels. -/
theorem RouterReachable.one_receiver (reached : RouterReachable host door s) {b b' : ConnId}
    {cause : ConnId × Nat} (here : cause ∈ causes (s.queues b))
    (there : cause ∈ causes (s.queues b')) : b = b' := by
  refine reached.induction (P := fun s => ∀ b b' cause, cause ∈ causes (s.queues b) →
    cause ∈ causes (s.queues b') → b = b') ?_ ?_ b b' cause here there
  · intro b b' cause here
    cases here
  · intro s a s' reach alone enabled b b' cause here there
    rw [causes_step enabled] at here there
    refine (RouterReachable.causes_sequenced reach).exclusive
      (RouterReachable.causes_numbered reach enabled) alone ?_ here there
    intro b b' cause now now'
    obtain ⟨q, isEmitted, caused⟩ := mem_causes.mp now
    obtain ⟨q', isEmitted', caused'⟩ := mem_causes.mp now'
    -- Both go to the holder of one id.
    have held := (emits_of_mem isEmitted).2.receiver caused
    have held' := (emits_of_mem isEmitted').2.receiver caused'
    exact Option.some.inj (held.symm.trans held')

/-- What a channel is told of connections' courses is found where it is queued. -/
theorem mem_milestones {queue : List Queued} {entry : ConnId × Nat} :
    entry ∈ milestones queue ↔ ∃ q ∈ queue, q.origin.milestone = some entry :=
  List.mem_filterMap

/-- Whatever was read, the relaying goes on. -/
@[simp] theorem dispatch_stage (f : Frame) : (dispatch f).stage = 2 := by
  unfold dispatch
  repeat' split
  all_goals rfl

/-- Nobody goes back in its course. -/
theorem step_stage {a : Action} (enabled : s.step a = some s') (c : ConnId) :
    (s.conns c).phase.stage ≤ (s'.conns c).phase.stage := by
  rcases step_conns enabled c with ⟨rfl, t, acts⟩ | kept
  · generalize s'.conns a.conn = conn at acts ⊢
    cases acts with
    | greeted first waiting => simp [waiting]
    | @received c next relaying =>
      rcases next with e | _ | f
      · simp [receive, relaying]
      · simp [receive, relaying]
      · show (s.conns c).phase.stage ≤ (dispatch f).stage
        rw [relaying, dispatch_stage]
        exact Nat.le_refl 2
    | forwarded f forwarding =>
      dsimp only
      split <;> simp [forwarding]
    | replied q owed =>
      unfold Conn.reply at owed
      split at owed <;> simp_all
    | broke spawned => exact Nat.le_refl _
    | _ => simp_all
  · rw [kept]

/-- Whoever tells of its course is at that step, and goes on from it. -/
theorem Emits.milestone {a : Action} {b : ConnId} {q : Queued} (emits : Emits s b a q)
    (enabled : s.step a = some s') (told : q.origin.milestone = some (c, n)) :
    n = (s.conns c).phase.stage ∧ n < (s'.conns c).phase.stage := by
  -- After a step that tells of it, the connection is past it.
  have past : ∀ k, a = .advance k → (∃ connected, (s.conns k).phase.Announces connected) ∨
      (s.conns k).phase = .welcoming → (s.conns k).phase.stage < (s'.conns k).phase.stage := by
    rintro k rfl announces
    obtain ⟨t, acts⟩ := step_advanced enabled
    generalize s'.conns k = conn at acts ⊢
    cases acts with
    | replied q owed =>
      unfold Conn.reply at owed
      split at owed <;> simp_all
    | _ => simp_all
  cases emits with
  | welcomed welcoming =>
    obtain ⟨rfl, rfl⟩ := Prod.mk.inj (Option.some.inj told)
    exact ⟨by rw [welcoming]; rfl, by simpa [welcoming] using past b rfl (.inr welcoming)⟩
  | @announced k pid connected phased held other =>
    have later := past k rfl (.inl ⟨connected, phased⟩)
    cases phase : (s.conns k).phase <;> rw [phase] at phased later <;> try cases phased
    all_goals
      obtain ⟨rfl, rfl⟩ := Prod.mk.inj (Option.some.inj told)
      rw [phase]
      exact ⟨rfl, later⟩
  | forwarded forwarding held => cases told
  | replied owed held =>
    unfold Conn.reply at owed
    split at owed <;> cases owed <;> cases told

/-- A broadcast tells a connection once at most: it is registered under one id. -/
theorem WellFormed.announced_pairwise (wf : WellFormed s) (except : String) (typ : UInt8)
    (payload : Bytes) (origin : Origin) (b : ConnId) {R : Queued → Queued → Prop} :
    (announced s except typ payload origin b).Pairwise R := by
  unfold announced fanOut
  split
  · rw [List.pairwise_filterMap]
    refine s.peers.nodupKeys.pairwise_ne.imp_of_mem ?_
    rintro ⟨pid, p⟩ ⟨pid', p'⟩ entry entry' differ q sent q' sent'
    obtain ⟨⟨mine, _⟩, _⟩ := Option.ite_none_right_eq_some.mp sent
    obtain ⟨⟨mine', _⟩, _⟩ := Option.ite_none_right_eq_some.mp sent'
    -- Both entries are under the id of this connection.
    have named := (wf.entry pid p (AList.mem_lookup_iff.mpr entry)).1
    have named' := (wf.entry pid' p' (AList.mem_lookup_iff.mpr entry')).1
    rw [mine] at named
    rw [mine'] at named'
    exact absurd (named.symm.trans named') differ
  · exact List.Pairwise.nil

/-- What a step tells of courses is in order. -/
theorem WellFormed.milestones_emitted (wf : WellFormed s) (a : Action) (b : ConnId) :
    (milestones (emitted s a b)).Pairwise Precedes := by
  unfold milestones
  rw [List.pairwise_filterMap]
  cases a with
  | advance c =>
    unfold emitted
    dsimp only
    split
    · split
      · exact List.pairwise_singleton _ _
      · exact List.Pairwise.nil
    · exact wf.announced_pairwise ..
    · exact wf.announced_pairwise ..
    · unfold delivered
      split
      · exact List.pairwise_singleton _ _
      · exact List.Pairwise.nil
    · cases (s.conns c).reply c with
      | none => exact List.Pairwise.nil
      | some q =>
        unfold Option.elim delivered
        dsimp only
        split
        · exact List.pairwise_singleton _ _
        · exact List.Pairwise.nil
  | _ => exact List.Pairwise.nil

/-- What a channel is told of each connection's course is told in order. -/
theorem RouterReachable.milestones_sequenced (reached : RouterReachable host door s) :
    Sequenced (fun b => milestones (s.queues b)) fun c => (s.conns c).phase.stage := by
  refine reached.induction (P := fun s => Sequenced (fun b => milestones (s.queues b))
    fun c => (s.conns c).phase.stage) Sequenced.empty ?_
  intro s a s' reach sequenced enabled
  have grown : (fun b => milestones (s'.queues b)) =
      fun b => milestones (s.queues b) ++ milestones (emitted s a b) := by
    funext b
    rw [step_queues enabled, milestones, List.filterMap_append]
    rfl
  rw [grown]
  refine sequenced.append ⟨?_, ?_, ?_⟩ (step_stage enabled)
  · intro b entry member
    obtain ⟨q, isEmitted, told⟩ := mem_milestones.mp member
    exact ((emits_of_mem isEmitted).2.milestone enabled told).1
  · intro b entry member
    obtain ⟨q, isEmitted, told⟩ := mem_milestones.mp member
    exact ((emits_of_mem isEmitted).2.milestone enabled told).2
  · exact fun b => (RouterReachable.wellFormed reach).milestones_emitted a b

/-- Every frame is queued for a frame that was read, or for a step of a course. -/
theorem Origin.cause_or_milestone (origin : Origin) :
    (∃ cause, origin.cause = some cause) ∨ ∃ entry, origin.milestone = some entry := by
  cases origin with
  | welcome c => exact .inr ⟨_, rfl⟩
  | presence c subject connected => cases connected <;> exact .inr ⟨_, rfl⟩
  | relayed c n => exact .inl ⟨_, rfl⟩
  | answer c n => exact .inl ⟨_, rfl⟩
  | listing c n filter entries => exact .inl ⟨_, rfl⟩

/-- No channel has two frames for the same reason. -/
theorem RouterReachable.origins_nodup (reached : RouterReachable host door s) (b : ConnId) :
    ((s.queues b).map (·.origin)).Nodup := by
  have effects := List.pairwise_filterMap.mp (reached.causes_sequenced.ordered b)
  have courses := List.pairwise_filterMap.mp (reached.milestones_sequenced.ordered b)
  rw [List.Nodup, List.pairwise_map]
  refine effects.imp₂ ?_ courses
  intro q q' effect course same
  -- One reason has one number, and no number precedes itself.
  rcases q.origin.cause_or_milestone with ⟨cause, caused⟩ | ⟨entry, told⟩
  · exact Precedes.irrefl cause (effect cause caused cause (same ▸ caused))
  · exact Precedes.irrefl entry (course entry told entry (same ▸ told))

/-- A control frame that is answered as unknown asks for no list and is no HELLO. -/
def Conn.Unasked (conn : Conn) : Prop :=
  conn.phase = .unknown → ∃ f, conn.received[conn.received.length - 1]? = some f ∧
    f.typ ≠ PROVIDERS_LIST ∧ f.typ ≠ HELLO

/-- What `route_loop` takes for unknown is neither. -/
theorem dispatch_unknown (unknown : dispatch f = .unknown) :
    f.typ ≠ PROVIDERS_LIST ∧ f.typ ≠ HELLO := by
  unfold dispatch at unknown
  split at unknown
  · split at unknown
    · cases unknown
    · split at unknown
      · cases unknown
      · constructor <;> assumption
  · cases unknown

/-- Every connection's unknown frame is one. -/
theorem RouterReachable.unasked (reached : RouterReachable host door s) (c : ConnId) :
    (s.conns c).Unasked := by
  refine reached.invariant (P := fun s => ∀ c, (s.conns c).Unasked) ?_ ?_ c
  · intro c unknown
    cases unknown
  · intro s a s' unasked enabled c
    rcases step_conns enabled c with ⟨rfl, t, acts⟩ | kept
    · intro unknown
      generalize s'.conns a.conn = conn at acts unknown ⊢
      -- Only a read leads there.
      cases acts with
      | greeted first waiting =>
        rcases greet_phase s.host (s.conns _) first with
          ⟨_, _, phased, _⟩ | ⟨_, _, phased⟩ | ⟨_, phased⟩ <;>
        rw [phased] at unknown <;> cases unknown
      | @received c next relaying =>
        rcases next with e | _ | f
        · cases unknown
        · cases unknown
        · exact ⟨f, by simp [receive], dispatch_unknown unknown⟩
      | forwarded f forwarding =>
        dsimp only at unknown
        split at unknown <;> cases unknown
      | broke spawned => exact unasked _ unknown
      | _ => cases unknown
    · rw [kept]
      exact unasked c

/-- Whoever has sent a frame has claimed its id. -/
theorem RouterReachable.claimed_of_received (reached : RouterReachable host door s)
    (read : (s.conns c).received ≠ []) : ((s.conns c).id, c) ∈ s.claims := by
  refine reached.induction (P := fun s => ∀ c, (s.conns c).received ≠ [] →
    ((s.conns c).id, c) ∈ s.claims) ?_ ?_ c read
  · intro c read
    exact absurd rfl read
  · intro s a s' reach claimed enabled c read
    have wf := RouterReachable.wellFormed reach
    -- Either the frame was there before, or it was read by a registered connection.
    have before : ((s.conns c).id, c) ∈ s.claims := by
      rcases step_conns enabled c with ⟨rfl, t, acts⟩ | kept
      · rcases acts.received_eq with same | ⟨f, _, relaying, _⟩
        · exact claimed _ (same ▸ read)
        · exact wf.registered _ (by simp [relaying])
      · exact claimed c (kept ▸ read)
    rw [wf.step_id enabled before]
    exact step_claims enabled before

/-- An effect is never undone. -/
theorem Router.Effected.step {a : Action} (effected : s.Effected c n f) (wf : WellFormed s)
    (enabled : s.step a = some s') (claimed : ((s.conns c).id, c) ∈ s.claims) :
    s'.Effected c n f := by
  have kept : ∀ b, ∀ q ∈ s.queues b, q ∈ s'.queues b := fun b q member => by
    rw [step_queues enabled]
    exact List.mem_append_left _ member
  rw [Router.Effected, wf.step_id enabled claimed]
  rcases effected with ⟨addressed, b, relayed⟩ | ⟨q, member, caused, answers⟩
  · exact .inl ⟨addressed, b, kept b _ relayed⟩
  · exact .inr ⟨q, kept c q member, caused, answers⟩

/-- What a reply is sent for, and to whom. -/
theorem Conn.Coherent.answers {conn : Conn} {q : Queued} (coherent : conn.Coherent host)
    (unasked : conn.Unasked) (owed : conn.reply c = some q) :
    ∃ f, conn.received[conn.received.length - 1]? = some f ∧
      q.origin.cause = some (c, conn.received.length - 1) ∧ Answers conn.id f q.frame := by
  have inHand := coherent.inHand
  unfold Conn.reply at owed
  split at owed
  · rename_i dest unrouted
    cases owed
    obtain ⟨f, last, rfl, addressed⟩ := by simpa only [unrouted, Phase.InHand] using inHand
    exact ⟨f, last, rfl, .unrouted addressed⟩
  · rename_i filter entries listed
    cases owed
    obtain ⟨f, last, toRouter, asked, _⟩ := by simpa only [listed, Phase.InHand] using inHand
    exact ⟨f, last, rfl, .listed entries toRouter asked⟩
  · rename_i unknown
    cases owed
    obtain ⟨f, last, toRouter⟩ := by simpa only [unknown, Phase.InHand] using inHand
    obtain ⟨g, last', noList, noHello⟩ := unasked unknown
    obtain rfl := Option.some.inj (last.symm.trans last')
    exact ⟨f, last, rfl, .unknown toRouter noList noHello⟩
  · cases owed

/-- What a reply emits goes to the holder of the own id. -/
theorem emitted_reply {q : Queued} (owed : (s.conns c).reply c = some q) (b : ConnId) :
    emitted s (.advance c) b = delivered s (s.conns c).id q b := by
  have phased := owed
  unfold Conn.reply at phased
  split at phased <;> simp_all [emitted]

/-- While a frame is in hand, all but that one are done with. -/
theorem Conn.handled_pending {conn : Conn} (pending : conn.phase.pending = true) :
    conn.handled = conn.received.length - 1 := if_pos pending

/-- With no frame in hand, all are done with. -/
theorem Conn.handled_settled {conn : Conn} (settled : conn.phase.pending = false) :
    conn.handled = conn.received.length := by
  rw [Conn.handled, settled]
  rfl

/-- The only frame that is not kept in hand is one more HELLO. -/
theorem dispatch_settled (settled : (dispatch f).pending = false) :
    f.to_ = "" ∧ f.typ = HELLO := by
  unfold dispatch at settled
  split at settled
  · rename_i toRouter
    split at settled
    · cases settled
    · split at settled
      · exact ⟨toRouter, by assumption⟩
      · cases settled
  · cases settled

/-- A frame that its sender is done with in this step has its effect in this step. -/
theorem WellFormed.effects {a : Action} (wf : WellFormed s) (unasked : (s.conns c).Unasked)
    (enabled : s.step a = some s') (live : s.Live (s.conns c).id c)
    (pending : (s.conns c).handled ≤ n) (done : n < (s'.conns c).handled)
    (read : (s'.conns c).received[n]? = some f) :
    (f.to_ = "" ∧ f.typ = HELLO) ∨ s'.Effected c n f := by
  have claimed := wf.holder_claimed live.held
  have queues := step_queues enabled
  rw [Router.Effected, wf.step_id enabled claimed]
  rcases step_conns enabled c with ⟨rfl, t, acts⟩ | kept
  swap
  · rw [kept] at done
    omega
  generalize s'.conns a.conn = conn at acts done read
  have settled : (s.conns a.conn).phase.pending = false →
      (s.conns a.conn).handled = (s.conns a.conn).received.length := Conn.handled_settled
  cases acts with
  | @received c next relaying =>
    have before : (s.conns c).handled = (s.conns c).received.length :=
      Conn.handled_settled (by rw [relaying]; rfl)
    change (s.conns c).handled ≤ n at pending
    rcases next with e | _ | g
    -- A read that brings no frame leaves the frames as they are.
    · rw [Conn.handled_settled rfl] at done
      exact absurd done (by simp only [receive]; omega)
    · rw [Conn.handled_settled rfl] at done
      exact absurd done (by simp only [receive]; omega)
    · have length : (receive (s.conns c) (.ok (some g))).received.length =
          (s.conns c).received.length + 1 := by simp [receive]
      cases inHand : (dispatch g).pending with
      | true =>
        rw [Conn.handled_pending inHand] at done
        omega
      | false =>
        rw [Conn.handled_settled inHand] at done
        obtain rfl : n = (s.conns c).received.length := by omega
        obtain rfl := by simpa [receive] using read
        exact .inl (dispatch_settled inHand)
  | @forwarded c g forwarding =>
    have before : (s.conns c).handled = (s.conns c).received.length - 1 :=
      Conn.handled_pending (by rw [forwarding]; rfl)
    change (s.conns c).handled ≤ n at pending
    obtain ⟨last, addressed⟩ := by
      simpa only [forwarding, Phase.InHand] using (wf.coherent c).inHand
    cases taken : (sendTo s g.to_ ((s.conns c).stamped c g)).2 with
    | false =>
      rw [taken, Conn.handled_pending rfl] at done
      exact absurd done (by simp only; omega)
    | true =>
      rw [taken, Conn.handled_settled rfl] at done
      have isLast : n = (s.conns c).received.length - 1 := by
        simp only at done
        omega
      subst isLast
      obtain rfl := Option.some.inj (last.symm.trans read)
      -- Whoever took the frame has it on its channel.
      obtain ⟨b, held, alive⟩ := (sendTo_ok ..).mp taken
      refine .inr (.inl ⟨addressed, b, ?_⟩)
      rw [queues]
      refine List.mem_append_right _ ?_
      simp [emitted, forwarding, delivered, held, alive, Conn.stamped]
  | @replied c q owed =>
    obtain ⟨g, last, caused, answers⟩ := (wf.coherent c).answers unasked owed
    have before : (s.conns c).handled = (s.conns c).received.length - 1 := by
      refine Conn.handled_pending ?_
      unfold Conn.reply at owed
      split at owed <;> simp_all [Phase.pending]
    change (s.conns c).handled ≤ n at pending
    rw [Conn.handled_settled rfl] at done
    have isLast : n = (s.conns c).received.length - 1 := by
      simp only at done
      omega
    subst isLast
    obtain rfl := Option.some.inj (last.symm.trans read)
    -- The sender is registered, so the reply reaches it.
    refine .inr (.inr ⟨q, ?_, caused, answers⟩)
    rw [queues, conn_advance, emitted_reply owed]
    refine List.mem_append_right _ ?_
    have held := live.held
    have alive := live.writer
    simp only [conn_advance] at held alive
    simp [delivered, held, alive]
  | @snapped c filter entries listing =>
    -- The frame is in hand still.
    have before : (s.conns c).handled = (s.conns c).received.length - 1 :=
      Conn.handled_pending (by rw [listing]; rfl)
    change (s.conns c).handled ≤ n at pending
    rw [Conn.handled_pending rfl] at done
    exact absurd done (by simp only; omega)
  | broke spawned => exact absurd (Nat.lt_of_lt_of_le done pending) (Nat.lt_irrefl _)
  | @greeted c first waiting => exact absurd live.held (wf.holds_nothing (by simp [waiting]) _)
  | _ =>
    -- In the other steps no frame is in hand, before or after.
    rw [settled (by simp_all [Phase.pending])] at pending
    rw [Conn.handled_settled rfl] at done
    exact absurd (Nat.lt_of_lt_of_le done pending) (Nat.lt_irrefl _)

/-- A registered sender's frames that are done with have had their effects. -/
theorem RouterReachable.effected (reached : RouterReachable host door s)
    (live : s.Live (s.conns c).id c) (done : n < (s.conns c).handled)
    (read : (s.conns c).received[n]? = some f) :
    (f.to_ = "" ∧ f.typ = HELLO) ∨ s.Effected c n f := by
  refine reached.induction (P := fun s => ∀ c n f, s.Live (s.conns c).id c →
    n < (s.conns c).handled → (s.conns c).received[n]? = some f →
      (f.to_ = "" ∧ f.typ = HELLO) ∨ s.Effected c n f) ?_ ?_ c n f live done read
  · intro c n f live done read
    cases read
  · intro s a s' reach effected enabled c n f live done read
    have wf := RouterReachable.wellFormed reach
    by_cases before : (s.conns c).received = []
    · -- What was read in this step is of a registered connection.
      rcases step_conns enabled c with ⟨rfl, t, acts⟩ | kept
      · rcases acts.received_eq with same | ⟨g, _, relaying, _⟩
        · rw [same, before] at read
          cases read
        · have claimed := wf.registered a.conn (by simp [relaying])
          rw [wf.step_id enabled claimed] at live
          refine wf.effects (RouterReachable.unasked reach _) enabled
            (wf.live_back enabled claimed live) ?_ done read
          simp [Conn.handled, before]
      · rw [kept, before] at read
        cases read
    · have claimed := RouterReachable.claimed_of_received reach before
      rw [wf.step_id enabled claimed] at live
      have was := wf.live_back enabled claimed live
      -- The frame was done with before this step, or is now.
      rcases Nat.lt_or_ge n (s.conns c).handled with past | now
      · have within : n < (s.conns c).received.length := by
          have less : (s.conns c).handled ≤ (s.conns c).received.length := by
            unfold Conn.handled
            split <;> omega
          omega
        have sameFrame := step_received_get enabled (List.getElem?_eq_getElem within)
        obtain rfl := Option.some.inj (sameFrame.symm.trans read)
        refine (effected c n _ was past (List.getElem?_eq_getElem within)).imp_right ?_
        exact fun had => had.step wf enabled claimed
      · exact wf.effects (RouterReachable.unasked reach _) enabled was now done read

/-- Over all interleavings every frame handled has exactly one effect, as long as its sender has its
id and its writer lives: it is delivered once to one connection or answered once on its sender's
channel, in the order of its sender's frames; and no channel ever has two frames for the same
reason. -/
theorem one_effect (reached : RouterReachable host door s) :
    (∀ b, ((s.queues b).map (·.origin)).Nodup) ∧
    (∀ b, (causes (s.queues b)).Pairwise Precedes ∧ (milestones (s.queues b)).Pairwise Precedes) ∧
    (∀ b b' cause, cause ∈ causes (s.queues b) → cause ∈ causes (s.queues b') → b = b') ∧
    (∀ b c n, (c, n) ∈ causes (s.queues b) → n < (s.conns c).handled) ∧
    (∀ c n f, s.Live (s.conns c).id c → n < (s.conns c).handled →
      (s.conns c).received[n]? = some f → (f.to_ = "" ∧ f.typ = HELLO) ∨ s.Effected c n f) := by
  refine ⟨reached.origins_nodup, fun b => ?_, ?_, ?_, ?_⟩
  · exact ⟨reached.causes_sequenced.ordered b, reached.milestones_sequenced.ordered b⟩
  · intro b b' cause here there
    exact reached.one_receiver here there
  · intro b c n member
    exact reached.causes_sequenced.past b (c, n) member
  · intro c n f live done read
    exact reached.effected live done read

/-- A frame to another node, one to nobody and one for the router: one effect each, in order. -/
theorem one_effect_three : ∃ s, RouterReachable "dgx" (fun _ => false) s ∧
    causes (s.queues 0) = [(0, 1), (0, 2)] ∧ causes (s.queues 1) = [(0, 0)] ∧
    (∀ b, ((s.queues b).map (·.origin)).Nodup) ∧
    ∀ n f, n < 3 → (s.conns 0).received[n]? = some f →
      (f.to_ = "" ∧ f.typ = HELLO) ∨ s.Effected 0 n f := by
  have reached : RouterReachable "dgx" (fun _ => false) _ :=
    ⟨joins 0 "agent/a" ++ joins 1 "agent/b" ++
      [.read 0 (.ok (some (Frame.new ROUTE "" "agent/dgx/b" []))), .advance 0,
        .read 0 (.ok (some (Frame.new ROUTE "" "agent/dgx/c" []))), .advance 0, .advance 0,
        .read 0 (.ok (some (Frame.new EVENT "" "" []))), .advance 0], rfl⟩
  obtain ⟨distinct, _, _, _, effected⟩ := one_effect reached
  refine ⟨_, reached, rfl, rfl, distinct, fun n f below read => ?_⟩
  exact effected 0 n f ⟨rfl, rfl⟩ below read

end Zapd
