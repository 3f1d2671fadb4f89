import Zapd.Base.View
import Zapd.Router.Routing

/-! What a node is told of the others, and when it agrees with the registry. -/

namespace Zapd

open Utf8 Announcements

/-- What a frame the router built tells its receiver about who is registered. -/
def Origin.event : Origin → Option (Event String)
  | .presence _ subject connected => some (.told subject connected)
  | .listing _ _ filter entries =>
    if filter = "" then some (.snapshot (entries.map Entry.id)) else none
  | .welcome _ | .relayed .. | .answer .. => none

/-- What a channel has told its node, in order. -/
def events (queue : List Queued) : List (Event String) := queue.filterMap (·.origin.event)

/-- Phases between a change of the registry and its announcement. -/
@[simp] def Phase.unannounced : Phase → Bool
  | .inserted _ | .welcoming | .arriving | .departing _ => true
  | _ => false

/-- Some connection is about to announce an id. -/
def Awaited (s : Router) (id : String) : Prop :=
  ∃ c, (s.conns c).phase.unannounced = true ∧ (s.conns c).id = id

/-- An id is registered. -/
def Registered (s : Router) (id : String) : Prop := (holder s.peers id).isSome = true

/-- No change of the registry waits to be announced, and no list waits to be sent. -/
def Quiescent (s : Router) : Prop :=
  ∀ c, (s.conns c).phase.unannounced = false ∧
    ∀ filter entries, (s.conns c).phase ≠ .listed filter entries

/--
What a connection announces is still so, or someone else is about to announce the same id.

A full list may also be out of date on ids its receiver was never told about.
-/
def Timely (s : Router) : Action → Prop
  | .advance c =>
    let id := (s.conns c).id
    let others := ∃ k, k ≠ c ∧ (s.conns k).phase.unannounced = true ∧ (s.conns k).id = id
    match (s.conns c).phase with
    | .arriving => Registered s id ∨ others
    | .departing _ => ¬ Registered s id ∨ others
    | .listed filter entries => filter = "" → ∀ b, holder s.peers id = some b →
      ∀ x, x ≠ id → (x ∈ entries.map Entry.id ∨ (view (events (s.queues b)) x).isSome = true) →
        (x ∈ entries.map Entry.id ↔ Registered s x) ∨ Awaited s x
    | _ => True
  | _ => True

/-- What a node was told of an id is so, unless someone is about to announce that id. -/
def Agrees (s : Router) : Prop :=
  ∀ b id, s.Live id b → ∀ x, x ≠ id → ∀ present, view (events (s.queues b)) x = some present →
    (present = true ↔ Registered s x) ∨ Awaited s x

/-- What a longer channel tells is told after what its start told. -/
theorem events_append (left right : List Queued) :
    events (left ++ right) = events left ++ events right :=
  List.filterMap_append

/-- Every broadcast frame tells of its subject. -/
theorem events_announced {s : Router} {except : String} {typ : UInt8} {payload : Bytes}
    {c : ConnId} {connected : Bool} {b : ConnId} :
    ∀ e ∈ events (announced s except typ payload (.presence c except connected) b),
      e = .told except connected := by
  intro e member
  -- Every frame of a broadcast has the same subject.
  obtain ⟨q, sent, told⟩ := List.mem_filterMap.mp member
  obtain ⟨_, pid, _, _, rfl⟩ := mem_announced.mp sent
  exact (Option.some.inj told).symm

/-- A live node is told by every broadcast about another id. -/
theorem events_announced_ne_nil {s : Router} {except : String} {typ : UInt8} {payload : Bytes}
    {c : ConnId} {connected : Bool} {id : String} {b : ConnId} (live : s.Live id b)
    (other : id ≠ except) :
    events (announced s except typ payload (.presence c except connected) b) ≠ [] := by
  intro nothing
  -- A live connection of another id is sent the announcement.
  have sent : (⟨Frame.new typ "zapd" id payload, .presence c except connected⟩ : Queued) ∈
      announced s except typ payload (.presence c except connected) b :=
    mem_announced.mpr ⟨live.writer, id, live.held, other, rfl⟩
  have told : (Event.told except connected : Event String) ∈
      events (announced s except typ payload (.presence c except connected) b) :=
    List.mem_filterMap.mpr ⟨_, sent, rfl⟩
  rw [nothing] at told
  cases told

/-- Of all steps, only announcements and full lists tell anyone of ids. -/
theorem events_emitted {s : Router} {a : Action} {b : ConnId} {e : Event String}
    (told : e ∈ events (emitted s a b)) : ∃ c, a = .advance c ∧
      ((∃ connected, (s.conns c).phase.Announces connected) ∨
        ∃ entries, (s.conns c).phase = .listed "" entries ∧
          holder s.peers (s.conns c).id = some b) := by
  obtain ⟨q, sent, tells⟩ := List.mem_filterMap.mp told
  obtain ⟨_, emits⟩ := emits_of_mem sent
  cases emits with
  -- WELCOME and forwarded frames tell of nobody.
  | welcomed | forwarded => cases tells
  | announced connected phased => exact ⟨_, rfl, .inl ⟨connected, phased⟩⟩
  | @replied c q owed held =>
    refine ⟨c, rfl, .inr ?_⟩
    unfold Conn.reply at owed
    split at owed
    · cases owed
      cases tells
    · rename_i filter entries listed
      cases owed
      -- A filtered list is no snapshot of the registry.
      by_cases full : filter = ""
      · exact ⟨entries, full ▸ listed, held⟩
      · simp [Origin.event, full] at tells
    · cases owed
      cases tells
    · cases owed

/-- A pending announcement stays pending unless its own connection makes it. -/
theorem awaited_step {s s' : Router} {a : Action} {x : String} (enabled : s.step a = some s')
    (awaited : Awaited s x)
    (own : (s.conns a.conn).phase.unannounced = true → (s.conns a.conn).id = x →
      (s'.conns a.conn).phase.unannounced = true ∧ (s'.conns a.conn).id = x) : Awaited s' x := by
  obtain ⟨k, pending, named⟩ := awaited
  by_cases self : k = a.conn
  · -- Its own step may be the announcement, which is the caller's to exclude.
    subst self
    exact ⟨_, own pending named⟩
  · exact ⟨k, by rw [step_other enabled self]; exact ⟨pending, named⟩⟩

/-- A live node was live before the step, or has been told nothing yet. -/
theorem RouterReachable.live_before {host : String} {door : ConnId → Bool} {s s' : Router}
    {a : Action} (reached : RouterReachable host door s) (enabled : s.step a = some s')
    {id : String} {b : ConnId} (live : s'.Live id b) :
    s.Live id b ∨ s'.queues b = [] := by
  have wf := reached.wellFormed
  by_cases claimed : (id, b) ∈ s.claims
  · exact .inl (wf.live_back enabled claimed live)
  · -- Whatever is queued is queued to a connection that has claimed its id.
    refine .inr (List.eq_nil_iff_forall_not_mem.mpr fun q member => claimed ?_)
    have before : ((s.conns b).id, b) ∈ s.claims := by
      rcases step_mem enabled member with old | ⟨_, emits⟩
      · exact (reached.traced old).claimed
      · exact (emits.traced wf).claimed
    rw [← ((wf.step enabled).holder_id live.held).1, wf.step_id enabled before]
    exact before

/-- What a step tells a live node comes on top of what it was told. -/
theorem view_step {s s' : Router} {a : Action} (enabled : s.step a = some s') (b : ConnId) :
    view (events (s'.queues b)) =
      (events (emitted s a b)).foldl see (view (events (s.queues b))) := by
  rw [step_queues enabled, events_append, view_append]

/-- A step that tells nobody anything and changes no id's registration keeps the agreement. -/
theorem Agrees.quiet {host : String} {door : ConnId → Bool} {s s' : Router} {a : Action}
    (agrees : Agrees s) (reached : RouterReachable host door s) (enabled : s.step a = some s')
    (silent : ∀ b, events (emitted s a b) = [])
    (kept : ∀ x, (Registered s' x ↔ Registered s x) ∨ Awaited s' x)
    (awaited : ∀ x, Awaited s x → Awaited s' x) : Agrees s' := by
  intro b id live x other present told
  rcases reached.live_before enabled live with before | nothing
  · rw [view_step enabled, silent] at told
    rcases kept x with same | pending
    · rw [same]
      exact (agrees b id before x other present told).imp_right (awaited x)
    · exact .inr pending
  · -- A newcomer was told nothing yet.
    rw [nothing] at told
    cases told

/-- An announcement goes to everyone else and leaves the registry alone. -/
theorem step_announces {s s' : Router} {c : ConnId} {connected : Bool}
    (enabled : s.step (.advance c) = some s') (phased : (s.conns c).phase.Announces connected) :
    s'.peers = s.peers ∧ ∃ typ payload, ∀ b, emitted s (.advance c) b =
      announced s (s.conns c).id typ payload (.presence c (s.conns c).id connected) b := by
  obtain ⟨t, conn, acts, rfl⟩ := step_acts enabled
  cases acts with
  | announced arriving =>
    obtain rfl : connected = true := by simpa [arriving] using phased
    exact ⟨by simp [broadcast_eq], PEER_CONNECTED, encodePeer (s.conns c).id, fun b => by
      simp [emitted, arriving]⟩
  | departed result departing =>
    obtain rfl : connected = false := by simpa [departing] using phased
    exact ⟨by simp [broadcast_eq], PEER_DISCONNECTED, encodePeer (s.conns c).id, fun b => by
      simp [emitted, departing]⟩
  -- A reply is owed in other phases.
  | replied q owed =>
    unfold Conn.reply at owed
    split at owed <;> simp_all
  | _ => simp_all

/-- An announcement that is still so, or that another will follow, keeps the agreement. -/
theorem Agrees.announced {host : String} {door : ConnId → Bool} {s s' : Router} {c : ConnId}
    {connected : Bool} (agrees : Agrees s) (reached : RouterReachable host door s)
    (enabled : s.step (.advance c) = some s') (phased : (s.conns c).phase.Announces connected)
    (timely : (connected = true ↔ Registered s (s.conns c).id) ∨
      ∃ k, k ≠ c ∧ (s.conns k).phase.unannounced = true ∧ (s.conns k).id = (s.conns c).id) :
    Agrees s' := by
  obtain ⟨peers, typ, payload, emits⟩ := step_announces enabled phased
  intro b id live x other present told
  rcases reached.live_before enabled live with before | nothing
  · have registered : Registered s' x ↔ Registered s x := by rw [Registered, Registered, peers]
    rw [registered]
    rw [view_step enabled, emits] at told
    by_cases subject : x = (s.conns c).id
    · -- Everyone else is told of the subject, and what they are told is timely.
      subst subject
      rw [foldl_told_self (events_announced_ne_nil before other.symm) events_announced] at told
      obtain rfl := Option.some.inj told
      refine timely.imp_right ?_
      rintro ⟨k, different, pending, named⟩
      exact ⟨k, by rw [step_other enabled different]; exact ⟨pending, named⟩⟩
    · -- What is known of the others is as it was.
      have others : ∀ e ∈ events (Zapd.announced s (s.conns c).id typ payload
          (.presence c (s.conns c).id connected) b),
          ∃ key present, e = .told key present ∧ key ≠ x := fun e member =>
        ⟨_, _, events_announced e member, Ne.symm subject⟩
      rw [foldl_told_other others] at told
      refine (agrees b id before x other present told).imp_right fun awaited => ?_
      exact awaited_step enabled awaited fun _ named => absurd named.symm subject
  · rw [nothing] at told
    cases told

/-- A reply leaves the registry alone and reaches the holder of the id. -/
theorem step_replies {s s' : Router} {c : ConnId} {q : Queued}
    (enabled : s.step (.advance c) = some s') (owed : (s.conns c).reply c = some q) :
    s'.peers = s.peers ∧ ∀ b, emitted s (.advance c) b = delivered s (s.conns c).id q b := by
  obtain ⟨t, conn, acts, rfl⟩ := step_acts enabled
  cases acts with
  | replied q' owed' =>
    -- The reply that is sent is the one that is owed.
    refine ⟨by simp [sendTo_eq], fun b => ?_⟩
    unfold Conn.reply at owed
    split at owed <;> simp_all [emitted, Conn.reply]
  | _ => simp_all [Conn.reply]

/-- A full list that is not out of date keeps the agreement. -/
theorem Agrees.listed {host : String} {door : ConnId → Bool} {s s' : Router} {c : ConnId}
    {filter : String} {entries : List Entry} (agrees : Agrees s)
    (reached : RouterReachable host door s) (enabled : s.step (.advance c) = some s')
    (listed : (s.conns c).phase = .listed filter entries) (timely : Timely s (.advance c)) :
    Agrees s' := by
  have owed : (s.conns c).reply c = some ⟨Frame.new PROVIDERS "zapd" (s.conns c).id
      (encodeProviders entries), .listing c ((s.conns c).received.length - 1) filter entries⟩ := by
    simp [Conn.reply, listed]
  obtain ⟨peers, emits⟩ := step_replies enabled owed
  simp only [Timely, listed] at timely
  intro b id live x other present told
  rcases reached.live_before enabled live with before | nothing
  · have registered : Registered s' x ↔ Registered s x := by rw [Registered, Registered, peers]
    -- The step announces nobody.
    have awaits : Awaited s x → Awaited s' x := fun awaited =>
      awaited_step enabled awaited fun pending => by simp [listed] at pending
    rw [registered]
    rw [view_step enabled, emits] at told
    by_cases full : filter = "" ∧ holder s.peers (s.conns c).id = some b
    · -- The snapshot settles what it names and what was mentioned before.
      obtain ⟨rfl, held⟩ := full
      have sameId : (s.conns c).id = id := by
        rw [← (reached.wellFormed.holder_id held).1,
          (reached.wellFormed.holder_id before.held).1]
      have snapshot : events (delivered s (s.conns c).id ⟨Frame.new PROVIDERS "zapd"
          (s.conns c).id (encodeProviders entries), .listing c ((s.conns c).received.length - 1) ""
          entries⟩ b) = [.snapshot (entries.map Entry.id)] := by
        rw [delivered, if_pos ⟨held, before.writer⟩]
        rfl
      simp only [snapshot, List.foldl_cons, List.foldl_nil, see] at told
      split at told
      · rename_i named
        obtain rfl := Option.some.inj told
        have still := timely rfl b held x (sameId ▸ other) (.inl named)
        simpa [named] using still.imp_right awaits
      · rename_i unnamed
        obtain ⟨_, mentioned, rfl⟩ := Option.map_eq_some_iff.mp told
        have still := timely rfl b held x (sameId ▸ other) (.inr (by rw [mentioned]; rfl))
        simpa [unnamed] using still.imp_right awaits
    · -- A filtered list, or one for someone else, tells this node nothing.
      have silent : events (delivered s (s.conns c).id ⟨Frame.new PROVIDERS "zapd"
          (s.conns c).id (encodeProviders entries), .listing c ((s.conns c).received.length - 1)
          filter entries⟩ b) = [] := by
        rw [not_and_or] at full
        rcases full with filtered | elsewhere
        · unfold delivered
          split <;> simp [events, Origin.event, filtered]
        · simp [delivered, elsewhere, events]
      rw [silent] at told
      exact (agrees b id before x other present told).imp_right awaits
  · rw [nothing] at told
    cases told

/-- A step of a connection that announces nothing and sends no full list tells nobody of ids. -/
theorem silent_of_phase {s : Router} {a : Action}
    (quiet : ∀ connected, ¬ (s.conns a.conn).phase.Announces connected)
    (unlisted : ∀ entries, (s.conns a.conn).phase ≠ .listed "" entries) (b : ConnId) :
    events (emitted s a b) = [] := by
  refine List.eq_nil_iff_forall_not_mem.mpr fun e told => ?_
  -- Whatever is told is an announcement or a full list.
  obtain ⟨c, rfl, ⟨connected, phased⟩ | ⟨entries, listed, _⟩⟩ := events_emitted told
  · exact quiet connected phased
  · exact unlisted entries listed

/-- What registers or removes its connection is announced by it next. -/
theorem Agrees.registers {host : String} {door : ConnId → Bool} {s s' : Router} {a : Action}
    (agrees : Agrees s) (reached : RouterReachable host door s) (enabled : s.step a = some s')
    (silent : ∀ b, events (emitted s a b) = [])
    (others : ∀ x, x ≠ (s.conns a.conn).id → s'.peers.lookup x = s.peers.lookup x)
    (before : (s.conns a.conn).phase.unannounced = false)
    (after : (s'.conns a.conn).phase.unannounced = true)
    (sameId : (s'.conns a.conn).id = (s.conns a.conn).id) : Agrees s' := by
  refine agrees.quiet reached enabled silent (fun x => ?_) fun x awaited =>
    awaited_step enabled awaited fun pending =>
      absurd (before.symm.trans pending) Bool.false_ne_true
  by_cases own : x = (s.conns a.conn).id
  · -- The change to this id is announced next.
    exact .inr ⟨a.conn, after, sameId.trans own.symm⟩
  · rw [Registered, Registered, holder, holder, others x own]
    exact .inl Iff.rfl

/-- A step that registers and removes nobody, and tells nobody of ids, keeps the agreement. -/
theorem Agrees.unchanged {host : String} {door : ConnId → Bool} {s s' : Router} {a : Action}
    (agrees : Agrees s) (reached : RouterReachable host door s) (enabled : s.step a = some s')
    (silent : ∀ b, events (emitted s a b) = []) (peers : s'.peers = s.peers)
    (own : (s.conns a.conn).phase.unannounced = true →
      (s'.conns a.conn).phase.unannounced = true ∧ (s'.conns a.conn).id = (s.conns a.conn).id) :
    Agrees s' := by
  refine agrees.quiet reached enabled silent (fun x => .inl ?_) fun x awaited =>
    awaited_step enabled awaited fun pending named => ⟨(own pending).1, (own pending).2.trans named⟩
  rw [Registered, Registered, peers]

/-- Every timely step keeps the agreement. -/
theorem Agrees.step {host : String} {door : ConnId → Bool} {s s' : Router} {a : Action}
    (agrees : Agrees s) (reached : RouterReachable host door s) (enabled : s.step a = some s')
    (timely : Timely s a) : Agrees s' := by
  have moved := enabled
  obtain ⟨t, conn, acts, rfl⟩ := step_acts enabled
  cases acts with
  | @announced c arriving =>
    -- What is announced is timely by assumption.
    have phased : (s.conns c).phase.Announces true := by simp [arriving]
    refine agrees.announced reached moved phased ?_
    simpa [Timely, arriving] using timely
  | @departed c result departing =>
    have phased : (s.conns c).phase.Announces false := by simp [departing]
    refine agrees.announced reached moved phased ?_
    simpa [Timely, departing] using timely
  | @entered c desc armed may =>
    -- The insertion changes its own id alone, and WELCOME and the arrival follow.
    refine agrees.registers reached moved (silent_of_phase ?_ ?_) (fun x other => ?_) ?_ ?_ ?_
    · simp [armed]
    · simp [armed]
    · exact AList.lookup_insert_ne other
    · simp [armed]
    · simp
    · simp
  | @removed c result leaving own =>
    -- The removal changes its own id alone, and the departure follows.
    refine agrees.registers reached moved (silent_of_phase ?_ ?_) (fun x other => ?_) ?_ ?_ ?_
    · simp [leaving]
    · simp [leaving]
    · exact AList.lookup_erase_ne other
    · simp [leaving]
    · simp
    · simp
  | @replied c q owed =>
    by_cases listed : ∃ filter entries, (s.conns c).phase = .listed filter entries
    · -- A full list is timely by assumption.
      obtain ⟨filter, entries, listed⟩ := listed
      exact agrees.listed reached moved listed timely
    · -- Any other reply tells nobody of ids.
      have idle : (s.conns c).phase.unannounced = false := by
        have owing := owed
        unfold Conn.reply at owing
        split at owing <;> simp_all
      refine agrees.unchanged reached moved (silent_of_phase ?_ ?_) (step_replies moved owed).1 ?_
      · intro connected
        cases phase : (s.conns c).phase <;> simp_all
      · exact fun entries same => listed ⟨_, entries, same⟩
      · exact fun pending => absurd (idle.symm.trans pending) Bool.false_ne_true
  | @fired c old inserted =>
    refine agrees.unchanged reached moved (silent_of_phase ?_ ?_) (by cases old <;> rfl) ?_
    · simp [inserted]
    · simp [inserted]
    · simp
  | @welcomed c welcoming =>
    refine agrees.unchanged reached moved (silent_of_phase ?_ ?_) (by simp [push_eq]) ?_
    · simp [welcoming]
    · simp [welcoming]
    · simp
  | @forwarded c f forwarding =>
    refine agrees.unchanged reached moved (silent_of_phase ?_ ?_) (by simp [sendTo_eq]) ?_
    · simp [forwarding]
    · simp [forwarding]
    · simp [forwarding]
  | @broke c spawned =>
    refine agrees.unchanged reached moved (fun b => rfl) rfl ?_
    simp
  | @taken c desc armed =>
    refine agrees.unchanged reached moved (silent_of_phase ?_ ?_) rfl ?_
    · simp [armed]
    · simp [armed]
    · simp [armed]
  | @drew c desc stamped =>
    refine agrees.unchanged reached moved (silent_of_phase ?_ ?_) rfl ?_
    · simp [stamped]
    · simp [stamped]
    · simp [stamped]
  | @kept c result leaving =>
    refine agrees.unchanged reached moved (silent_of_phase ?_ ?_) rfl ?_
    · simp [leaving]
    · simp [leaving]
    · simp [leaving]
  | @greeted c first waiting =>
    exact agrees.unchanged reached moved (fun b => rfl) rfl (by simp [waiting])
  | @refused c written reply e socket result refusing _ =>
    exact agrees.unchanged reached moved (fun b => rfl) rfl (by simp [refusing])
  | @received c next relaying =>
    exact agrees.unchanged reached moved (fun b => rfl) rfl (by simp [relaying])
  | @evicted c relaying told =>
    exact agrees.unchanged reached moved (fun b => rfl) rfl (by simp [relaying])
  | @snapped c filter entries listing snapshot =>
    exact agrees.unchanged reached moved (fun b => rfl) rfl (by simp [listing])

/--
Where no announcement is the last word on an id it is wrong about, presence agrees with the
registry: in a quiescent state a live node was told of exactly the registered ids.
-/
theorem presence_agrees {host : String} {door : ConnId → Bool} {s : Router}
    (reached : Transition.GuardedReachable Timely Router.step (Router.initial host door) s)
    (quiescent : Quiescent s) {b : ConnId} {id : String} (live : s.Live id b) {x : String}
    (other : x ≠ id) {present : Bool} (told : view (events (s.queues b)) x = some present) :
    present = true ↔ Registered s x := by
  -- Nobody is live at first, and every timely step keeps the agreement.
  have agrees : Agrees s := by
    apply reached.induction
    · intro b id live
      have held := live.held
      simp [Router.initial, holder] at held
    · intro s a s' reach timely agrees enabled
      exact agrees.step reach enabled timely
  refine (agrees b id live x other present told).resolve_right ?_
  rintro ⟨c, pending, _⟩
  rw [(quiescent c).1] at pending
  cases pending

/-- Two nodes join one after the other, and the first is told of the second. -/
theorem presence_agrees_joined : ∃ s, RouterReachable "dgx" (fun _ => false) s ∧
    (true = true ↔ Registered s "agent/dgx/x") := by
  have timely : Transition.Guarded Timely Router.step (Router.initial "dgx" fun _ => false)
      (joins 0 "agent/o" ++ joins 1 "agent/x") := by
    -- Only the two announcements are asked anything, and each subject is registered by then.
    refine ⟨trivial, trivial, trivial, trivial, trivial, .inl rfl, ?_⟩
    exact ⟨trivial, trivial, trivial, trivial, trivial, .inl rfl, trivial⟩
  have reached : RouterReachable "dgx" (fun _ => false) _ :=
    ⟨joins 0 "agent/o" ++ joins 1 "agent/x", rfl⟩
  refine ⟨_, reached, @presence_agrees _ _ _ ⟨_, timely, rfl⟩ ?_ 0 "agent/dgx/o" ⟨rfl, rfl⟩
    "agent/dgx/x" (by decide) true rfl⟩
  intro c
  match c with
  | 0 => exact ⟨rfl, fun _ _ => nofun⟩
  | 1 => exact ⟨rfl, fun _ _ => nofun⟩
  | c + 2 => exact ⟨rfl, fun _ _ => nofun⟩

/-- The departure of an old connection is announced after the arrival of its successor. -/
theorem presence_stale : ∃ s, RouterReachable "dgx" (fun _ => false) s ∧ Quiescent s ∧
    s.Live "agent/dgx/o" 0 ∧ view (events (s.queues 0)) "agent/dgx/x" = some false ∧
    Registered s "agent/dgx/x" := by
  -- The old connection announces its end after the new one has announced its arrival.
  have reached : RouterReachable "dgx" (fun _ => false) _ :=
    ⟨joins 0 "agent/o" ++ joins 1 "agent/x" ++ [.read 1 (.ok none), .advance 1] ++
      joins 2 "agent/x" ++ [.advance 1], rfl⟩
  refine ⟨_, reached, ?_, ⟨by decide, by decide⟩, by decide, by unfold Registered; decide⟩
  intro c
  match c with
  | 0 => exact ⟨rfl, fun _ _ => nofun⟩
  | 1 => exact ⟨rfl, fun _ _ => nofun⟩
  | 2 => exact ⟨rfl, fun _ _ => nofun⟩
  | c + 3 => exact ⟨rfl, fun _ _ => nofun⟩

end Zapd