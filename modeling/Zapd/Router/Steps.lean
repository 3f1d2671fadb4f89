import Zapd.Router.Model

/-! What each atomic step of the router can do, to the shared state and to its own connection. -/

namespace Zapd

open Utf8

/-- The connection registered under an id. -/
def holder (peers : Peers) (id : String) : Option ConnId := (peers.lookup id).map Peer.conn

/-- What a connection answers its own node with in a phase, and why. -/
def Conn.reply (conn : Conn) (c : ConnId) : Option Queued :=
  let n := conn.received.length - 1
  match conn.phase with
  | .unrouted dest => some ⟨errorFrame conn.id ("no_route:" ++ dest), .answer c n⟩
  | .listed filter entries =>
    some ⟨Frame.new PROVIDERS "zapd" conn.id (encodeProviders entries), .listing c n filter entries⟩
  | .unknown => some ⟨errorFrame conn.id "unknown_control", .answer c n⟩
  | _ => none

/-- The frame in hand, under the id it is forwarded with. -/
def Conn.stamped (conn : Conn) (c : ConnId) (f : Frame) : Queued :=
  ⟨{ f with from_ := conn.id }, .relayed c (conn.received.length - 1)⟩

/-- Every step: the shared state after it, and the local variables of its connection after it. -/
inductive Acts (s : Router) : Action → Router → Conn → Prop
  | greeted {c} (first) (waiting : (s.conns c).phase = .hello) :
    Acts s (.read c first) s (greet s.host (s.conns c) first)
  | refused {c} (written reply e socket result)
    (refusing : (s.conns c).phase = .refusing reply e)
    (wrote : socket = (s.conns c).socket ∨ socket = (s.conns c).socket ++ [reply]) :
    Acts s (.refuse c written) s
      { s.conns c with socket, phase := .returned (.error result) }
  | drew {c} (desc) (stamped : (s.conns c).phase = .stamped desc) :
    Acts s (.advance c) { s with nextToken := s.nextToken + 1 }
      { s.conns c with token := s.nextToken, phase := .armed desc }
  | taken {c} (desc) (armed : (s.conns c).phase = .armed desc)
    (mayNot : (s.conns c).takeOver = false) (live : (s.peers.lookup (s.conns c).id).isSome) :
    Acts s (.advance c) s
      { s.conns c with phase := refusal .addrInUse ("taken:" ++ (s.conns c).id) }
  | entered {c} (desc) (armed : (s.conns c).phase = .armed desc)
    (may : (s.conns c).takeOver = true ∨ s.peers.lookup (s.conns c).id = none) :
    Acts s (.advance c)
      { s with peers := s.peers.insert (s.conns c).id ⟨c, desc, (s.conns c).token⟩,
               claims := ((s.conns c).id, c) :: s.claims }
      { s.conns c with phase := .inserted (s.peers.lookup (s.conns c).id) }
  | fired {c} (old) (inserted : (s.conns c).phase = .inserted old) :
    Acts s (.advance c) (fireEvict s old) { s.conns c with phase := .welcoming }
  | welcomed {c} (welcoming : (s.conns c).phase = .welcoming) :
    Acts s (.advance c)
      (s.push c ⟨Frame.new WELCOME "zapd" (s.conns c).id [], .welcome c⟩)
      { s.conns c with phase := .arriving }
  | announced {c} (arriving : (s.conns c).phase = .arriving) :
    Acts s (.advance c)
      (broadcast s (s.conns c).id PEER_CONNECTED (encodePeer (s.conns c).id)
        (.presence c (s.conns c).id true))
      { s.conns c with phase := .relaying }
  | received {c} (next) (relaying : (s.conns c).phase = .relaying) :
    Acts s (.read c next) s (receive (s.conns c) next)
  | evicted {c} (relaying : (s.conns c).phase = .relaying) (told : (s.evictedAt c).isSome) :
    Acts s (.evicted c) s { s.conns c with phase := .leaving (.ok ()) }
  | forwarded {c} (f) (forwarding : (s.conns c).phase = .forwarding f) :
    Acts s (.advance c) (sendTo s f.to_ ((s.conns c).stamped c f)).1
      { s.conns c with phase :=
          if (sendTo s f.to_ ((s.conns c).stamped c f)).2 then .relaying else .unrouted f.to_ }
  | snapped {c} (filter entries) (listing : (s.conns c).phase = .listing filter)
    (snapshot : entries.Perm (list s.peers filter)) :
    Acts s (.snapshot c entries) s { s.conns c with phase := .listed filter entries }
  | replied {c} (q) (owed : (s.conns c).reply c = some q) :
    Acts s (.advance c) (sendTo s (s.conns c).id q).1 { s.conns c with phase := .relaying }
  | broke {c} (spawned : (s.conns c).phase.spawned) :
    Acts s (.writerFails c) s { s.conns c with writer := false }
  | removed {c} (result) (leaving : (s.conns c).phase = .leaving result)
    (own : (s.peers.lookup (s.conns c).id).map Peer.token = some (s.conns c).token) :
    Acts s (.advance c) { s with peers := s.peers.erase (s.conns c).id }
      { s.conns c with phase := .departing result }
  | kept {c} (result) (leaving : (s.conns c).phase = .leaving result)
    (notOwn : (s.peers.lookup (s.conns c).id).map Peer.token ≠ some (s.conns c).token) :
    Acts s (.advance c) s { s.conns c with phase := .returned result, writer := false }
  | departed {c} (result) (departing : (s.conns c).phase = .departing result) :
    Acts s (.advance c)
      (broadcast s (s.conns c).id PEER_DISCONNECTED (encodePeer (s.conns c).id)
        (.presence c (s.conns c).id false))
      { s.conns c with phase := .returned result, writer := false }

private theorem acts_of_advance {s t : Router} {c : ConnId} {conn : Conn}
    (acted : advance s c (s.conns c) = some (t, conn)) : Acts s (.advance c) t conn := by
  -- One case for each phase that waits for no one.
  unfold advance at acted
  split at acted
  case h_1 desc stamped =>
    cases acted
    exact .drew desc stamped
  case h_2 desc armed =>
    split at acted
    · rename_i refused
      simp only [Bool.and_eq_true, Bool.not_eq_true'] at refused
      cases acted
      exact .taken desc armed refused.1 refused.2
    · rename_i passed
      cases acted
      refine .entered desc armed ?_
      cases free : s.peers.lookup (s.conns c).id <;> simp_all
  case h_3 old inserted =>
    cases acted
    exact .fired old inserted
  case h_4 welcoming =>
    cases acted
    exact .welcomed welcoming
  case h_5 arriving =>
    cases acted
    exact .announced arriving
  case h_6 f forwarding =>
    cases acted
    exact .forwarded f forwarding
  case h_7 dest unrouted =>
    cases acted
    exact .replied _ (by simp [Conn.reply, unrouted])
  case h_8 filter entries listed =>
    cases acted
    exact .replied _ (by simp [Conn.reply, listed])
  case h_9 unknown =>
    cases acted
    exact .replied _ (by simp [Conn.reply, unknown])
  case h_10 result leaving =>
    split at acted
    · rename_i own
      cases acted
      exact .removed result leaving own
    · rename_i notOwn
      cases acted
      exact .kept result leaving notOwn
  case h_11 result departing =>
    cases acted
    exact .departed result departing
  all_goals cases acted

/-- An enabled step is one of the steps above. -/
theorem acts_of_act {s t : Router} {a : Action} {conn : Conn} (acted : act s a = some (t, conn)) :
    Acts s a t conn := by
  cases a with
  -- The first frame is the HELLO, and every later one is for the loop.
  | read c next =>
    simp only [act, Action.conn] at acted
    split at acted
    · rename_i waiting
      cases acted
      exact .greeted next waiting
    · rename_i relaying
      cases acted
      exact .received next relaying
    · cases acted
  | refuse c written =>
    simp only [act, Action.conn] at acted
    split at acted
    · rename_i reply e refusing
      cases acted
      exact .refused _ reply e _ e refusing (.inr rfl)
    · rename_i reply e failure refusing
      cases acted
      exact .refused _ reply e _ failure refusing (.inl rfl)
    · cases acted
  | advance c => exact acts_of_advance acted
  -- A snapshot is whatever order of the registry's list.
  | snapshot c entries =>
    simp only [act, Action.conn] at acted
    split at acted
    · rename_i filter listing
      split at acted
      · rename_i snapshot
        cases acted
        exact .snapped filter entries listing snapshot
      · cases acted
    · cases acted
  | evicted c =>
    simp only [act, Action.conn] at acted
    split at acted
    · rename_i relaying
      split at acted
      · rename_i told
        cases acted
        exact .evicted relaying told
      · cases acted
    · cases acted
  | writerFails c =>
    have acted : (if (s.conns c).phase.spawned then some (s, { s.conns c with writer := false })
        else none) = some (t, conn) := acted
    split at acted
    · rename_i spawned
      cases acted
      exact .broke spawned
    · cases acted

/-- What a send to an id puts on one connection's channel. -/
def delivered (s : Router) (dest : String) (q : Queued) (b : ConnId) : List Queued :=
  if holder s.peers dest = some b ∧ (s.conns b).writer = true then [q] else []

/-- What a broadcast puts on one connection's channel. -/
def announced (s : Router) (except : String) (typ : UInt8) (payload : Bytes) (origin : Origin)
    (b : ConnId) : List Queued :=
  if (s.conns b).writer then fanOut s.peers except typ payload origin b else []

/-- What a step puts on one connection's channel. -/
def emitted (s : Router) (a : Action) (b : ConnId) : List Queued :=
  match a with
  | .advance c =>
    let conn := s.conns c
    match conn.phase with
    | .welcoming =>
      if b = c ∧ conn.writer = true then [⟨Frame.new WELCOME "zapd" conn.id [], .welcome c⟩] else []
    | .arriving =>
      announced s conn.id PEER_CONNECTED (encodePeer conn.id) (.presence c conn.id true) b
    | .departing _ =>
      announced s conn.id PEER_DISCONNECTED (encodePeer conn.id) (.presence c conn.id false) b
    | .forwarding f => delivered s f.to_ (conn.stamped c f) b
    | _ => (conn.reply c).elim [] fun q => delivered s conn.id q b
  | _ => []

/-- A send changes nothing but the channel of the id's holder. -/
theorem sendTo_eq (s : Router) (dest : String) (q : Queued) :
    (sendTo s dest q).1 =
      { s with queues := fun b => s.queues b ++ delivered s dest q b } := by
  -- Nobody holds the id, or its holder's writer decides.
  unfold sendTo
  cases found : s.peers.lookup dest with
  | none => simp [delivered, holder, found]
  | some p =>
    simp only [Router.push]
    split
    · rename_i alive
      congr 1
      funext b
      -- Only the holder's channel grows.
      by_cases self : p.conn = b
      · subst self
        simp [delivered, holder, found, alive]
      · simp [delivered, holder, found, self, Function.update_of_ne (Ne.symm self)]
    · rename_i dead
      -- Nobody else is sent anything, and the holder's channel is gone.
      have nothing : ∀ b, delivered s dest q b = [] := by
        intro b
        by_cases self : p.conn = b
        · subst self
          simp [delivered, dead]
        · simp [delivered, holder, found, self]
      simp [nothing]

/-- A send succeeds exactly when the id's holder has a live writer. -/
theorem sendTo_ok (s : Router) (dest : String) (q : Queued) :
    (sendTo s dest q).2 = true ↔
      ∃ b, holder s.peers dest = some b ∧ (s.conns b).writer = true := by
  unfold sendTo
  cases found : s.peers.lookup dest <;> simp [holder, found]

/-- A broadcast appends its presence frames to every live channel. -/
theorem broadcast_eq (s : Router) (except : String) (typ : UInt8) (payload : Bytes)
    (origin : Origin) : broadcast s except typ payload origin =
      { s with queues := fun b => s.queues b ++ announced s except typ payload origin b } := by
  unfold broadcast announced
  congr 1
  funext b
  -- A dead channel is left as it was.
  split <;> simp

/-- A push appends to one live channel. -/
theorem push_eq (s : Router) (c : ConnId) (q : Queued) : s.push c q =
    { s with queues := fun b =>
        s.queues b ++ if b = c ∧ (s.conns c).writer = true then [q] else [] } := by
  unfold Router.push
  split
  · rename_i alive
    congr 1
    funext b
    -- Only the connection's own channel grows.
    by_cases self : b = c
    · subst self
      simp [alive]
    · simp [self]
  · rename_i dead
    simp [dead]

/-- Steps change the channels by appending what they emit. -/
theorem Acts.queues {s t : Router} {a : Action} {conn : Conn} (acts : Acts s a t conn)
    (b : ConnId) : t.queues b = s.queues b ++ emitted s a b := by
  cases acts with
  -- Firing a signal sends nothing.
  | fired old inserted =>
    cases old <;> simp [fireEvict, emitted, inserted, Conn.reply]
  | welcomed welcoming => simp [push_eq, emitted, welcoming]
  | announced arriving => simp [broadcast_eq, emitted, arriving]
  | departed result departing => simp [broadcast_eq, emitted, departing]
  | forwarded f forwarding => simp [sendTo_eq, emitted, forwarding]
  -- Each of the three replies goes to the connection's own id.
  | replied q owed =>
    have phased := owed
    unfold Conn.reply at phased
    split at phased <;> simp_all [sendTo_eq, emitted]
  | _ => simp_all [emitted, Conn.reply]

/-- The shared state does not hold the local variables, and no step changes the host. -/
theorem Acts.leaves {s t : Router} {a : Action} {conn : Conn} (acts : Acts s a t conn) :
    t.conns = s.conns ∧ t.host = s.host := by
  cases acts with
  | fired old inserted => cases old <;> exact ⟨rfl, rfl⟩
  -- What is sent goes to the channels, and they are another part of the state.
  | welcomed welcoming => simp [push_eq]
  | forwarded f forwarding => simp [sendTo_eq]
  | replied q owed => simp [sendTo_eq]
  | _ => exact ⟨rfl, rfl⟩

/-- No step changes whether its connection may take over an id. -/
theorem Acts.takeOver {s t : Router} {a : Action} {conn : Conn} (acts : Acts s a t conn) :
    conn.takeOver = (s.conns a.conn).takeOver := by
  cases acts with
  -- The first frame sets an id at most.
  | greeted first waiting =>
    unfold greet
    repeat' split
    all_goals rfl
  | received next relaying =>
    unfold receive
    split <;> rfl
  | _ => rfl

/-- An enabled step changes the shared state and then its own connection's local variables. -/
theorem step_acts {s s' : Router} {a : Action} (enabled : s.step a = some s') :
    ∃ t conn, Acts s a t conn ∧ s' = { t with conns := Function.update s.conns a.conn conn } := by
  unfold Router.step at enabled
  obtain ⟨⟨t, conn⟩, acted, rfl⟩ := Option.map_eq_some_iff.mp enabled
  have acts := acts_of_act acted
  exact ⟨t, conn, acts, by rw [acts.leaves.1]⟩

/-- The local variables after an enabled step are those of one of the steps above. -/
theorem step_moves {s s' : Router} {a : Action} (enabled : s.step a = some s') :
    ∃ t, Acts s a t (s'.conns a.conn) := by
  obtain ⟨t, conn, acts, rfl⟩ := step_acts enabled
  -- The own variables after the step are the ones it computed.
  exact ⟨t, by simpa using acts⟩

/-- A step leaves every other connection's local variables alone. -/
theorem step_other {s s' : Router} {a : Action} {k : ConnId} (enabled : s.step a = some s')
    (other : k ≠ a.conn) : s'.conns k = s.conns k := by
  obtain ⟨t, conn, acts, rfl⟩ := step_acts enabled
  exact Function.update_of_ne other _ _

/-- Local variables after a step are what their own step made of them, or as they were. -/
theorem step_conns {s s' : Router} {a : Action} (enabled : s.step a = some s') (k : ConnId) :
    (k = a.conn ∧ ∃ t, Acts s a t (s'.conns k)) ∨ s'.conns k = s.conns k := by
  by_cases self : k = a.conn
  · subst self
    exact .inl ⟨rfl, step_moves enabled⟩
  · exact .inr (step_other enabled self)

/-- A connection that goes on acts on its own local variables. -/
theorem step_advanced {s s' : Router} {c : ConnId} (enabled : s.step (.advance c) = some s') :
    ∃ t, Acts s (.advance c) t (s'.conns c) := step_moves enabled

/-- A step appends what it emits to the channels. -/
theorem step_queues {s s' : Router} {a : Action} (enabled : s.step a = some s') (b : ConnId) :
    s'.queues b = s.queues b ++ emitted s a b := by
  obtain ⟨t, conn, acts, rfl⟩ := step_acts enabled
  exact acts.queues b

/-- The host is fixed. -/
theorem step_host {s s' : Router} {a : Action} (enabled : s.step a = some s') :
    s'.host = s.host := by
  obtain ⟨t, conn, acts, rfl⟩ := step_acts enabled
  exact acts.leaves.2

/-- Whether a connection may take over an id is fixed. -/
theorem step_takeOver {s s' : Router} {a : Action} (enabled : s.step a = some s') (k : ConnId) :
    (s'.conns k).takeOver = (s.conns k).takeOver := by
  obtain ⟨t, conn, acts, rfl⟩ := step_acts enabled
  by_cases self : k = a.conn
  · subst self
    simp [acts.takeOver]
  · simp [Function.update_of_ne self]

/-- The type of a presence frame. -/
def presenceType (connected : Bool) : UInt8 :=
  if connected then PEER_CONNECTED else PEER_DISCONNECTED

/-- A connection about to announce its arrival or its departure. -/
@[simp] def Phase.Announces : Phase → Bool → Prop
  | .arriving, connected => connected = true
  | .departing _, connected => connected = false
  | _, _ => False

/-- Why a step puts a frame on one connection's channel. -/
inductive Emits (s : Router) (b : ConnId) : Action → Queued → Prop
  | welcomed (welcoming : (s.conns b).phase = .welcoming) :
    Emits s b (.advance b) ⟨Frame.new WELCOME "zapd" (s.conns b).id [], .welcome b⟩
  | announced {c pid} (connected) (phased : (s.conns c).phase.Announces connected)
    (held : holder s.peers pid = some b) (other : pid ≠ (s.conns c).id) :
    Emits s b (.advance c)
      ⟨Frame.new (presenceType connected) "zapd" pid (encodePeer (s.conns c).id),
        .presence c (s.conns c).id connected⟩
  | forwarded {c f} (forwarding : (s.conns c).phase = .forwarding f)
    (held : holder s.peers f.to_ = some b) : Emits s b (.advance c) ((s.conns c).stamped c f)
  | replied {c q} (owed : (s.conns c).reply c = some q)
    (held : holder s.peers (s.conns c).id = some b) : Emits s b (.advance c) q

/-- A send reaches the id's holder alone. -/
theorem mem_delivered {s : Router} {dest : String} {q sent : Queued} {b : ConnId} :
    q ∈ delivered s dest sent b ↔
      q = sent ∧ holder s.peers dest = some b ∧ (s.conns b).writer = true := by
  unfold delivered
  split <;> simp_all

/-- A broadcast reaches everyone registered under another id than the subject's. -/
theorem mem_announced {s : Router} {except : String} {typ : UInt8} {payload : Bytes}
    {origin : Origin} {q : Queued} {b : ConnId} :
    q ∈ announced s except typ payload origin b ↔ (s.conns b).writer = true ∧
      ∃ pid, holder s.peers pid = some b ∧ pid ≠ except ∧
        q = ⟨Frame.new typ "zapd" pid payload, origin⟩ := by
  -- The entries of the registry are its lookups.
  unfold announced fanOut
  split
  · rename_i alive
    simp only [alive, true_and, List.mem_filterMap, Sigma.exists, holder, Option.map_eq_some_iff]
    constructor
    · -- An entry that was sent to is that of the receiver.
      rintro ⟨pid, p, entry, sent⟩
      obtain ⟨⟨same, other⟩, rfl⟩ := by simpa using sent
      exact ⟨pid, ⟨p, AList.mem_lookup_iff.mpr entry, same⟩, other, rfl⟩
    · -- An entry of the receiver's is sent to, unless it is the subject's.
      rintro ⟨pid, ⟨p, found, same⟩, other, rfl⟩
      exact ⟨pid, p, AList.mem_lookup_iff.mp found, by simp [same, other]⟩
  · simp_all

/-- Whatever a step emits reaches a live writer for one of these reasons. -/
theorem emits_of_mem {s : Router} {a : Action} {b : ConnId} {q : Queued}
    (member : q ∈ emitted s a b) : (s.conns b).writer = true ∧ Emits s b a q := by
  cases a with
  | advance c =>
    simp only [emitted] at member
    split at member
    · -- WELCOME goes to the own channel alone.
      rename_i welcoming
      split at member
      · rename_i own
        obtain ⟨rfl, alive⟩ := own
        rw [List.mem_singleton] at member
        exact member ▸ ⟨alive, .welcomed welcoming⟩
      · cases member
    · -- An arrival goes to everyone else.
      rename_i arriving
      obtain ⟨alive, pid, held, other, rfl⟩ := mem_announced.mp member
      exact ⟨alive, .announced true (by simp [arriving]) held other⟩
    · -- And so does a departure.
      rename_i result departing
      obtain ⟨alive, pid, held, other, rfl⟩ := mem_announced.mp member
      exact ⟨alive, .announced false (by simp [departing]) held other⟩
    · -- A frame in hand goes to the holder of its destination.
      rename_i f forwarding
      obtain ⟨rfl, held, alive⟩ := mem_delivered.mp member
      exact ⟨alive, .forwarded forwarding held⟩
    · -- In every other phase, only a reply is owed.
      cases owed : (s.conns c).reply c with
      | none => simp [owed] at member
      | some sent =>
        simp only [owed, Option.elim_some] at member
        obtain ⟨rfl, held, alive⟩ := mem_delivered.mp member
        exact ⟨alive, .replied owed held⟩
  | _ => cases member

/-- A frame on a channel after a step was there before, or the step emitted it. -/
theorem step_mem {s s' : Router} {a : Action} (enabled : s.step a = some s') {b : ConnId}
    {q : Queued} (member : q ∈ s'.queues b) :
    q ∈ s.queues b ∨ ((s.conns b).writer = true ∧ Emits s b a q) := by
  rw [step_queues enabled, List.mem_append] at member
  exact member.imp_right emits_of_mem

/-- After a delivery attempt the connection reads on, or owes its node an error. -/
theorem step_forwarding {s s' : Router} {c : ConnId} {f : Frame}
    (enabled : s.step (.advance c) = some s') (forwarding : (s.conns c).phase = .forwarding f) :
    s'.conns c = { s.conns c with phase :=
      if (sendTo s f.to_ ((s.conns c).stamped c f)).2 then .relaying else .unrouted f.to_ } := by
  obtain ⟨t, acts⟩ := step_advanced enabled
  generalize s'.conns c = conn at acts ⊢
  -- Of the steps, only the delivery starts with a frame in hand.
  cases acts with
  | forwarded g forwarding' =>
    obtain rfl := by simpa [forwarding] using forwarding'
    rfl
  | replied q owed => simp [Conn.reply, forwarding] at owed
  | _ => simp_all

/-- After a reply the connection reads on. -/
theorem step_replied {s s' : Router} {c : ConnId} {q : Queued}
    (enabled : s.step (.advance c) = some s') (owed : (s.conns c).reply c = some q) :
    s'.conns c = { s.conns c with phase := .relaying } := by
  obtain ⟨t, acts⟩ := step_advanced enabled
  generalize s'.conns c = conn at acts ⊢
  -- Of the steps, only the reply starts where one is owed.
  cases acts with
  | replied q' owed' => rfl
  | _ => simp_all [Conn.reply]

end Zapd
