import Zapd.Node.Parting
import Zapd.Node.Registration

/-! A node is never stuck: from every state it gets its id back, and its next call goes out. -/

namespace Zapd

open Transition Utf8

section

variable {τ : Type} {n n' : Node τ} {j k : AskId}

/-- Whoever has the turn is in a phase in which an ask has it. -/
def Node.Turned (n : Node τ) : Prop := ∀ k, n.turn = some k → (n.asks k).phase.holds = true

/-- A node whose turn and asks are those of another with one ask changed. -/
theorem Node.Turned.moves (turned : n.Turned) {a : Ask τ} (turn : n'.turn = n.turn)
    (asks : n'.asks = (n.setAsk k a).asks) (own : n.turn = some k → a.phase.holds = true) :
    n'.Turned := by
  -- The turn is where it was, so only the changed ask is to be looked at.
  intro j taken
  rw [turn] at taken
  rw [asks]
  refine forall_setAsk (P := fun j ask => n.turn = some j → ask.phase.holds = true) own ?_ j taken
  intro i _
  exact turned i

/-- Emptying the slot leaves the turn where it is. -/
theorem Node.Turned.vacate (turned : n.Turned) (reply : Reply τ) : (n.vacate reply).Turned := by
  intro k taken
  rw [vacate_turn] at taken
  rw [vacate_phase]
  exact turned k taken

/-- Every step keeps the turn with an ask that is to give it up. -/
theorem Node.Turned.step {a : NodeAction τ} (turned : n.Turned) (enabled : n.step a = some n') :
    n'.Turned := by
  cases node_moves enabled with
  | asked idle =>
    refine turned.moves rfl rfl fun taken => ?_
    -- An ask that has not begun does not have the turn.
    have holds := turned _ taken
    rw [idle] at holds
    cases holds
  | left queued =>
    refine turned.moves rfl rfl fun taken => ?_
    have holds := turned _ taken
    rw [queued] at holds
    cases holds
  | @turned k queued free =>
    intro j taken
    cases taken
    simp [goOn_self, AskPhase.holds]
  | saw | sent | missed => exact turned.moves rfl rfl fun _ => rfl
  -- Storing empties the slot, which moves no ask but its own.
  | stored _ => exact (turned.vacate .closed).moves rfl rfl fun _ => rfl
  | cleared | finished | orphaned | dropped =>
    intro j taken
    cases taken
  -- What a session reads may empty the slot, and nothing else of the asks.
  | received _ dispatched =>
    cases dispatched with
    | settled => exact turned.vacate _
    | welcome | ignored => exact turned
  | failed _ => exact turned.vacate _
  | dialed | named | raised | taken | lowered | hungUp | writerFailed => exact turned

/-- A step of one ask leaves the others and the connection as they are; nothing is sent where no
session takes frames. -/
theorem node_asks {a : NodeAction τ} (asker : a.asker = some j) (down : n.tx = none)
    (enabled : n.step a = some n') : n'.link = n.link ∧ n'.tx = n.tx ∧ n'.session = n.session ∧
      n'.outbox = n.outbox ∧ ∀ k, k ≠ j → (n'.asks k).phase = (n.asks k).phase := by
  obtain ⟨tx, link, session, _⟩ := vacate_session (n := n) .closed
  cases node_moves enabled with
  -- A send needs a session that takes frames.
  | sent _ taken _ =>
    rw [down] at taken
    cases taken
  -- Whoever else was in the slot stays in its phase.
  | stored _ | cleared _ =>
    cases asker
    refine ⟨link, tx, session, vacate_outbox _, fun k other => ?_⟩
    exact (congrArg Ask.phase (goOn_ne _ other)).trans (vacate_phase _ k)
  | asked | turned | saw | missed | finished | orphaned | left | dropped =>
    cases asker
    exact ⟨rfl, rfl, rfl, rfl, fun k other => congrArg Ask.phase (Function.update_of_ne other ..)⟩
  | _ => cases asker

/-- An ask that has the turn comes to give it up. -/
def Node.Frees (n : Node τ) (j : AskId) : Prop :=
  Leads (fun a : NodeAction τ => a.asker = some j) Node.step n fun m => m.turn = none

/-- The last step of an ask gives the turn up. -/
theorem Node.Frees.last (a : NodeAction τ) (asker : a.asker = some j)
    (goes : (n.step a).map Node.turn = some none) : n.Frees j := by
  obtain ⟨m, enabled, free⟩ := Option.map_eq_some_iff.mp goes
  exact Leads.cons asker enabled (Leads.now free)

/-- An ask comes to give up the turn if it does so from the phase it comes to. -/
theorem Node.Frees.next (a : NodeAction τ) (p : AskPhase) (asker : a.asker = some j)
    (down : n.tx = none) (goes : (n.step a).map (fun m => (m.asks j).phase) = some p)
    (later : ∀ m : Node τ, m.tx = none → (m.asks j).phase = p → m.Frees j) : n.Frees j := by
  obtain ⟨m, enabled, phase⟩ := Option.map_eq_some_iff.mp goes
  have stays := (node_asks asker down enabled).2.1
  exact Leads.cons asker enabled (later m (stays.trans down) phase)

theorem frees_unsent (unsent : (n.asks j).phase = .unsent) : n.Frees j :=
  Node.Frees.last (.clear j) rfl (by simp [Node.step, unsent])

/-- Nobody takes a frame while no session does. -/
theorem frees_stored (down : n.tx = none) (stored : (n.asks j).phase = .stored) : n.Frees j :=
  Node.Frees.next (.send j) .unsent rfl down (by simp [Node.step, stored, down, goOn_self])
    fun _ _ => frees_unsent

theorem frees_opened (down : n.tx = none) (opened : (n.asks j).phase = .opened) : n.Frees j :=
  Node.Frees.next (.store j) .stored rfl down (by simp [Node.step, opened, goOn_self])
    fun _ => frees_stored

/-- A timeout drops an ask at an await. -/
theorem frees_waiting (waiting : (n.asks j).phase = .turned ∨ (n.asks j).phase = .awaiting) :
    n.Frees j := by
  refine Node.Frees.last (.drop j) rfl ?_
  rcases waiting with turned | awaiting
  · simp [Node.step, turned]
  · simp [Node.step, awaiting]

/-- While no session takes frames, whoever has the turn gives it up, by a timeout at the latest. -/
theorem frees (down : n.tx = none) (holds : (n.asks j).phase.holds = true) : n.Frees j := by
  cases phase : (n.asks j).phase with
  -- At an await the turn is given up by a drop, and in between by going on.
  | turned => exact frees_waiting (.inl phase)
  | opened => exact frees_opened down phase
  | stored => exact frees_stored down phase
  | unsent => exact frees_unsent phase
  | awaiting => exact frees_waiting (.inr phase)
  | idle | queued | returned _ | dropped =>
    rw [phase] at holds
    cases holds

/-- The node dials, nobody has the turn, and nothing more was sent; the ask has yet to begin. -/
structure Node.Ready (n m : Node τ) (k : AskId) : Prop where
  link : m.link = .dialing
  tx : m.tx = none
  turn : m.turn = none
  session : m.session = n.session
  outbox : m.outbox = n.outbox
  idle : (m.asks k).phase = .idle

/-- While the node dials, its own steps lead to where the turn is free. -/
theorem leads_ready (carried : n.Carried) (turned : n.Turned) (dialing : n.link = .dialing)
    (idle : (n.asks k).phase = .idle) :
    Leads NodeAction.inner Node.step n fun m => n.Ready m k := by
  have down : n.tx = none := by
    -- Only a session that serves takes frames.
    by_contra taken
    obtain ⟨session, taken⟩ := Option.ne_none_iff_exists'.mp taken
    have serves := (carried.writer session taken).2
    rw [dialing] at serves
    cases serves
  cases turn : n.turn with
  | none => exact Leads.now ⟨dialing, down, turn, rfl, rfl, idle⟩
  | some j =>
    have holds := turned j turn
    -- The steps of an ask are steps of the node itself.
    have own : ∀ a : NodeAction τ, a.asker = some j → a.inner := by
      intro a asker
      cases a <;> first | exact trivial | cases asker
    refine Leads.kinds (Leads.imp (frees down holds) fun actions r kinds ran free => ?_) own
    -- Meanwhile nothing becomes of the connection, nor of any other ask.
    have kept : r.tx = none ∧ r.link = .dialing ∧ r.session = n.session ∧
        r.outbox = n.outbox ∧ ∀ k, k ≠ j → (r.asks k).phase = (n.asks k).phase := by
      refine run_invariant_kind (P := fun r => r.tx = none ∧ r.link = .dialing ∧
        r.session = n.session ∧ r.outbox = n.outbox ∧
        ∀ k, k ≠ j → (r.asks k).phase = (n.asks k).phase) ?_
        ⟨down, dialing, rfl, rfl, fun _ _ => rfl⟩ kinds ran
      intro r a r' asker ⟨down, dialing, session, outbox, phases⟩ enabled
      obtain ⟨link, tx, session', outbox', phases'⟩ := node_asks asker down enabled
      exact ⟨tx.trans down, link.trans dialing, session'.trans session, outbox'.trans outbox,
        fun k other => (phases' k other).trans (phases k other)⟩
    obtain ⟨down, dialing, session, outbox, phases⟩ := kept
    -- An ask that has yet to begin is not the one that had the turn.
    have other : k ≠ j := by
      intro same
      subst same
      rw [idle] at holds
      cases holds
    exact ⟨dialing, down, free, session, outbox, (phases k other).trans idle⟩

end

variable {hello : Frame} {host hostname : String} {door : ConnId → Bool} {id name : String}
  {s s' t : Network} {c : ConnId} {k : AskId}

/-- What the node does by itself it does in the network too. -/
theorem lift_node {node : Node Queued} {actions : List (NodeAction Queued)}
    (inner : ∀ a ∈ actions, a.inner) (ran : run Node.step s.node actions = some node) :
    run (Network.step hello) s (actions.map .node) = some { s with node } := by
  -- None of these steps stands for one of the streams.
  have lifts : ∀ node, ∀ a ∈ actions, Network.step hello { s with node } (.node a) =
      (Node.step node a).map fun node => { s with node } := by
    intro node a member
    have inside := inner a member
    cases a <;> first | rfl | exact absurd inside id
  refine (run_lift NetworkAction.node (fun node => { s with node }) lifts s.node).trans ?_
  rw [ran]
  rfl

/-- What a connection's task does by itself it does in the network too. -/
theorem lift_router {router : Router} {count : Nat}
    (ran : run Router.step s.router (List.replicate count (.advance c)) = some router) :
    run (Network.step hello) s (List.replicate count (.router (.advance c))) =
      some { s with router } := by
  have lifts : ∀ router, ∀ a ∈ List.replicate count (Action.advance c),
      Network.step hello { s with router } (.router a) =
        (Router.step router a).map fun router => { s with router } := by
    intro router a member
    rw [List.eq_of_mem_replicate member]
    rfl
  have lifted := run_lift NetworkAction.router (fun router => { s with router }) lifts s.router
  rw [List.map_replicate, ran] at lifted
  exact lifted

/-- The invariant of the network that getting a call out rests on. -/
structure Network.Sane (s : Network) : Prop where
  carried : s.node.Carried
  coherent : s.node.Coherent
  turned : s.node.Turned
  sent : ∀ sent ∈ s.node.outbox, sent.session ≤ s.node.session

/-- What a node sends it sends in the session that is current. -/
theorem Node.Carried.sends {τ : Type} {n n' : Node τ} (carried : n.Carried) {a : NodeAction τ}
    (enabled : n.step a = some n') : n.session ≤ n'.session ∧
      ∀ sent ∈ n'.outbox, sent ∈ n.outbox ∨ sent.session = n.session := by
  cases node_moves enabled with
  -- Only a dial begins a session, and only a send sends.
  | dialed _ => exact ⟨Nat.le_succ _, fun _ => .inl⟩
  | @received f origin _ _ dispatched =>
    cases dispatched with
    | @settled who k result =>
      obtain ⟨_, _, session, _⟩ := vacate_session (n := n) (.sent result origin)
      exact ⟨session.ge, fun sent member => .inl (by rwa [vacate_outbox] at member)⟩
    | welcome | ignored => exact ⟨Nat.le_refl _, fun _ => .inl⟩
  | _ =>
    obtain ⟨_, session, _, sends⟩ := node_quiet enabled nofun nofun
    refine ⟨session.ge, fun sent member => (sends sent member).imp_right fun taken => ?_⟩
    exact (carried.writer _ taken).1

/-- A step of the node keeps the network sane. -/
theorem Network.Sane.stepped {a : NodeAction Queued} {node : Node Queued} (sane : s.Sane)
    (stepped : s.node.step a = some node) {t : Network} (same : t.node = node) : t.Sane := by
  subst same
  refine ⟨sane.carried.step sane.coherent stepped, sane.coherent.step stepped,
    sane.turned.step stepped, fun sent member => ?_⟩
  obtain ⟨later, sends⟩ := sane.carried.sends stepped
  rcases sends sent member with old | current
  · exact (sane.sent sent old).trans later
  · exact current.le.trans later

/-- Reading a frame off the stream leaves a node sane that had sent it. -/
theorem Network.Sane.carried_off (sane : s.Sane) {t : Network} (i : Nat)
    (same : t.node = { s.node with outbox := s.node.outbox.eraseIdx i }) : t.Sane := by
  constructor <;> rw [same]
  -- Of the node's fields only the frames under way have changed.
  · exact ⟨sane.carried.writer, sane.carried.stored, sane.carried.queued, sane.carried.carried⟩
  · exact sane.coherent.congr rfl rfl rfl
  · exact sane.turned
  · exact fun sent member => sane.sent sent (List.eraseIdx_subset member)

/-- Every step keeps a network sane. -/
theorem Network.Sane.step {a : NetworkAction} (sane : s.Sane)
    (enabled : s.step hello a = some s') : s'.Sane := by
  cases a with
  -- A frame that is read off the stream was sent by the node.
  | carry i =>
    obtain ⟨sent, _, moved⟩ := Option.bind_eq_some_iff.mp enabled
    obtain ⟨c, _, moved⟩ := Option.bind_eq_some_iff.mp moved
    obtain ⟨_, moved⟩ := Option.ite_none_right_eq_some.mp moved
    obtain ⟨router, _, rfl⟩ := Option.map_eq_some_iff.mp moved
    exact sane.carried_off i rfl
  | router | node | dial | greet | write | hear | hearRefusal | close =>
    cases network_moves enabled <;> first
      | exact ⟨sane.carried, sane.coherent, sane.turned, sane.sent⟩
      | exact sane.stepped (by assumption) rfl

/-- A node that has just joined is sane, whatever it is connected to. -/
theorem Network.Sane.join (joined : s.node = Node.join id) : s.Sane := by
  constructor <;> rw [joined]
  · exact .join id
  · exact .join id
  · exact nofun
  · exact nofun

/-- Every reachable network is sane. -/
theorem NetworkReachable.sane (reached : NetworkReachable hello host door id s) : s.Sane :=
  reached.invariant (P := Network.Sane) (.join rfl) fun _ _ _ sane enabled => sane.step enabled

/-- Emptying the slot changes the slot and the ask in it. -/
theorem vacate_eq {τ : Type} (n : Node τ) (reply : Reply τ) :
    n.vacate reply = { n with asks := (n.vacate reply).asks, waiting := none } := by
  unfold Node.vacate
  split
  · rename_i empty
    rw [← empty]
  · rfl

/-- A session that was welcomed brings the node up, and a new ask sends its frame in it. -/
theorem asks_at_once {τ : Type} {n : Node τ} (naming : n.link = .naming) (free : n.turn = none)
    (idle : (n.asks k).phase = .idle) (writer : n.writer = true) (request : Request) :
    ∃ m, run Node.step n [.proceed, .proceed, .ask k request, .turn k, .see k, .store k,
        .send k] = some m ∧
      m.id = n.id ∧ m.up = true ∧ m.link = .reading ∧ m.session = n.session ∧
      m.waiting = some (request.answerer, k) ∧ (m.asks k).phase = .awaiting ∧
      (m.asks k).request = request ∧
      m.outbox = n.outbox ++ [⟨n.session, k, request.frame⟩] := by
  -- WELCOME is followed by the channel and `up`, and the ask takes the free turn.
  let raised : Node τ := { n with tx := some n.session, up := true, link := .reading }
  let opened : Node τ := { raised.setAsk k { request, phase := .opened } with turn := some k }
  have first : run Node.step n [.proceed, .proceed, .ask k request, .turn k, .see k] =
      some opened := by
    simp [run, Node.step, naming, free, idle, Node.goOn, Node.setAsk, opened, raised]
  let stored : Node τ := { (opened.vacate .closed).goOn k .stored with
    waiting := some (request.answerer, k) }
  have second : opened.step (.store k) = some stored := by
    simp [Node.step, opened, stored]
  -- The slot is all that storing empties, and the ask is all that it moves.
  have kept : stored.id = n.id ∧ stored.up = true ∧ stored.link = .reading ∧
      stored.session = n.session ∧ stored.tx = some n.session ∧ stored.writer = true ∧
      stored.outbox = n.outbox := by
    change (opened.vacate .closed).id = n.id ∧ (opened.vacate .closed).up = true ∧
      (opened.vacate .closed).link = .reading ∧ (opened.vacate .closed).session = n.session ∧
      (opened.vacate .closed).tx = some n.session ∧ (opened.vacate .closed).writer = true ∧
      (opened.vacate .closed).outbox = n.outbox
    rw [vacate_eq]
    exact ⟨rfl, rfl, rfl, rfl, rfl, writer, rfl⟩
  obtain ⟨named, up, link, session, taken, alive, outbox⟩ := kept
  have phase : (stored.asks k).phase = .stored := by simp [stored, goOn_self]
  have asked : (stored.asks k).request = request := by simp [stored, opened, raised]
  -- The channel is there and its writer task runs, so the frame is sent.
  let sent : Node τ := { stored.setAsk k { stored.asks k with
      phase := .awaiting, session := some n.session } with
    outbox := stored.outbox ++ [⟨n.session, k, (stored.asks k).request.frame⟩] }
  have third : stored.step (.send k) = some sent := by
    simp only [Node.step, phase, taken, alive, if_true, sent]
  have own : sent.asks k =
      { stored.asks k with phase := .awaiting, session := some n.session } := setAsk_self _
  refine ⟨sent, ?_, named, up, link, session, rfl, by rw [own], by rw [own, asked], ?_⟩
  · show run Node.step n ([.proceed, .proceed, .ask k request, .turn k, .see k] ++
      [.store k, .send k]) = some sent
    rw [run_append, first]
    exact run_cons_eq_some.mpr ⟨stored, second, run_single third⟩
  · rw [← outbox, ← asked]

/-- A frame that fits is read as it was written. -/
theorem reread_fits {f : Frame} (fits : f.Fits) : f.reread = .ok (some f) := by
  have read := read_encode fits []
  rw [List.append_nil] at read
  rw [Frame.reread, read]
  rfl

/-- The router registers this HELLO under this id, with this descriptor. -/
structure Registrable (hello : Frame) (host name : String) (desc : Descriptor) : Prop where
  fits : hello.Fits
  typ : hello.typ = HELLO
  stamped : stamp hello.from_ host = some name
  decoded : decodeHello hello.payload = .ok desc

/-- The WELCOME to an id of this machine fits. -/
theorem welcome_fits (stamped : stamp id (label hostname) = some name) :
    (Frame.new WELCOME "zapd" name []).Fits := by
  -- A stamped id is short.
  have short := stamp_length stamped
  have zapd : (asBytes "zapd").length = 4 := by decide
  refine ⟨?_, ?_, ?_⟩
  · change (asBytes "zapd").length < 2 ^ 16
    omega
  · change (asBytes name).length < 2 ^ 16
    omega
  · have bound : HEADER + 4 + 41 ≤ MAX_FRAME := by decide
    simp only [Frame.bodyLength, Frame.new, zapd, List.length_nil]
    omega

/-- The node's next session is served by a connection that is registered under its id, and the
WELCOME is read. -/
theorem leads_seated {desc : Descriptor}
    (routed : RouterReachable (label hostname) door s.router)
    (good : Registrable hello (label hostname) name desc) (dialing : s.node.link = .dialing)
    (waits : (s.router.conns c).phase = .hello) (may : (s.router.conns c).takeOver = true)
    (unused : c ∉ s.own) :
    Leads (NetworkAction.By c) (Network.step hello) s fun t =>
      t.node = { s.node with
        id := name, link := .naming, session := s.node.session + 1, writer := true } ∧
      t.seats = (s.node.session + 1, c) :: s.seats ∧
      (∃ token, t.router.conns = Function.update s.router.conns c
          { takeOver := true, phase := .relaying, id := name, token } ∧
        t.router.peers = s.router.peers.insert name ⟨c, desc, token⟩) ∧
      (∀ p, s.router.peers.lookup name = some p → (t.router.evictedAt p.conn).isSome) ∧
      t.heard = (t.router.queues c).length := by
  -- The router accepts the stream, and reads the HELLO that the node wrote first.
  let dialed : Network := { s with
    node := { s.node with link := .reading, session := s.node.session + 1, writer := true }
    seats := (s.node.session + 1, c) :: s.seats, written := 0, heard := 0 }
  have dials : Network.step hello s (.dial c) = some dialed := by
    simp [Network.step, may, waits, Phase.isHello, unused, Node.step, dialing, dialed]
  -- The task registers the id in five steps, and queues the WELCOME.
  have fresh := routed.pristine waits
  obtain ⟨r, ran, conns, peers, queues, told⟩ := registers (g := hello) routed.wellFormed
    fresh good.typ (by rw [routed.host]; exact good.stamped) good.decoded (.inl may)
  obtain ⟨greeted, reads, rest⟩ := run_cons_eq_some.mp ran
  have greets : Network.step hello dialed (.greet c) = some { dialed with router := greeted } := by
    have own : c ∈ dialed.own := List.mem_cons_self
    have isHello : (dialed.router.conns c).phase.isHello = true := by
      change (s.router.conns c).phase.isHello = true
      rw [waits]
      rfl
    simp only [Network.step, own, isHello, and_self, if_true, reread_fits good.fits]
    exact congrArg (Option.map _) reads
  let joined : Network := { dialed with router := r }
  have joins : run (Network.step hello) { dialed with router := greeted }
      (List.replicate 5 (.router (.advance c))) = some joined := lift_router rest
  -- The WELCOME is the first frame on the channel of a connection nobody used.
  let welcome : Queued := ⟨Frame.new WELCOME "zapd" name [], .welcome c⟩
  have queue : r.queues c = [welcome] := by
    rw [queues, routed.unqueued waits]
    rfl
  have seat : joined.seat = some c := List.lookup_cons_self
  rw [may] at conns
  have waiting : joined.router.conns c =
      { takeOver := true, phase := .relaying, id := name, token := s.router.nextToken } := by
    exact (congrFun conns c).trans (Function.update_self ..)
  -- The writer task writes it, and the session reads it.
  let written : Network := { joined with written := 1 }
  have writes : Network.step hello joined .write = some written := by
    have writer : (r.conns c).writes = true := by
      change (joined.router.conns c).writes = true
      rw [waiting]
      rfl
    have more : 0 < (r.queues c).length := by
      rw [queue]
      exact Nat.one_pos
    rw [Network.step, seat, Option.bind_some, if_pos ⟨writer, more⟩]
  have next : written.next = some welcome := by
    have same : written.seat = some c := seat
    rw [Network.next, Network.unread, same]
    change (((r.queues c).take 1).drop 0).head? = some welcome
    rw [queue]
    rfl
  let named : Network := { written with
    node := { dialed.node with id := name, link := .naming }, heard := 1 }
  have hears : Network.step hello written .hear = some named := by
    have read := reread_fits (welcome_fits good.stamped)
    simp only [Network.step, next, Option.bind_some, welcome, Network.sessionRead, read]
    rfl
  refine ⟨.dial c :: .greet c :: (List.replicate 5 (.router (.advance c)) ++ [.write, .hear]),
    named, ?_, ?_, rfl, rfl, ⟨_, conns, peers⟩, told, by rw [queue]; rfl⟩
  · intro a member
    rcases List.mem_cons.mp member with rfl | member
    · exact rfl
    rcases List.mem_cons.mp member with rfl | member
    · exact rfl
    rcases List.mem_append.mp member with advanced | heard
    · rw [List.eq_of_mem_replicate advanced]
      exact rfl
    · rcases List.mem_pair.mp heard with rfl | rfl <;> exact trivial
  · refine run_cons_eq_some.mpr ⟨dialed, dials, run_cons_eq_some.mpr ⟨_, greets, ?_⟩⟩
    rw [run_append, joins]
    exact run_cons_eq_some.mpr ⟨written, writes, run_single hears⟩

/-- A frame that a connection reads for another one is delivered to whoever is registered under
that id, as its sender's. -/
theorem forwards {r : Router} {f : Frame} (relaying : (r.conns c).phase = .relaying)
    (addressed : f.to_ ≠ "") :
    ∃ read final, r.step (.read c (.ok (some f))) = some read ∧
      read.step (.advance c) = some final ∧ final.peers = r.peers ∧
      final.evictedAt = r.evictedAt ∧ (∀ d, d ≠ c → final.conns d = r.conns d) ∧
      (final.conns c).phase.spawned = true ∧
      (∀ b, (final.conns b).writer = (r.conns b).writer) ∧
      ∀ b, final.queues b = r.queues b ++ delivered r f.to_
        ⟨{ f with from_ := (r.conns c).id }, .relayed c (r.conns c).received.length⟩ b := by
  -- The task holds the frame that it read until it is sent on.
  let holding : Conn := { r.conns c with
    received := (r.conns c).received ++ [f], phase := .forwarding f }
  let read : Router := { r with conns := Function.update r.conns c holding }
  have reads : r.step (.read c (.ok (some f))) = some read := by
    simp [Router.step, act, relaying, receive, dispatch, addressed, read, holding]
  have own : read.conns c = holding := Function.update_self ..
  have forwarding : (read.conns c).phase = .forwarding f := by rw [own]
  have writers : ∀ b, (read.conns b).writer = (r.conns b).writer := by
    intro b
    by_cases self : b = c
    · subst self
      rw [own]
    · exact congrArg Conn.writer (Function.update_of_ne self ..)
  obtain ⟨final, enabled⟩ : ∃ final, read.step (.advance c) = some final :=
    ⟨_, step_advance own rfl⟩
  -- Sending on changes neither the registry nor who was evicted.
  have shared : final.peers = r.peers ∧ final.evictedAt = r.evictedAt := by
    obtain ⟨t, conn, acts, rfl⟩ := step_acts enabled
    cases acts with
    | forwarded g _ => simp [sendTo_eq, read]
    | replied q owed => simp [Conn.reply, forwarding] at owed
    | _ => simp_all
  refine ⟨read, final, reads, enabled, shared.1, shared.2, fun d other => ?_, ?_, fun b => ?_,
    fun b => ?_⟩
  · rw [step_other enabled other]
    exact Function.update_of_ne other ..
  · -- The writer task runs on, whether or not anybody took the frame.
    rw [step_forwarding enabled forwarding]
    dsimp only
    split <;> rfl
  · by_cases self : b = c
    · subst self
      rw [step_forwarding enabled forwarding]
      exact writers b
    · rw [step_other enabled self]
      exact writers b
  · rw [step_queues enabled]
    simp only [emitted, forwarding, delivered, writers]
    -- The frame in hand is the last one read.
    rw [own]
    simp [Conn.stamped, holding, read]

/-- The last frame of a session that has sent nothing else is read by its connection. -/
theorem carries (hello : Frame) {read : Router} {outbox : List Sent} {sent : Sent} {f : Frame}
    (posted : s.node.outbox = outbox ++ [sent]) (seat : s.seats.lookup sent.session = some c)
    (earlier : ∀ old ∈ outbox, old.session < sent.session)
    (relaying : (s.router.conns c).phase = .relaying) (whole : sent.frame.reread = .ok (some f))
    (reads : s.router.step (.read c (.ok (some f))) = some read) :
    ∃ node, s.step hello (.carry outbox.length) = some { s with router := read, node } ∧
      node = { s.node with outbox := s.node.outbox.eraseIdx outbox.length } := by
  have found : s.node.outbox[outbox.length]? = some sent := by simp [posted]
  have first : (s.node.outbox.take outbox.length).all (·.session ≠ sent.session) = true := by
    rw [posted, List.take_left, List.all_eq_true]
    intro old member
    exact decide_eq_true (earlier old member).ne
  have isRelaying : (s.router.conns c).phase.isRelaying = true := by
    rw [relaying]
    rfl
  refine ⟨_, ?_, rfl⟩
  simp only [Network.step, found, Option.bind_some, seat, isRelaying, first, and_self, if_true,
    whole, reads]
  rfl

/-- What has come of a call that got out: the node is up under its id, which its connection has,
and the frame was delivered to whoever is registered under the id called. -/
structure Network.Out (s t : Network) (c : ConnId) (k : AskId) (name to_ : String)
    (payload : Bytes) : Prop where
  up : t.node.up = true
  link : t.node.link = .reading
  named : t.node.id = name
  seats : t.seats = (t.node.session, c) :: s.seats
  /-- Unless the node calls itself, the session has read all there is. -/
  read : to_ ≠ name → t.heard = (t.router.queues c).length
  writes : (t.router.conns c).writes = true
  live : t.router.Live name c
  conns : ∀ d, d ≠ c → t.router.conns d = s.router.conns d
  others : ∀ other, other ≠ name → t.router.peers.lookup other = s.router.peers.lookup other
  told : ∀ p, s.router.peers.lookup name = some p → (t.router.evictedAt p.conn).isSome
  awaiting : (t.node.asks k).phase = .awaiting
  waiting : t.node.waiting = some (to_, k)
  delivered : ∀ b, t.router.Live to_ b →
    ⟨{ (Request.call to_ payload).frame with from_ := name }, .relayed c 0⟩ ∈ t.router.queues b

/-- What has come of a call has come of it since the router and the sessions were as they are. -/
theorem Network.Out.since {s' : Network} {to_ : String} {payload : Bytes}
    (out : s'.Out t c k name to_ payload) (alike : s.Alike s') : s.Out t c k name to_ payload := by
  refine ⟨out.up, out.link, out.named, ?_, out.read, out.writes, out.live, ?_, ?_, ?_,
    out.awaiting, out.waiting, out.delivered⟩
  · rw [← alike.seats]
    exact out.seats
  all_goals rw [← alike.router]
  · exact out.conns
  · exact out.others
  · exact out.told

/-- The session that was just welcomed, of a node whose ask has yet to begin. -/
structure Network.Seated (s t : Network) (c : ConnId) (k : AskId) (name : String) : Prop where
  named : t.node.id = name
  link : t.node.link = .naming
  turn : t.node.turn = none
  idle : (t.node.asks k).phase = .idle
  writer : t.node.writer = true
  session : t.node.session = s.node.session + 1
  outbox : t.node.outbox = s.node.outbox
  seats : t.seats = (t.node.session, c) :: s.seats
  read : t.heard = (t.router.queues c).length
  conn : ∃ token, t.router.conns = Function.update s.router.conns c
    { takeOver := true, phase := .relaying, id := name, token }
  peers : ∃ p, t.router.peers = s.router.peers.insert name p ∧ p.conn = c
  told : ∀ p, s.router.peers.lookup name = some p → (t.router.evictedAt p.conn).isSome

/-- While the node dials, its next session is welcomed under its id. -/
theorem leads_welcomed {desc : Descriptor}
    (routed : RouterReachable (label hostname) door s.router) (sane : s.Sane)
    (good : Registrable hello (label hostname) name desc) (dialing : s.node.link = .dialing)
    (waits : (s.router.conns c).phase = .hello) (may : (s.router.conns c).takeOver = true)
    (unused : c ∉ s.own) (idle : (s.node.asks k).phase = .idle) :
    Leads (NetworkAction.By c) (Network.step hello) s fun t => s.Seated t c k name := by
  obtain ⟨actions, m, inner, ran, ready⟩ :=
    leads_ready sane.carried sane.turned dialing idle
  have frees : run (Network.step hello) s (actions.map .node) = some { s with node := m } :=
    lift_node inner ran
  -- What freed the turn were the node's own steps.
  have own : ∀ a ∈ actions.map NetworkAction.node, NetworkAction.By c a := by
    intro a member
    obtain ⟨b, among, rfl⟩ := List.mem_map.mp member
    exact inner b among
  have seats := leads_seated (s := { s with node := m }) routed good ready.link waits may unused
  refine Leads.trans ⟨_, _, own, frees, rfl⟩ fun middle same => ?_
  subst same
  refine seats.imp fun _ t _ _ ⟨node, seats, ⟨token, conns, peers⟩, told, read⟩ => ?_
  -- Whatever freed the turn, the session is the next one, and nothing more was sent.
  refine ⟨by rw [node], by rw [node], by rw [node]; exact ready.turn,
    by rw [node]; exact ready.idle, by rw [node], by rw [node, ← ready.session],
    by rw [node]; exact ready.outbox, by rw [seats, node], read, ⟨token, conns⟩,
    ⟨_, peers, rfl⟩, told⟩

/-- In a session that was welcomed the next call is delivered. -/
theorem leads_out {to_ : String} {payload : Bytes} (sane : s.Sane) (seated : s.Seated t c k name)
    (fresh : ∀ id, holder s.router.peers id ≠ some c) (addressed : to_ ≠ "")
    (fits : (Request.call to_ payload).frame.Fits) :
    Leads (NetworkAction.By c) (Network.step hello) t fun u => s.Out u c k name to_ payload := by
  obtain ⟨sent, ran, named, up, link, session, waiting, awaiting, _, outbox⟩ :=
    asks_at_once seated.link seated.turn seated.idle seated.writer (.call to_ payload)
  have asks : run (Network.step hello) t ([.proceed, .proceed, .ask k (.call to_ payload),
      .turn k, .see k, .store k, .send k].map .node) = some { t with node := sent } := by
    refine lift_node (fun a member => ?_) ran
    simp only [List.mem_cons, List.not_mem_nil, or_false] at member
    rcases member with rfl | rfl | rfl | rfl | rfl | rfl | rfl <;> exact trivial
  have own : ∀ a ∈ [.proceed, .proceed, .ask k (.call to_ payload), .turn k, .see k, .store k,
      .send k].map NetworkAction.node, NetworkAction.By c a := by
    intro a member
    obtain ⟨b, among, rfl⟩ := List.mem_map.mp member
    simp only [List.mem_cons, List.not_mem_nil, or_false] at among
    rcases among with rfl | rfl | rfl | rfl | rfl | rfl | rfl <;> exact trivial
  refine Leads.trans ⟨_, _, own, asks, rfl⟩ fun middle same => ?_
  subst same
  -- The connection waits for the next frame, which is the call.
  obtain ⟨token, others⟩ := seated.conn
  have conn : t.router.conns c = { takeOver := true, phase := .relaying, id := name, token } := by
    rw [others, Function.update_self]
  have seat : t.seats.lookup t.node.session = some c := by
    rw [seated.seats]
    exact List.lookup_cons_self
  obtain ⟨read, final, reads, goes, peers, told, conns, spawned, writers, queues⟩ :=
    forwards (r := t.router) (c := c) (f := (Request.call to_ payload).frame)
      (by rw [conn]) addressed
  -- Everything else under way was sent in a session before.
  have earlier : ∀ old ∈ t.node.outbox, old.session < t.node.session := by
    intro old member
    rw [seated.outbox] at member
    rw [seated.session]
    exact Nat.lt_succ_of_le (sane.sent old member)
  obtain ⟨node, carried, same⟩ := carries hello (s := { t with node := sent }) outbox
    seat earlier (by rw [conn]) (reread_fits fits) reads
  have forwarded : Network.step hello { t with router := read, node } (.router (.advance c)) =
      some { t with router := final, node } := by
    simp [Network.step, Action.speaksFor, goes]
  -- It is read off the stream, and delivered by the next step.
  have ours : NetworkAction.By c (.carry t.node.outbox.length) := trivial
  have ours' : NetworkAction.By c (.router (.advance c)) := rfl
  refine Leads.cons ours carried (Leads.cons ours' forwarded (Leads.now ?_))
  obtain ⟨p, inserted, holds⟩ := seated.peers
  subst same
  have held : holder final.peers name = some c := by
    rw [peers, inserted, holder, AList.lookup_insert, Option.map_some, holds]
  refine ⟨up, link, named.trans seated.named, seated.seats.trans (by rw [session]),
    fun other => ?_, ?_, ⟨held, ?_⟩, fun d differs => ?_, fun other differs => ?_,
    fun q found => ?_, awaiting, waiting, fun b live => ?_⟩
  · -- The connection is registered under no other id, so nothing more is queued for it.
    have elsewhere : holder t.router.peers to_ ≠ some c := by
      rw [inserted, holder, AList.lookup_insert_ne other]
      exact fresh to_
    have nothing : ∀ q, delivered t.router to_ q c = [] := fun q =>
      if_neg fun both => elsewhere both.1
    have kept : final.queues c = t.router.queues c :=
      (queues c).trans ((congrArg _ (nothing _)).trans (List.append_nil _))
    dsimp only
    rw [kept]
    exact seated.read
  · have writer : (final.conns c).writer = true := (writers c).trans (by rw [conn])
    exact Bool.and_eq_true_iff.mpr ⟨writer, spawned⟩
  · exact (writers c).trans (by rw [conn])
  · dsimp only
    rw [conns d differs, others, Function.update_of_ne differs]
  · dsimp only
    rw [peers, inserted, AList.lookup_insert_ne differs]
  · dsimp only
    rw [told]
    exact seated.told q found
  -- Whoever is registered under the id called was so before, and is sent the frame.
  · have before : t.router.Live to_ b := ⟨peers ▸ live.held, (writers b).symm.trans live.writer⟩
    dsimp only
    rw [queues, conn]
    exact List.mem_append_right _ (mem_delivered.mpr ⟨rfl, before.held, before.writer⟩)

/-- While the node dials: once the router accepts one more connection, the node is registered there,
and its next call is delivered. -/
theorem leads_called {desc : Descriptor} {to_ : String} {payload : Bytes}
    (routed : RouterReachable (label hostname) door s.router) (sane : s.Sane)
    (good : Registrable hello (label hostname) name desc) (dialing : s.node.link = .dialing)
    (waits : (s.router.conns c).phase = .hello) (may : (s.router.conns c).takeOver = true)
    (unused : c ∉ s.own) (idle : (s.node.asks k).phase = .idle) (addressed : to_ ≠ "")
    (fits : (Request.call to_ payload).frame.Fits) :
    Leads (NetworkAction.By c) (Network.step hello) s fun t => s.Out t c k name to_ payload :=
  (leads_welcomed routed sane good dialing waits may unused idle).trans fun _ seated =>
    leads_out sane seated (routed.wellFormed.holds_nothing (by rw [waits]; rfl)) addressed fits

/-- Once the router is done with the session that the node had, and accepts one more connection,
the node is registered there, and its next call is delivered. -/
theorem leads_again {desc : Descriptor} {to_ : String} {payload : Bytes}
    (reached : NetworkReachable hello (label hostname) door id s) (parted : s.Parted)
    (good : Registrable hello (label hostname) name desc)
    (waits : (s.router.conns c).phase = .hello) (may : (s.router.conns c).takeOver = true)
    (unused : c ∉ s.own) (idle : (s.node.asks k).phase = .idle) (addressed : to_ ≠ "")
    (fits : (Request.call to_ payload).frame.Fits) :
    Leads (NetworkAction.By c) (Network.step hello) s fun t =>
      NetworkReachable hello (label hostname) door id t ∧ s.Out t c k name to_ payload := by
  have dials : Leads (NetworkAction.By c) (Network.step hello) s fun t =>
      NetworkReachable hello (label hostname) door id t ∧ s.Alike t ∧ t.node.link = .dialing :=
    parted.leads.imp fun _ _ _ ran there => ⟨reached.run ran, there⟩
  refine dials.trans fun m ⟨reach, alike, dialing⟩ => ?_
  -- The router is as it was, and so is the ask.
  have called := leads_called (s := m) (k := k) (c := c) reach.router reach.sane good dialing
    (by rw [alike.router]; exact waits) (by rw [alike.router]; exact may)
    (by rw [Network.own, alike.seats]; exact unused) ((alike.node.phases k).trans idle) addressed
    fits
  exact called.imp fun _ _ _ ran out => ⟨reach.run ran, out.since alike⟩

/-- From every state of a router and a node in which the node has no session, or one whose
connection the router is done with, whatever the asks were doing, whoever else is registered under
its id, and without a step of anybody else: once the router accepts one more connection, the node is
registered under its id there, and its next call is delivered. -/
theorem call_gets_out {desc : Descriptor} {to_ : String} {payload : Bytes}
    (reached : NetworkReachable hello (label hostname) door id s) (parted : s.Parted)
    (good : Registrable hello (label hostname) name desc)
    (waits : (s.router.conns c).phase = .hello) (may : (s.router.conns c).takeOver = true)
    (unused : c ∉ s.own) (idle : (s.node.asks k).phase = .idle) (addressed : to_ ≠ "")
    (fits : (Request.call to_ payload).frame.Fits) :
    Leads (NetworkAction.By c) (Network.step hello) s fun t => s.Out t c k name to_ payload :=
  (leads_again reached parted good waits may unused idle addressed fits).imp
    fun _ _ _ _ there => there.2

/-- Another connection took the id over, and the node's own was evicted while the answer to its
list was under way: its next call gets out. -/
theorem call_gets_out_taken : ∃ s : Network,
    NetworkReachable someHello (label "dgx") (fun _ => false) "cli/n" s ∧
    holder s.router.peers "cli/dgx/n" = some 1 ∧ s.node.up = true ∧ s.unread.length = 1 ∧
    Leads (NetworkAction.By 2) (Network.step someHello) s fun t =>
      s.Out t 2 7 "cli/dgx/n" "agent/dgx/m" [1, 2, 3] := by
  have ran : (run (Network.step someHello)
      (Network.initial (label "dgx") (fun _ => false) "cli/n")
      (seated 0 ++ [.carry 0, .router (.snapshot 0 [⟨"cli/dgx/n", ⟨0, "", [], []⟩⟩]),
        .router (.advance 0), .write] ++ (joins 1 "cli/n").map .router ++
        [.router (.evicted 0), .router (.advance 0)])).map (fun s => decide
        (holder s.router.peers "cli/dgx/n" = some 1 ∧ s.node.up = true ∧ s.unread.length = 1 ∧
          s.seat = some 0 ∧ (s.router.conns 0).phase.isReturned = true ∧
          (s.router.conns 2).phase.isHello = true ∧ (s.router.conns 2).takeOver = true ∧
          2 ∉ s.own ∧ (s.node.asks 7).phase = .idle)) = some true := by decide +kernel
  obtain ⟨s, ran, facts⟩ := Option.map_eq_some_iff.mp ran
  obtain ⟨taken, up, unread, seat, returned, waits, may, unused, idle⟩ := of_decide_eq_true facts
  have hello : (s.router.conns 2).phase = .hello := by
    cases phase : (s.router.conns 2).phase <;> simp [phase, Phase.isHello] at waits ⊢
  -- The HELLO is stamped with this machine's name.
  have good : Registrable someHello (label "dgx") "cli/dgx/n" ⟨0, "", [], []⟩ :=
    ⟨by decide, rfl, by decide, by decide⟩
  exact ⟨s, ⟨_, ran⟩, taken, up, unread, call_gets_out ⟨_, ran⟩ (.inr ⟨0, seat, returned⟩) good
    hello may unused idle (by decide) (by decide)⟩

end Zapd
