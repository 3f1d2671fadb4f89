import Zapd.Door.Authority
import Zapd.Node.Authenticity
import Zapd.Node.Carried
import Zapd.Router.Forwarding
import Zapd.Router.Rejoin

/-! A node has the id it was registered under, and sends nothing before it was registered. -/

namespace Zapd

open Utf8

variable {hello : Frame} {host : String} {door : ConnId → Bool} {id : String} {s s' : Network}

/-- The id that the HELLO of a node is registered under. -/
def SeatedAs (hello : Frame) (host name : String) : Prop :=
  ∃ g, hello.reread = .ok (some g) ∧ stamp g.from_ host = some name

/-- No frame that the session reads is so long that its length wraps. -/
def Unwrapped (s : Network) : NetworkAction → Prop
  | .hear => (s.next.all fun q => q.frame.bodyLength < 2 ^ 32) = true
  | .hearRefusal i => ((s.refusal i).all fun g => g.bodyLength < 2 ^ 32) = true
  | _ => True

instance (s : Network) : (a : NetworkAction) → Decidable (Unwrapped s a)
  | .hear | .hearRefusal _ => inferInstanceAs (Decidable (_ = true))
  | .router _ | .node _ | .dial _ | .greet _ | .carry _ | .write | .close => .isTrue trivial

/-- A connection that waits for its HELLO has no id. -/
theorem RouterReachable.unnamed {s : Router} (reached : RouterReachable host door s) {c : ConnId}
    (waiting : (s.conns c).phase = .hello) : (s.conns c).id = "" := by
  rw [reached.pristine waiting]

/-- The id of a connection is set by the HELLO it reads, and by nothing else. -/
theorem step_named {s s' : Router} {a : Action} (enabled : s.step a = some s') (c : ConnId) :
    (s'.conns c).id = (s.conns c).id ∨ ∃ f, a = .read c (.ok (some f)) ∧
      (s.conns c).phase = .hello ∧ stamp f.from_ s.host = some (s'.conns c).id := by
  by_cases self : c = a.conn
  · subst self
    -- A connection that acts reads a frame, or keeps what it has read.
    obtain ⟨t, conn, acts, rfl⟩ := step_acts enabled
    simp only [Function.update_self]
    by_cases reads : ∃ f, a = .read a.conn (.ok (some f))
    · obtain ⟨f, same⟩ := reads
      rw [same] at acts
      rcases acts.reads_frame.2 with ⟨waiting, _, kept | stamped⟩ | ⟨_, _, kept⟩
      · exact .inl kept
      · exact .inr ⟨f, same, waiting, stamped⟩
      · exact .inl kept
    · exact .inl (acts.keeps_received fun f same => reads ⟨f, same⟩).2.1
  · exact .inl (by rw [step_other enabled self])

/-- What a step of a node does that neither dials nor hears anything: it keeps its id and session,
takes frames only for the session that was welcomed, and sends only for the one that takes them. -/
theorem node_quiet {τ : Type} {n n' : Node τ} {a : NodeAction τ} (enabled : n.step a = some n')
    (notDial : a ≠ .dial) (unheard : ∀ f origin, a ≠ .receive f origin) :
    n'.id = n.id ∧ n'.session = n.session ∧
      (n'.link = .naming ∨ n'.tx = some n'.session →
        n.link = .naming ∨ n.tx = some n.session) ∧
      ∀ sent ∈ n'.outbox, sent ∈ n.outbox ∨ n.tx = some sent.session := by
  -- Emptying the slot leaves the connection and the channels as they are.
  have vacated : ∀ reply : Reply τ, (n.vacate reply).id = n.id ∧
      (n.vacate reply).session = n.session ∧ (n.vacate reply).link = n.link ∧
      (n.vacate reply).tx = n.tx := by
    intro reply
    obtain ⟨tx, link, session, _⟩ := vacate_session (n := n) reply
    refine ⟨?_, session, link, tx⟩
    unfold Node.vacate
    split <;> rfl
  cases node_moves enabled with
  | dialed _ => exact absurd rfl notDial
  | received _ _ => exact absurd rfl (unheard _ _)
  -- A send goes to the session whose writer takes frames.
  | @sent k session _ taken _ =>
    refine ⟨rfl, rfl, id, fun sent member => ?_⟩
    rcases List.mem_append.mp member with old | new
    · exact .inl old
    · rw [List.mem_singleton.mp new]
      exact .inr taken
  -- A session that was welcomed takes frames from now on.
  | named naming => exact ⟨rfl, rfl, fun _ => .inl naming, fun _ => .inl⟩
  -- Storing and clearing empty the slot, and that is all.
  | stored _ =>
    obtain ⟨name, session, link, tx⟩ := vacated .closed
    refine ⟨name, session, fun busy => ?_, fun _ member => .inl (by simpa using member)⟩
    exact busy.imp (link.symm.trans ·) fun taken =>
      tx.symm.trans (taken.trans (congrArg some session))
  | cleared _ =>
    obtain ⟨name, session, link, tx⟩ := vacated .closed
    refine ⟨name, session, fun busy => ?_, fun _ member => .inl (by simpa using member)⟩
    exact busy.imp (link.symm.trans ·) fun taken =>
      tx.symm.trans (taken.trans (congrArg some session))
  | failed _ =>
    obtain ⟨name, session, _, tx⟩ := vacated (.sent (.error routerChanged) none)
    refine ⟨name, session, fun busy => ?_, fun _ member => .inl (by simpa using member)⟩
    exact .inr (tx.symm.trans ((busy.resolve_left nofun).trans (congrArg some session)))
  -- What comes after keeps the channel, until it is taken away.
  | raised _ => exact ⟨rfl, rfl, fun busy => .inr (busy.resolve_left nofun), fun _ => .inl⟩
  | taken _ => exact ⟨rfl, rfl, fun busy => absurd (busy.resolve_left nofun) nofun, fun _ => .inl⟩
  | lowered _ => exact ⟨rfl, rfl, fun busy => .inr (busy.resolve_left nofun), fun _ => .inl⟩
  | hungUp _ => exact ⟨rfl, rfl, fun busy => .inr (busy.resolve_left nofun), fun _ => .inl⟩
  | asked | turned | saw | missed | finished | orphaned | left | dropped | writerFailed =>
    exact ⟨rfl, rfl, id, fun _ => .inl⟩

/-- The invariant of a network about who its node is. -/
structure Network.Registered (hello : Frame) (host id : String) (s : Network) : Prop where
  carried : s.node.Carried
  coherent : s.node.Coherent
  /-- The connections of the node have the id its HELLO is registered under, once they have one. -/
  own : ∀ c ∈ s.own, (s.router.conns c).id = "" ∨ SeatedAs hello host (s.router.conns c).id
  named : s.node.id = id ∨ SeatedAs hello host s.node.id
  /-- A session that was welcomed has a connection that was registered under the node's id. -/
  seated : s.node.link = .naming ∨ s.node.tx = some s.node.session →
    ∃ c, s.seat = some c ∧ (s.node.id, c) ∈ s.router.claims
  sent : ∀ sent ∈ s.node.outbox, sent.session ≤ s.node.session ∧ ∃ c name,
    s.seats.lookup sent.session = some c ∧ (name, c) ∈ s.router.claims ∧
      SeatedAs hello host name

/-- Nobody has connected yet. -/
theorem Network.Registered.initial :
    (Network.initial host door id).Registered hello host id where
  carried := .join id
  coherent := .join id
  own _ member := by cases member
  named := .inl rfl
  seated busy := by rcases busy with naming | taken <;> contradiction
  sent _ member := by cases member

/-- A connection of the node that was registered has the id its HELLO is registered under. -/
theorem Network.Registered.claimed (registered : s.Registered hello host id)
    (reached : NetworkReachable hello host door id s) {c : ConnId} (own : c ∈ s.own) {name : String}
    (claim : (name, c) ∈ s.router.claims) : SeatedAs hello host name := by
  -- A claim is made under the connection's own id, which is not empty.
  have wf := reached.router.wellFormed
  have same := (wf.claimed name c claim).1
  obtain ⟨proposed, stamped⟩ := wf.genuine name c claim
  rcases registered.own c own with empty | seated
  · exact absurd (same.symm.trans empty) (stamp_ne_empty stamped)
  · exact same ▸ seated

/-- The router goes on, and nothing that was registered is forgotten. -/
theorem Network.Registered.routed (registered : s.Registered hello host id)
    (reached : NetworkReachable hello host door id s) {a : Action} {router : Router}
    {outbox : List Sent} (fewer : outbox ⊆ s.node.outbox)
    (stepped : s.router.step a = some router)
    (greets : ∀ c f, a = .read c (.ok (some f)) → c ∈ s.own →
      (s.router.conns c).phase = .hello → hello.reread = .ok (some f)) :
    Network.Registered hello host id { s with router, node := { s.node with outbox } } where
  carried := ⟨registered.carried.writer, registered.carried.stored, registered.carried.queued,
    registered.carried.carried⟩
  coherent := registered.coherent.congr rfl rfl rfl
  own c mine := by
    rcases step_named stepped c with same | ⟨f, reads, waiting, stamped⟩
    · rw [show (Network.router { s with router, node := { s.node with outbox } }) = router from rfl,
        same]
      exact registered.own c mine
    · -- What the connection reads first is the node's HELLO.
      rw [reached.router.host] at stamped
      exact .inr ⟨f, greets c f reads mine waiting, stamped⟩
  named := registered.named
  seated busy := by
    obtain ⟨c, seat, claim⟩ := registered.seated busy
    exact ⟨c, seat, step_claims stepped claim⟩
  sent sent member := by
    obtain ⟨earlier, c, name, seat, claim, seated⟩ := registered.sent sent (fewer member)
    exact ⟨earlier, c, name, seat, step_claims stepped claim, seated⟩

/-- The node goes on by itself, or its session ends. -/
theorem Network.Registered.quiet (registered : s.Registered hello host id)
    (reached : NetworkReachable hello host door id s) {a : NodeAction Queued} {node : Node Queued}
    {heard : Nat} (stepped : s.node.step a = some node) (notDial : a ≠ .dial)
    (unheard : ∀ f origin, a ≠ .receive f origin) :
    Network.Registered hello host id { s with node, heard } := by
  -- The id, the session and its seat are what they were.
  obtain ⟨name, session, busier, outbox⟩ := node_quiet stepped notDial unheard
  have own : Network.own { s with node, heard } = s.own := rfl
  have seat : Network.seat { s with node, heard } = s.seat := by
    unfold Network.seat
    rw [session]
  refine ⟨registered.carried.step registered.coherent stepped, registered.coherent.step stepped,
    registered.own, ?_, fun busy => ?_, fun sent member => ?_⟩
  · rw [name]
    exact registered.named
  · rw [seat, name]
    exact registered.seated (busier busy)
  · rw [session]
    rcases outbox sent member with old | taken
    · exact registered.sent sent old
    · -- Only the current session takes frames, and it was welcomed.
      have current := (registered.carried.writer _ taken).1
      rw [current] at taken ⊢
      obtain ⟨c, found, claim⟩ := registered.seated (.inr taken)
      exact ⟨Nat.le_refl _, c, _, found, claim,
        registered.claimed reached (seat_own found) claim⟩

/-- A new session begins on a connection that nobody has used, and no session takes frames. -/
theorem Network.Registered.dialed (registered : s.Registered hello host id)
    (reached : NetworkReachable hello host door id s) {c : ConnId} {node : Node Queued}
    (waiting : (s.router.conns c).phase = .hello) (stepped : s.node.step .dial = some node) :
    Network.Registered hello host id
      { s with node, seats := (node.session, c) :: s.seats, written := 0, heard := 0 } := by
  have carried := registered.carried.step registered.coherent stepped
  have coherent := registered.coherent.step stepped
  cases node_moves stepped with
  | dialed dialing =>
    refine ⟨carried, coherent, fun d member => ?_, registered.named, fun busy => ?_,
      fun sent member => ?_⟩
    -- The new connection has no id yet.
    · rcases List.mem_cons.mp member with rfl | old
      · exact .inl (reached.router.unnamed waiting)
      · exact registered.own d old
    · -- Before the session that is over, nothing was left to take frames.
      have taken : s.node.tx = some (s.node.session + 1) := busy.resolve_left nofun
      have serves := (registered.carried.writer _ taken).2
      rw [dialing] at serves
      cases serves
    -- What was sent before was sent in another session.
    · obtain ⟨earlier, d, name, seat, claim, seated⟩ := registered.sent sent member
      refine ⟨Nat.le_succ_of_le earlier, d, name, ?_, claim, seated⟩
      have other : (sent.session == s.node.session + 1) = false :=
        beq_eq_false_iff_ne.mpr (Nat.lt_succ_of_le earlier).ne
      simp only [List.lookup_cons, other]
      exact seat

/-- A frame is dispatched; if it is a WELCOME, then one for an id of the session's connection. -/
theorem Network.Registered.dispatched (registered : s.Registered hello host id)
    (reached : NetworkReachable hello host door id s) {f : Frame} {origin : Option Queued}
    {node : Node Queued} {heard : Nat} (stepped : s.node.step (.receive f origin) = some node)
    (welcomed : f.typ = WELCOME → ∃ c, s.seat = some c ∧ (f.to_, c) ∈ s.router.claims) :
    Network.Registered hello host id { s with node, heard } := by
  have carried := registered.carried.step registered.coherent stepped
  have coherent := registered.coherent.step stepped
  cases node_moves stepped with
  | received reading dispatched =>
    cases dispatched with
    | welcome typ =>
      -- The node goes by the id that its connection was registered under.
      obtain ⟨c, seat, claim⟩ := welcomed typ
      exact ⟨carried, coherent, registered.own,
        .inr (registered.claimed reached (seat_own seat) claim), fun _ => ⟨c, seat, claim⟩,
        registered.sent⟩
    | @settled who k result settles taken =>
      -- Settling an ask changes neither the session nor the id.
      obtain ⟨tx, link, session, _⟩ := vacate_session (n := s.node) (.sent result origin)
      have name : (s.node.vacate (.sent result origin)).id = s.node.id := by
        unfold Node.vacate
        split <;> rfl
      refine ⟨carried, coherent, registered.own, ?_, fun busy => ?_, fun sent member => ?_⟩
      · rw [name]
        exact registered.named
      · dsimp only at busy
        rw [link, tx, session] at busy
        obtain ⟨c, seat, claim⟩ := registered.seated busy
        refine ⟨c, ?_, name ▸ claim⟩
        rw [← seat]
        unfold Network.seat
        rw [session]
      · rw [vacate_outbox] at member
        rw [session]
        exact registered.sent sent member
    | ignored => exact ⟨carried, coherent, registered.own, registered.named, registered.seated,
        registered.sent⟩

/-- What a step that meets the guard does: it keeps the node registered. -/
theorem Network.Registered.step (registered : s.Registered hello host id)
    (reached : NetworkReachable hello host door id s) {a : NetworkAction}
    (unwrapped : Unwrapped s a) (enabled : s.step hello a = some s') :
    s'.Registered hello host id := by
  cases a with
  | router r =>
    obtain ⟨silent, moved⟩ := Option.ite_none_left_eq_some.mp enabled
    obtain ⟨router, stepped, rfl⟩ := Option.map_eq_some_iff.mp moved
    refine registered.routed reached (List.Subset.refl _) stepped fun c f same own _ => ?_
    -- Nobody else speaks on the node's connections.
    subst same
    simp [Action.speaksFor, own] at silent
  | node m =>
    obtain ⟨inside, moved⟩ := Option.ite_none_left_eq_some.mp enabled
    obtain ⟨node, stepped, rfl⟩ := Option.map_eq_some_iff.mp moved
    -- Neither a dial nor a frame comes this way.
    refine registered.quiet reached stepped (fun same => ?_) fun f origin same => ?_
    all_goals
      subst same
      simp [NodeAction.external] at inside
  | dial c =>
    obtain ⟨⟨_, isHello, _⟩, moved⟩ := Option.ite_none_right_eq_some.mp enabled
    obtain ⟨node, stepped, rfl⟩ := Option.map_eq_some_iff.mp moved
    refine registered.dialed reached ?_ stepped
    -- Of the phases only one waits for a HELLO.
    cases phase : (s.router.conns c).phase <;> simp [phase, Phase.isHello] at isHello ⊢
  | greet c =>
    obtain ⟨_, moved⟩ := Option.ite_none_right_eq_some.mp enabled
    obtain ⟨router, stepped, rfl⟩ := Option.map_eq_some_iff.mp moved
    -- The HELLO that is read is the node's own.
    exact registered.routed reached (List.Subset.refl _) stepped fun d f same _ _ =>
      (Action.read.inj same).2
  | carry i =>
    obtain ⟨sent, _, moved⟩ := Option.bind_eq_some_iff.mp enabled
    obtain ⟨c, _, moved⟩ := Option.bind_eq_some_iff.mp moved
    obtain ⟨⟨relaying, _⟩, moved⟩ := Option.ite_none_right_eq_some.mp moved
    obtain ⟨router, stepped, rfl⟩ := Option.map_eq_some_iff.mp moved
    refine registered.routed reached (List.eraseIdx_subset ..) stepped fun d f same _ waiting => ?_
    -- A connection that carries requests is past its HELLO.
    rw [(Action.read.inj same).1, waiting] at relaying
    cases relaying
  | write =>
    obtain ⟨c, _, moved⟩ := Option.bind_eq_some_iff.mp enabled
    obtain ⟨_, moved⟩ := Option.ite_none_right_eq_some.mp moved
    cases moved
    -- What the writer task does changes neither the node nor the router.
    exact ⟨registered.carried, registered.coherent, registered.own, registered.named,
      registered.seated, registered.sent⟩
  | hear =>
    obtain ⟨q, next, moved⟩ := Option.bind_eq_some_iff.mp enabled
    obtain ⟨node, read, rfl⟩ := Option.map_eq_some_iff.mp moved
    obtain ⟨c, seat, member⟩ := next_mem next
    have narrow : q.frame.bodyLength < 2 ^ 32 := by simpa [Unwrapped, next] using unwrapped
    rcases sessionRead_spec read with ⟨f, whole, stepped⟩ | ended
    · refine registered.dispatched reached stepped fun _ => ⟨c, seat, ?_⟩
      -- Whoever wrote the frame, it is addressed to the id of the connection it came by.
      have traced := reached.router.traced member
      rw [reread_eq narrow whole, traced.addressed]
      exact traced.claimed
    · exact registered.quiet reached ended (by simp) (by simp)
  | hearRefusal i =>
    obtain ⟨g, found, moved⟩ := Option.bind_eq_some_iff.mp enabled
    obtain ⟨node, read, rfl⟩ := Option.map_eq_some_iff.mp moved
    obtain ⟨c, _, written⟩ := Option.bind_eq_some_iff.mp found
    have narrow : g.bodyLength < 2 ^ 32 := by simpa [Unwrapped, found] using unwrapped
    rcases sessionRead_spec read with ⟨f, whole, stepped⟩ | ended
    · refine registered.dispatched reached stepped fun typ => ?_
      -- A refusal is an ERROR, and never a WELCOME.
      have refusal := ((reached.router.refuses c).1 g (List.mem_of_getElem? written)).1
      rw [reread_eq narrow whole, refusal] at typ
      cases typ
    · exact registered.quiet reached ended (by simp) (by simp)
  | close =>
    obtain ⟨c, _, moved⟩ := Option.bind_eq_some_iff.mp enabled
    obtain ⟨_, moved⟩ := Option.ite_none_right_eq_some.mp moved
    obtain ⟨node, ended, rfl⟩ := Option.map_eq_some_iff.mp moved
    exact registered.quiet reached ended (by simp) (by simp)

/-- Whatever other nodes send, WELCOMEs of their own included, a node goes by the id it proposed or
the one its HELLO was registered under; while a session takes its frames, the connection of that
session was registered under this id; and no request leaves it on any other connection. -/
theorem node_registered (reached : Transition.GuardedReachable Unwrapped (Network.step hello)
    (Network.initial host door id) s) :
    (s.node.id = id ∨ SeatedAs hello host s.node.id) ∧
    (∀ session, s.node.tx = some session →
      ∃ c, s.seat = some c ∧ (s.node.id, c) ∈ s.router.claims) ∧
    (∀ sent ∈ s.node.outbox, ∃ c name, s.seats.lookup sent.session = some c ∧
      (name, c) ∈ s.router.claims ∧ SeatedAs hello host name) := by
  have registered : s.Registered hello host id := by
    refine reached.induction .initial ?_
    intro state action next reach unwrapped registered enabled
    exact registered.step reach unwrapped enabled
  refine ⟨registered.named, fun session taken => ?_, fun sent member => ?_⟩
  -- Only the current session takes frames.
  · obtain ⟨rfl, _⟩ := registered.carried.writer session taken
    exact registered.seated (.inr taken)
  · obtain ⟨_, c, name, seat, claim, seated⟩ := registered.sent sent member
    exact ⟨c, name, seat, claim, seated⟩

/-- The steps by which another node welcomes the node before the router does. -/
def welcomedEarly : List NetworkAction :=
  (joins 1 "agent/m").map .router ++
    [.dial 0, .greet 0, .router (.advance 0), .router (.advance 0),
      .router (.read 1 (.ok (some (Frame.new WELCOME "" "cli/dgx/n" [])))), .router (.advance 1),
      .router (.advance 0), .write, .hear, .node .proceed]

/-- A node that another node welcomed first goes by its own id, and is registered. -/
theorem node_registered_early : ∃ s, Transition.run (Network.step someHello)
      (Network.initial "dgx" (fun _ => false) "cli/n") welcomedEarly = some s ∧
    s.node.id = "cli/dgx/n" ∧ ∃ c, s.seat = some c ∧ (s.node.id, c) ∈ s.router.claims := by
  -- The other node is heard before the router's own WELCOME, and both name the same id.
  have unwrapped : Transition.Guarded Unwrapped (Network.step someHello)
      (Network.initial "dgx" (fun _ => false) "cli/n") welcomedEarly := by decide +kernel
  have ran : (Transition.run (Network.step someHello)
      (Network.initial "dgx" (fun _ => false) "cli/n") welcomedEarly).map
        (fun s => (s.node.id, s.node.tx)) = some ("cli/dgx/n", some 1) := by decide +kernel
  obtain ⟨s, ran, outcome⟩ := Option.map_eq_some_iff.mp ran
  obtain ⟨named, taken⟩ := Prod.mk.inj outcome
  exact ⟨s, ran, named, (node_registered ⟨_, unwrapped, ran⟩).2.1 1 taken⟩

end Zapd
