import Zapd.Codec.FrameLaws
import Zapd.Node.Invariant
import Zapd.Router.Routing

/-! A node and the router it dials: every session is served by a connection of the router. -/

namespace Zapd

open Utf8

/--
What `Frame::read` makes of a frame that was written.

Where the length of the frame wrapped, what is left of its encoding is dropped.
-/
def Frame.reread (f : Frame) : Except Error (Option Frame) :=
  (Frame.read f.encode).map fun taken => taken.map Prod.fst

/-- A frame is read as it was written, unless it is so long that its length wraps. -/
theorem reread_eq {f g : Frame} (unwrapped : f.bodyLength < 2 ^ 32)
    (read : f.reread = .ok (some g)) : g = f := by
  unfold Frame.reread at read
  cases taken : Frame.read f.encode with
  | error e =>
    rw [taken] at read
    cases read
  | ok outcome =>
    rw [taken] at read
    cases outcome with
    | none => cases read
    | some p =>
      obtain ⟨h, rest⟩ := p
      cases read
      -- The encoding is all there is to read, and it fits since it was read.
      rw [← List.append_nil f.encode] at taken
      rw [read_encode (read_encode_fits unwrapped taken)] at taken
      cases taken
      rfl

/-- A router, a node, and the connections that served the node's sessions. -/
structure Network where
  router : Router
  node : Node Queued
  /-- The connection of every session so far, the latest first. -/
  seats : List (SessionId × ConnId) := []
  /-- How many frames of its connection's channel are written to the session's stream. -/
  written : Nat := 0
  /-- How many of them the session has read. -/
  heard : Nat := 0

/-- Nobody has connected to the router yet. -/
def Network.initial (host : String) (door : ConnId → Bool) (id : String) : Network :=
  { router := Router.initial host door, node := Node.join id }

/-- The connections of the node's sessions. -/
def Network.own (s : Network) : List ConnId := s.seats.map Prod.snd

/-- The connection that serves the current session. -/
def Network.seat (s : Network) : Option ConnId := s.seats.lookup s.node.session

/-- The frames on its stream that the session has not read. -/
def Network.unread (s : Network) : List Queued :=
  match s.seat with
  | none => []
  | some c => ((s.router.queues c).take s.written).drop s.heard

/-- The next frame that the session reads. -/
def Network.next (s : Network) : Option Queued := s.unread.head?

/-- A refusal that was written straight to the session's stream. -/
def Network.refusal (s : Network) (i : Nat) : Option Frame :=
  s.seat.bind fun c => (s.router.conns c).socket[i]?

/-- The task waits for its HELLO. -/
def Phase.isHello : Phase → Bool
  | .hello => true
  | _ => false

/-- The task waits for the next frame of the loop. -/
def Phase.isRelaying : Phase → Bool
  | .relaying => true
  | _ => false

/-- `handle` is over. -/
def Phase.isReturned : Phase → Bool
  | .returned _ => true
  | _ => false

/-- The writer task waits for the next frame of the channel, or writes one. -/
def Conn.writes (conn : Conn) : Bool := conn.writer && conn.phase.spawned

/-- A step of the network: of the router, of the node, or of the streams between them. -/
inductive NetworkAction
  | router (a : Action)
  /-- What the node does by itself; `.hangUp` is the end of a session whose stream breaks. -/
  | node (a : NodeAction Queued)
  /-- The node's next session is served by this connection. -/
  | dial (c : ConnId)
  /-- The task of one of the node's connections reads the HELLO. -/
  | greet (c : ConnId)
  /-- The task of one of the node's connections reads the next request. -/
  | carry (i : Nat)
  /-- The writer task of the session's connection writes the next frame of the channel. -/
  | write
  /-- The session reads the next frame on its stream. -/
  | hear
  /-- The session reads a refusal. -/
  | hearRefusal (i : Nat)
  /-- The session reads the end of its stream, or a frame that the end has cut short. -/
  | close

/-- A frame is read off one of these connections otherwise than the node wrote it. -/
def Action.speaksFor (own : List ConnId) : Action → Bool
  | .read c (.ok (some _)) => c ∈ own
  | _ => false

/-- A step of the node that another action of the network stands for. -/
def NodeAction.external : NodeAction Queued → Bool
  | .dial | .receive .. => true
  | _ => false

/-- What a session does with what it read. -/
def Network.sessionRead (s : Network) (read : Except Error (Option Frame))
    (origin : Option Queued) : Option (Node Queued) :=
  match read with
  | .ok (some f) => s.node.step (.receive f origin)
  | .ok none | .error _ => s.node.step .hangUp

/-- One step, if it is enabled; `hello` is what the node says first in every session. -/
def Network.step (hello : Frame) (s : Network) : NetworkAction → Option Network
  -- The frames of the node's own connections are the ones it sent.
  | .router a =>
    if a.speaksFor s.own then none
    else (s.router.step a).map fun router => { s with router }
  -- A session that breaks off for reasons of its own stream ends by `.hangUp`.
  | .node a => if a.external then none else (s.node.step a).map fun node => { s with node }
  -- A node comes in by the socket, so its connection may take over.
  | .dial c =>
    if (s.router.conns c).takeOver ∧ (s.router.conns c).phase.isHello ∧ c ∉ s.own then
      (s.node.step .dial).map fun node =>
        { s with node, seats := (node.session, c) :: s.seats, written := 0, heard := 0 }
    else none
  -- The HELLO is written straight to the stream, before the channel is there.
  | .greet c =>
    if c ∈ s.own ∧ (s.router.conns c).phase.isHello then
      (s.router.step (.read c hello.reread)).map fun router => { s with router }
    else none
  | .carry i =>
    s.node.outbox[i]?.bind fun sent =>
      (s.seats.lookup sent.session).bind fun c =>
        -- Each session's frames are read in the order sent.
        if (s.router.conns c).phase.isRelaying ∧
            (s.node.outbox.take i).all (·.session ≠ sent.session) then
          (s.router.step (.read c sent.frame.reread)).map fun router =>
            { s with router, node := { s.node with outbox := s.node.outbox.eraseIdx i } }
        else none
  | .write =>
    s.seat.bind fun c =>
      -- A writer task that has failed, or was aborted, writes nothing more.
      if (s.router.conns c).writes ∧ s.written < (s.router.queues c).length then
        some { s with written := s.written + 1 }
      else none
  -- Only what a writer task has written is on the stream.
  | .hear =>
    s.next.bind fun q =>
      (s.sessionRead q.frame.reread (some q)).map fun node =>
        { s with node, heard := s.heard + 1 }
  -- A refusal is written past the channel by the task that refuses.
  | .hearRefusal i =>
    (s.refusal i).bind fun g =>
      (s.sessionRead g.reread none).map fun node => { s with node }
  | .close =>
    s.seat.bind fun c =>
      -- What was written before `handle` returned is read first; a refusal settles nothing.
      if (s.router.conns c).phase.isReturned ∧ s.next = none then
        (s.node.step .hangUp).map fun node => { s with node }
      else none

/-- A step of the network, by what it does to the router, to the node and to the seats. -/
inductive NetworkMoves (s : Network) : NetworkAction → Network → Prop
  | routed {a : NetworkAction} {r : Action} {router : Router} :
      s.router.step r = some router → (∀ c, r = .advance c → a = .router (.advance c)) →
      NetworkMoves s a { s with router }
  | carried {i : Nat} {c : ConnId} {read : Except Error (Option Frame)} {router : Router}
      {outbox : List Sent} : s.router.step (.read c read) = some router →
      NetworkMoves s (.carry i) { s with router, node := { s.node with outbox } }
  | moved {a : NodeAction Queued} {node : Node Queued} : s.node.step a = some node →
      (∀ f origin, a ≠ .receive f origin) → NetworkMoves s (.node a) { s with node }
  | dialed {c : ConnId} {node : Node Queued} : s.node.step .dial = some node →
      (s.router.conns c).phase = .hello →
      NetworkMoves s (.dial c)
        { s with node, seats := (node.session, c) :: s.seats, written := 0, heard := 0 }
  | wrote {c : ConnId} : s.seat = some c → (s.router.conns c).writes = true →
      s.written < (s.router.queues c).length →
      NetworkMoves s .write { s with written := s.written + 1 }
  | heard {q : Queued} {c : ConnId} {f : Frame} {node : Node Queued} : s.next = some q →
      c ∈ s.own → q ∈ s.router.queues c → q.frame.reread = .ok (some f) →
      s.node.step (.receive f (some q)) = some node →
      NetworkMoves s .hear { s with node, heard := s.heard + 1 }
  | refused {i : Nat} {g f : Frame} {c : ConnId} {node : Node Queued} : s.refusal i = some g →
      g ∈ (s.router.conns c).socket → g.reread = .ok (some f) →
      s.node.step (.receive f none) = some node →
      NetworkMoves s (.hearRefusal i) { s with node }
  | hungUp {a : NetworkAction} {node : Node Queued} {heard : Nat} :
      s.node.step .hangUp = some node → NetworkMoves s a { s with node, heard }

/-- What a session does with what it read is to dispatch a frame or to end. -/
theorem sessionRead_spec {s : Network} {read : Except Error (Option Frame)}
    {origin : Option Queued} {node : Node Queued} (moved : s.sessionRead read origin = some node) :
    (∃ f, read = .ok (some f) ∧ s.node.step (.receive f origin) = some node) ∨
      s.node.step .hangUp = some node := by
  unfold Network.sessionRead at moved
  split at moved
  · exact .inl ⟨_, rfl, moved⟩
  · exact .inr moved
  -- An end of the stream and an error both end the session.
  · exact .inr moved

/-- The connection of the current session is one of the node's. -/
theorem seat_own {s : Network} {c : ConnId} (seat : s.seat = some c) : c ∈ s.own := by
  -- A seat that is looked up is in the list of seats.
  obtain ⟨before, after, seats, _⟩ := List.lookup_eq_some_iff.mp seat
  rw [Network.own, seats]
  simp

/-- What is on the stream was queued on the channel of the current session's connection. -/
theorem next_mem {s : Network} {q : Queued} (next : s.next = some q) :
    ∃ c, s.seat = some c ∧ q ∈ s.router.queues c := by
  -- The stream is a part of the channel: what was written and is not yet read.
  have member := List.mem_of_mem_head? (Option.mem_def.mpr next)
  unfold Network.unread at member
  cases seat : s.seat with
  | none =>
    rw [seat] at member
    cases member
  | some c =>
    rw [seat] at member
    exact ⟨c, rfl, List.mem_of_mem_take (List.mem_of_mem_drop member)⟩

/-- Every enabled step is one of the cases. -/
theorem network_moves {hello : Frame} {s s' : Network} {a : NetworkAction}
    (enabled : s.step hello a = some s') : NetworkMoves s a s' := by
  cases a with
  | router r =>
    obtain ⟨_, moved⟩ := Option.ite_none_left_eq_some.mp enabled
    obtain ⟨router, stepped, rfl⟩ := Option.map_eq_some_iff.mp moved
    exact .routed stepped fun c same => by rw [same]
  | node m =>
    obtain ⟨inside, moved⟩ := Option.ite_none_left_eq_some.mp enabled
    obtain ⟨node, stepped, rfl⟩ := Option.map_eq_some_iff.mp moved
    -- What the node receives comes over a stream, by another action.
    refine .moved stepped fun f origin same => ?_
    subst same
    simp [NodeAction.external] at inside
  | dial c =>
    obtain ⟨⟨_, hello, _⟩, moved⟩ := Option.ite_none_right_eq_some.mp enabled
    obtain ⟨node, stepped, rfl⟩ := Option.map_eq_some_iff.mp moved
    refine .dialed stepped ?_
    -- Of the phases only one waits for a HELLO.
    cases phase : (s.router.conns c).phase <;> simp [phase, Phase.isHello] at hello ⊢
  -- A HELLO that is read is a step of the router alone.
  | greet c =>
    obtain ⟨_, moved⟩ := Option.ite_none_right_eq_some.mp enabled
    obtain ⟨router, stepped, rfl⟩ := Option.map_eq_some_iff.mp moved
    exact .routed stepped nofun
  | carry i =>
    obtain ⟨sent, _, moved⟩ := Option.bind_eq_some_iff.mp enabled
    obtain ⟨c, _, moved⟩ := Option.bind_eq_some_iff.mp moved
    obtain ⟨_, moved⟩ := Option.ite_none_right_eq_some.mp moved
    obtain ⟨router, stepped, rfl⟩ := Option.map_eq_some_iff.mp moved
    -- Which session sent the frame and how it was read does not matter here.
    exact .carried stepped
  -- What is written was queued, and its connection is the session's.
  | write =>
    obtain ⟨c, seat, moved⟩ := Option.bind_eq_some_iff.mp enabled
    obtain ⟨⟨writes, more⟩, moved⟩ := Option.ite_none_right_eq_some.mp moved
    cases moved
    exact .wrote seat writes more
  | hear =>
    obtain ⟨q, next, moved⟩ := Option.bind_eq_some_iff.mp enabled
    obtain ⟨node, read, rfl⟩ := Option.map_eq_some_iff.mp moved
    obtain ⟨c, seat, member⟩ := next_mem next
    -- The frame comes off the channel of the current session's connection.
    rcases sessionRead_spec read with ⟨f, whole, stepped⟩ | ended
    · exact .heard next (seat_own seat) member whole stepped
    · exact .hungUp ended
  | hearRefusal i =>
    obtain ⟨g, found, moved⟩ := Option.bind_eq_some_iff.mp enabled
    obtain ⟨node, read, rfl⟩ := Option.map_eq_some_iff.mp moved
    obtain ⟨c, seat, at_⟩ := Option.bind_eq_some_iff.mp found
    -- The refusal comes off the stream of the current session's connection.
    rcases sessionRead_spec read with ⟨f, whole, stepped⟩ | ended
    · exact .refused found (List.mem_of_getElem? at_) whole stepped
    · exact .hungUp ended
  -- The end of the stream ends the session.
  | close =>
    obtain ⟨c, _, moved⟩ := Option.bind_eq_some_iff.mp enabled
    obtain ⟨_, moved⟩ := Option.ite_none_right_eq_some.mp moved
    obtain ⟨node, ended, rfl⟩ := Option.map_eq_some_iff.mp moved
    exact .hungUp ended

/-- What a step does to the router: nothing, or one step of its own. -/
theorem network_router {hello : Frame} {s s' : Network} {a : NetworkAction}
    (enabled : s.step hello a = some s') :
    s'.router = s.router ∨ ∃ r, s.router.step r = some s'.router ∧
      ∀ c, r = .advance c → a = .router (.advance c) := by
  cases network_moves enabled with
  -- A HELLO and a request that are read are steps of the router too.
  | routed stepped advances => exact .inr ⟨_, stepped, advances⟩
  | carried stepped => exact .inr ⟨_, stepped, nofun⟩
  -- The other steps are the node's alone.
  | moved _ _ => exact .inl rfl
  | dialed _ _ => exact .inl rfl
  | wrote _ _ _ => exact .inl rfl
  | heard _ _ _ _ _ => exact .inl rfl
  | refused _ _ _ _ => exact .inl rfl
  | hungUp _ => exact .inl rfl

/-- A state some interleaving of the router's connections and the node reaches. -/
def NetworkReachable (hello : Frame) (host : String) (door : ConnId → Bool) (id : String)
    (s : Network) : Prop :=
  Transition.Reachable (Network.step hello) (Network.initial host door id) s

/-- Every router of a reachable network is a router that connections alone can reach. -/
theorem NetworkReachable.router {hello : Frame} {host : String} {door : ConnId → Bool}
    {id : String} {s : Network} (reached : NetworkReachable hello host door id s) :
    RouterReachable host door s.router := by
  refine reached.invariant (P := fun s => RouterReachable host door s.router) ?_ ?_
  · exact Transition.Reachable.refl _
  · intro state action next before enabled
    -- A step of the network is at most one of the router's.
    rcases network_router enabled with same | ⟨r, stepped, _⟩
    · rwa [same]
    · exact before.next stepped

end Zapd
