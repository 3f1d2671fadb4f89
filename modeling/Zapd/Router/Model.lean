import Mathlib.Data.List.AList
import Mathlib.Logic.Function.Basic
import Zapd.Base.Transition
import Zapd.Codec.Control
import Zapd.Id

/-! The router: its registry, and every connection's `handle` as a machine of atomic steps. -/

namespace Zapd

open Utf8

/-- A connection's number. Its task, its channel and its evict signal share it. -/
abbrev ConnId := Nat

/--
A connected node, as the registry holds it.

The channel `tx` and the sender `evict` of the source are those of the connection named here.
-/
structure Peer where
  conn : ConnId
  desc : Descriptor
  token : Nat
  deriving DecidableEq

/-- The locked map of connected nodes. -/
abbrev Peers := AList (fun _ : String => Peer)

/-- Why a frame was queued, and on account of which connection. -/
inductive Origin
  | welcome (c : ConnId)
  | presence (c : ConnId) (subject : String) (connected : Bool)
  /-- Forwarded: the frame the connection sent as its `n`-th. -/
  | relayed (c : ConnId) (n : Nat)
  /-- The router's own error answering the connection's `n`-th frame. -/
  | answer (c : ConnId) (n : Nat)
  /-- The router's own list answering the connection's `n`-th frame. -/
  | listing (c : ConnId) (n : Nat) (filter : String) (entries : List Entry)
  deriving DecidableEq

/-- A frame on a connection's channel. The channel carries its encoding. -/
structure Queued where
  frame : Frame
  origin : Origin
  deriving DecidableEq

/-- Where a connection's `handle` stands between two of its atomic steps. -/
inductive Phase
  /-- Waiting for the first frame. -/
  | hello
  /-- Writing a refusal straight to the stream, to return the error after it. -/
  | refusing (reply : Frame) (e : Error)
  /-- The hello named an id and a descriptor; the token is drawn next. -/
  | stamped (desc : Descriptor)
  /-- The locked check and insert comes next. -/
  | armed (desc : Descriptor)
  /-- Inserted over this entry, whose evict signal is fired next. -/
  | inserted (old : Option Peer)
  /-- The writer runs; WELCOME is queued next. -/
  | welcoming
  /-- The arrival is announced next. -/
  | arriving
  /-- Inside `select!`, with no frame in hand. -/
  | relaying
  /-- A frame with a destination is in hand; the locked lookup and send comes next. -/
  | forwarding (f : Frame)
  /-- Nobody took the frame for this destination; the error is queued next. -/
  | unrouted (dest : String)
  /-- A list was asked for; the locked snapshot comes next. -/
  | listing (filter : String)
  /-- The snapshot was taken; the reply is queued next. -/
  | listed (filter : String) (entries : List Entry)
  /-- An unknown control frame was read; the error is queued next. -/
  | unknown
  /-- `select!` is over; the locked conditional removal comes next. -/
  | leaving (result : Except Error Unit)
  /-- The own entry was removed; the departure is announced next. -/
  | departing (result : Except Error Unit)
  | returned (result : Except Error Unit)

/-- The local variables of one `handle`, and what it has read and written. -/
structure Conn where
  /-- Whether its hello may replace a live node of the same id. -/
  takeOver : Bool
  phase : Phase := .hello
  id : String := ""
  token : Nat := 0
  /-- Every frame `route_loop` has read, in order. -/
  received : List Frame := []
  /-- Frames written straight to the stream. -/
  socket : List Frame := []
  /-- Whether the writer task still holds the receiving end of the channel. -/
  writer : Bool := true

/-- The registry, and every connection with all that was ever queued to it. -/
structure Router where
  host : String
  peers : Peers
  /-- The next per-connection token: a counter that never runs out. -/
  nextToken : Nat
  conns : ConnId → Conn
  queues : ConnId → List Queued
  /-- For a connection whose evict signal was fired, how many frames it had relayed by then. -/
  evictedAt : ConnId → Option Nat
  /-- Every insertion into the registry, most recent first. -/
  claims : List (String × ConnId)

/-- A router nobody has connected to yet; `door` says which connections come through the door. -/
def Router.initial (host : String) (door : ConnId → Bool) : Router :=
  { host, peers := ∅, nextToken := 1, conns := fun c => { takeOver := !door c },
    queues := fun _ => [], evictedAt := fun _ => none, claims := [] }

/-- Send on a connection's channel: nothing is queued once its receiving end is gone. -/
def Router.push (s : Router) (b : ConnId) (q : Queued) : Router :=
  if (s.conns b).writer then { s with queues := Function.update s.queues b (s.queues b ++ [q]) }
  else s

/-- Deliver to one peer; false when nobody of that id took it. -/
def sendTo (s : Router) (id : String) (q : Queued) : Router × Bool :=
  match s.peers.lookup id with
  | some p => (s.push p.conn q, (s.conns p.conn).writer)
  | none => (s, false)

/-- The presence frames one connection gets from a broadcast. -/
def fanOut (peers : Peers) (except : String) (typ : UInt8) (payload : Bytes) (origin : Origin)
    (b : ConnId) : List Queued :=
  peers.entries.filterMap fun ⟨pid, p⟩ =>
    if p.conn = b ∧ pid ≠ except then some ⟨Frame.new typ "zapd" pid payload, origin⟩ else none

/-- Presence to every peer except the subject. -/
def broadcast (s : Router) (except : String) (typ : UInt8) (payload : Bytes) (origin : Origin) :
    Router :=
  { s with queues := fun b =>
      if (s.conns b).writer then s.queues b ++ fanOut s.peers except typ payload origin b
      else s.queues b }

/-- Every node on this router whose brand matches; an empty filter matches all. -/
def list (peers : Peers) (brandFilter : String) : List Entry :=
  -- In the order of the map; a snapshot may come in any other.
  (peers.entries.filter fun ⟨_, p⟩ => brandFilter.isEmpty || p.desc.brand == brandFilter).map
    fun ⟨id, p⟩ => { id, desc := p.desc }

/-- The error a refused hello is answered with, and returns. -/
def refusal (kind : ErrorKind) (why : String) : Phase :=
  .refusing (Frame.new ERROR "zapd" "" (asBytes why)) ⟨kind, why⟩

/-- What `handle` does with the first frame it reads. -/
def greet (host : String) (conn : Conn) (first : Except Error (Option Frame)) : Conn :=
  match first with
  | .error e => { conn with phase := .returned (.error e) }
  | .ok none => { conn with phase := .returned (.ok ()) }
  | .ok (some hello) =>
    -- Only a HELLO may come first.
    if hello.typ ≠ HELLO then
      { conn with phase := .returned (.error ⟨.invalidData, "expected HELLO"⟩) }
    else
      -- The router stamps the host; a node never chooses it.
      match stamp hello.from_ host with
      | none => { conn with phase := refusal .invalidData ("bad_id:" ++ hello.from_) }
      | some id =>
        -- A descriptor that does not parse ends the connection without an answer.
        match decodeHello hello.payload with
        | .error e => { conn with phase := .returned (.error e) }
        | .ok desc => { conn with id, phase := .stamped desc }

/-- What `route_loop` does with the next frame it reads, up to its first lock. -/
def dispatch (f : Frame) : Phase :=
  if f.to_ = "" then
    if f.typ = PROVIDERS_LIST then .listing (decodeBrandFilter f.payload)
    -- Already greeted.
    else if f.typ = HELLO then .relaying
    else .unknown
  else .forwarding f

/-- The next result of `Frame::read` inside `route_loop`. -/
def receive (conn : Conn) (next : Except Error (Option Frame)) : Conn :=
  match next with
  | .error e => { conn with phase := .leaving (.error e) }
  | .ok none => { conn with phase := .leaving (.ok ()) }
  | .ok (some f) => { conn with received := conn.received ++ [f], phase := dispatch f }

/-- Fire the evict signal of a replaced entry. -/
def fireEvict (s : Router) (old : Option Peer) : Router :=
  match old with
  | none => s
  | some p => { s with
      evictedAt := Function.update s.evictedAt p.conn (some (s.conns p.conn).received.length) }

/-- An error frame from the router. -/
def errorFrame (to_ why : String) : Frame := Frame.new ERROR "zapd" to_ (asBytes why)

/--
The next atomic step of a `handle` that waits for no one.

It yields what the step does to the shared state, and the local variables after it.
-/
def advance (s : Router) (c : ConnId) (conn : Conn) : Option (Router × Conn) :=
  -- The frame in hand is the last one read.
  let n := conn.received.length - 1
  match conn.phase with
  | .stamped desc =>
    some ({ s with nextToken := s.nextToken + 1 },
      { conn with token := s.nextToken, phase := .armed desc })
  | .armed desc =>
    -- Check and insert happen under one lock.
    if !conn.takeOver && (s.peers.lookup conn.id).isSome then
      some (s, { conn with phase := refusal .addrInUse ("taken:" ++ conn.id) })
    else
      some ({ s with peers := s.peers.insert conn.id ⟨c, desc, conn.token⟩,
                     claims := (conn.id, c) :: s.claims },
        { conn with phase := .inserted (s.peers.lookup conn.id) })
  | .inserted old => some (fireEvict s old, { conn with phase := .welcoming })
  | .welcoming =>
    -- WELCOME goes through the own channel, not through the registry.
    some (s.push c ⟨Frame.new WELCOME "zapd" conn.id [], .welcome c⟩,
      { conn with phase := .arriving })
  | .arriving =>
    some (broadcast s conn.id PEER_CONNECTED (encodePeer conn.id) (.presence c conn.id true),
      { conn with phase := .relaying })
  | .forwarding f =>
    -- The registered id is stamped over whatever the sender claimed.
    let sent := sendTo s f.to_ ⟨{ f with from_ := conn.id }, .relayed c n⟩
    some (sent.1, { conn with phase := if sent.2 then .relaying else .unrouted f.to_ })
  | .unrouted dest =>
    some ((sendTo s conn.id ⟨errorFrame conn.id ("no_route:" ++ dest), .answer c n⟩).1,
      { conn with phase := .relaying })
  | .listed filter entries =>
    let reply := Frame.new PROVIDERS "zapd" conn.id (encodeProviders entries)
    some ((sendTo s conn.id ⟨reply, .listing c n filter entries⟩).1,
      { conn with phase := .relaying })
  | .unknown =>
    some ((sendTo s conn.id ⟨errorFrame conn.id "unknown_control", .answer c n⟩).1,
      { conn with phase := .relaying })
  -- `handle` returns together with the end of the writer task that it aborts.
  | .leaving result =>
    -- Only the registered connection removes the entry.
    if (s.peers.lookup conn.id).map Peer.token = some conn.token then
      some ({ s with peers := s.peers.erase conn.id }, { conn with phase := .departing result })
    else some (s, { conn with phase := .returned result, writer := false })
  | .departing result =>
    some (broadcast s conn.id PEER_DISCONNECTED (encodePeer conn.id) (.presence c conn.id false),
      { conn with phase := .returned result, writer := false })
  | .hello | .refusing .. | .relaying | .listing _ | .returned _ => none

/-- The writer task runs from just before WELCOME on. -/
@[simp] def Phase.spawned : Phase → Bool
  | .welcoming | .arriving | .relaying | .forwarding _ | .unrouted _ | .listing _ | .listed ..
  | .unknown | .leaving _ | .departing _ => true
  | .hello | .refusing .. | .stamped _ | .armed _ | .inserted _ | .returned _ => false

/-- One atomic step of the system, by the connection it belongs to. -/
inductive Action
  /-- `Frame::read` returns to `handle` or to `route_loop`. -/
  | read (c : ConnId) (next : Except Error (Option Frame))
  /-- The write of a refusal completes. -/
  | refuse (c : ConnId) (written : Except Error Unit)
  /-- The next step of a `handle` that waits for no one. -/
  | advance (c : ConnId)
  /-- The locked snapshot of the registry, in the order the map happens to iterate. -/
  | snapshot (c : ConnId) (entries : List Entry)
  /-- `select!` completes with the evict branch. -/
  | evicted (c : ConnId)
  /-- The writer task stops at a failed write and drops the channel. -/
  | writerFails (c : ConnId)

/-- The connection whose task takes the step. -/
def Action.conn : Action → ConnId
  | .read c _ | .refuse c _ | .advance c | .snapshot c _ | .evicted c | .writerFails c => c

section

variable (c : ConnId) (next : Except Error (Option Frame)) (written : Except Error Unit)
  (entries : List Entry)

@[simp] theorem conn_read : (Action.read c next).conn = c := rfl
@[simp] theorem conn_refuse : (Action.refuse c written).conn = c := rfl
@[simp] theorem conn_advance : (Action.advance c).conn = c := rfl
@[simp] theorem conn_snapshot : (Action.snapshot c entries).conn = c := rfl
@[simp] theorem conn_evicted : (Action.evicted c).conn = c := rfl
@[simp] theorem conn_writerFails : (Action.writerFails c).conn = c := rfl

end

/-- What an enabled step does to the shared state, and the local variables after it. -/
def act (s : Router) (a : Action) : Option (Router × Conn) :=
  let conn := s.conns a.conn
  match a with
  | .read _ next =>
    match conn.phase with
    | .hello => some (s, greet s.host conn next)
    | .relaying => some (s, receive conn next)
    | _ => none
  | .refuse _ written =>
    match conn.phase, written with
    -- The refusal is written straight to the stream, and then the error is returned.
    | .refusing reply e, .ok () =>
      some (s, { conn with socket := conn.socket ++ [reply], phase := .returned (.error e) })
    | .refusing _ _, .error e => some (s, { conn with phase := .returned (.error e) })
    | _, _ => none
  | .advance c => Zapd.advance s c conn
  | .snapshot _ entries =>
    match conn.phase with
    | .listing filter =>
      -- A map may be iterated in any order.
      if entries.Perm (list s.peers filter) then
        some (s, { conn with phase := .listed filter entries })
      else none
    | _ => none
  | .evicted c =>
    match conn.phase with
    | .relaying =>
      -- The branch is ready once the signal was fired.
      if (s.evictedAt c).isSome then some (s, { conn with phase := .leaving (.ok ()) }) else none
    | _ => none
  | .writerFails _ =>
    if conn.phase.spawned then some (s, { conn with writer := false }) else none

/-- One atomic step, if it is enabled. -/
def Router.step (s : Router) (a : Action) : Option Router :=
  (act s a).map fun r => { r.1 with conns := Function.update r.1.conns a.conn r.2 }

/-- A state some interleaving of connections reaches. -/
def RouterReachable (host : String) (door : ConnId → Bool) (s : Router) : Prop :=
  Transition.Reachable Router.step (Router.initial host door) s

end Zapd
