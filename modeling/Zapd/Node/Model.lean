import Mathlib.Logic.Function.Basic
import Zapd.Base.Transition
import Zapd.Codec.Control

/-! A node: its asks, its connection task, and the one slot through which answers go back. -/

namespace Zapd

open Utf8

/-- An ask's number. Its task and its oneshot channel share it. -/
abbrev AskId := Nat

/-- A session's number, counted from the first dial. -/
abbrev SessionId := Nat

/-- What a caller asks of the node. -/
inductive Request
  | call (to_ : String) (payload : Bytes)
  | nodes
  deriving DecidableEq

/-- The frame an ask sends. -/
def Request.frame : Request → Frame
  | .call to_ payload => Frame.new ROUTE "" to_ payload
  | .nodes => Frame.new PROVIDERS_LIST "" "" []

/-- Who must answer an ask. -/
def Request.answerer : Request → String
  | .call to_ _ => to_
  | .nodes => "zapd"

/-- What a caller gets whose time is up. -/
def Request.timedOut : Request → Error
  | .call to_ _ => ⟨.timedOut, "zapd: " ++ to_ ++ " did not answer"⟩
  | .nodes => ⟨.timedOut, "zapd: no router on this machine"⟩

/-- What became of an ask's `Reply`; an answer is kept with where it came from. -/
inductive Reply (τ : Type)
  | empty
  | sent (result : Except Error Frame) (origin : Option τ)
  /-- The sender was dropped unused. -/
  | closed
  deriving DecidableEq

/-- Where an `ask` stands between two of its atomic steps. -/
inductive AskPhase
  /-- Not begun. -/
  | idle
  /-- Waiting for its turn. -/
  | queued
  /-- It has the turn, and waits for the node to be up. -/
  | turned
  /-- It saw the node up; `waiting` is set next. -/
  | opened
  /-- `waiting` is set; the frame is sent next. -/
  | stored
  /-- Nobody took the frame; `waiting` is taken back next. -/
  | unsent
  /-- The frame was sent; it waits for the answer. -/
  | awaiting
  | returned (result : Except Error Frame)
  /-- Dropped at an await, as a timeout does. -/
  | dropped
  deriving DecidableEq

/-- An `ask`, and the receiving end of its channel. -/
structure Ask (τ : Type) where
  request : Request := .nodes
  phase : AskPhase := .idle
  reply : Reply τ := .empty
  /-- The session whose queue took its frame. -/
  session : Option SessionId := none

/-- Where the connection task stands between two of its atomic steps. -/
inductive Link
  /-- Dialing, or waiting to dial again. -/
  | dialing
  /-- Inside `Frame::read` of a session. -/
  | reading
  /-- WELCOME set the id; `tx` is set next. -/
  | naming
  /-- `tx` is set; `up` is set next. -/
  | raising
  /-- The session is over; `tx` is taken next. -/
  | ended
  /-- `tx` is taken; `up` is cleared next. -/
  | lowering
  /-- `up` is cleared; `waiting` is taken and failed next. -/
  | failing
  deriving DecidableEq

/-- A frame on a session's writer channel. The channel carries its encoding. -/
structure Sent where
  session : SessionId
  ask : AskId
  frame : Frame

/-- The shared state of a node, its asks and its connection task. -/
structure Node (τ : Type) where
  id : String
  /-- The session whose writer takes frames. -/
  tx : Option SessionId := none
  up : Bool := false
  /-- The one outstanding call: who must answer, and where the answer goes. -/
  waiting : Option (String × AskId) := none
  turn : Option AskId := none
  asks : AskId → Ask τ := fun _ => {}
  link : Link := .dialing
  session : SessionId := 0
  /-- Whether the current session's writer task still holds the receiving end of its channel. -/
  writer : Bool := false
  /-- Frames on the writer channels that no router has read yet. -/
  outbox : List Sent := []

variable {τ : Type}

/-- The HELLO a node says in every session. -/
def helloOf (id : String) (role : UInt8) (brand : String) (caps : List String) : Frame :=
  Frame.new HELLO id "" (encodeHello { role, brand, caps, attrs := [] })

/-- A node that has just joined. -/
def Node.join (id : String) : Node τ := { id }

/-- Change one ask. -/
def Node.setAsk (n : Node τ) (k : AskId) (a : Ask τ) : Node τ :=
  { n with asks := Function.update n.asks k a }

/-- An ask goes on to another phase. -/
def Node.goOn (n : Node τ) (k : AskId) (phase : AskPhase) : Node τ :=
  n.setAsk k { n.asks k with phase }

/-- Empty the slot, if it is taken, and let this become of the sender in it. -/
def Node.vacate (n : Node τ) (reply : Reply τ) : Node τ :=
  match n.waiting with
  | none => n
  | some (_, k) => { n.setAsk k { n.asks k with reply } with waiting := none }

/-- Hand an answer to the outstanding call if it came from the one it asked. -/
def settle (n : Node τ) (from_ : String) (answer : Except Error Frame) (origin : Option τ) :
    Node τ :=
  match n.waiting with
  | none => n
  | some (who, _) => if who = from_ then n.vacate (.sent answer origin) else n

/-- What follows a leading text, if the text begins with it. -/
def stripPrefix (text lead : String) : Option String :=
  if lead.toList <+: text.toList then some (String.ofList (text.toList.drop lead.toList.length))
  else none

/-- The destination that an ERROR says nobody took a frame for. -/
def noRoute (payload : Bytes) : Option String := stripPrefix (fromUtf8Lossy payload) "no_route:"

/-- What a session does with the next frame it reads. -/
def Node.receive (n : Node τ) (f : Frame) (origin : Option τ) : Node τ :=
  -- The name the router gave is taken over at once; the channel and `up` follow.
  if f.typ = WELCOME then { n with id := f.to_, link := .naming }
  -- A list is taken to be the router's, whoever sent it.
  else if f.typ = PROVIDERS then settle n "zapd" (.ok f) origin
  -- An answer counts only if it comes from whoever was asked.
  else if f.typ = RESPONSE then settle n f.from_ (.ok f) origin
  else if f.typ = ERROR then
    -- Whatever destination the text names, the ask of that answerer fails.
    match noRoute f.payload with
    | some dest => settle n dest (.error ⟨.notFound, fromUtf8Lossy f.payload⟩) origin
    | none => n
  else n

def routerChanged : Error := ⟨.connectionReset, "router changed"⟩

/-- One atomic step of an ask, or of the connection task. -/
inductive NodeAction (τ : Type)
  /-- `call` or `nodes` is called. -/
  | ask (k : AskId) (request : Request)
  /-- `turn.lock()` completes. -/
  | turn (k : AskId)
  /-- `up.wait_for` completes. -/
  | see (k : AskId)
  /-- `waiting` is set, and what was in it is dropped. -/
  | store (k : AskId)
  /-- The locked send. -/
  | send (k : AskId)
  /-- `waiting` is taken back and dropped, and the ask fails. -/
  | clear (k : AskId)
  /-- `answer` completes. -/
  | finish (k : AskId)
  /-- The ask is dropped at an await. -/
  | drop (k : AskId)
  /-- A session begins. -/
  | dial
  /-- `Frame::read` of the session returns a frame. -/
  | receive (f : Frame) (origin : Option τ)
  /-- The next step of the connection task that waits for no one. -/
  | proceed
  /-- The session ends. -/
  | hangUp
  /-- The writer task stops and drops the channel. -/
  | writerFails

/-- One atomic step, if it is enabled. -/
def Node.step (n : Node τ) : NodeAction τ → Option (Node τ)
  | .ask k request =>
    match (n.asks k).phase with
    | .idle => some (n.setAsk k { request, phase := .queued })
    | _ => none
  | .turn k =>
    -- One ask at a time has the turn.
    match (n.asks k).phase, n.turn with
    | .queued, none => some { n.goOn k .turned with turn := some k }
    | _, _ => none
  -- The wait is over as soon as some session was welcomed.
  | .see k =>
    match (n.asks k).phase with
    | .turned => if n.up then some (n.goOn k .opened) else none
    | _ => none
  | .store k =>
    match (n.asks k).phase with
    | .opened =>
      -- Whoever was left in the slot is told that nobody will answer.
      some { (n.vacate .closed).goOn k .stored with
        waiting := some ((n.asks k).request.answerer, k) }
    | _ => none
  | .send k =>
    match (n.asks k).phase, n.tx with
    | .stored, some session =>
      -- A send fails once the writer task has dropped the channel.
      if n.writer then
        some { n.setAsk k { n.asks k with phase := .awaiting, session := some session } with
          outbox := n.outbox ++ [⟨session, k, (n.asks k).request.frame⟩] }
      else some (n.goOn k .unsent)
    | .stored, none => some (n.goOn k .unsent)
    | _, _ => none
  -- What failed to be sent is waited for no longer.
  | .clear k =>
    match (n.asks k).phase with
    | .unsent =>
      some { (n.vacate .closed).goOn k (.returned (.error routerChanged)) with turn := none }
    | _ => none
  | .finish k =>
    match (n.asks k).phase, (n.asks k).reply with
    | .awaiting, .sent result _ => some { n.goOn k (.returned result) with turn := none }
    | .awaiting, .closed =>
      some { n.goOn k (.returned (.error routerChanged)) with turn := none }
    | _, _ => none
  | .drop k =>
    match (n.asks k).phase with
    | .queued => some (n.goOn k .dropped)
    -- The turn is given up with the future; the slot is left as it is.
    | .turned | .awaiting => some { n.goOn k .dropped with turn := none }
    | _ => none
  -- A session begins with a writer of its own, and an empty channel.
  | .dial =>
    match n.link with
    | .dialing => some { n with link := .reading, session := n.session + 1, writer := true }
    | _ => none
  | .receive f origin =>
    match n.link with
    | .reading => some (n.receive f origin)
    | _ => none
  -- WELCOME sets the channel and then `up`; an end undoes both and fails whoever waits.
  | .proceed =>
    match n.link with
    | .naming => some { n with tx := some n.session, link := .raising }
    | .raising => some { n with up := true, link := .reading }
    | .ended => some { n with tx := none, link := .lowering }
    | .lowering => some { n with up := false, link := .failing }
    | .failing => some { n.vacate (.sent (.error routerChanged) none) with link := .dialing }
    | .dialing | .reading => none
  | .hangUp =>
    match n.link with
    | .reading => some { n with link := .ended }
    | _ => none
  | .writerFails => some { n with writer := false }

/-- What a `call` returns, once it has. -/
def Ask.called (a : Ask τ) : Option (Except Error Bytes) :=
  match a.phase with
  | .returned result => some (result.map Frame.payload)
  | .dropped => some (.error a.request.timedOut)
  | _ => none

/-- What a `nodes` returns, once it has. -/
def Ask.listed (a : Ask τ) : Option (Except Error (List Entry)) :=
  match a.phase with
  | .returned result => some (result.bind fun f => decodeProviders f.payload)
  | .dropped => some (.error a.request.timedOut)
  | _ => none

end Zapd
