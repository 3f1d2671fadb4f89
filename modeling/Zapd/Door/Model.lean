import Zapd.Codec.Stream
import Zapd.Id

/-! The browser door once a browser is paired: its HELLO, and the relay loop of `admit`. -/

namespace Zapd

open Utf8

/-- What `ws.next()` yields. -/
inductive Message
  | binary (b : Bytes)
  | ping
  | pong
  /-- Any other message, an error, or the end. -/
  | other

/-- A frame that calls: neither for the router nor an answer. -/
def originates (f : Frame) : Bool := f.to_ ≠ "" && f.typ ≠ RESPONSE

/-- How much each direction of the in-memory pipe holds. -/
def CAPACITY : Nat := 1 <<< 16

/-- How far `admit` is: waiting for the HELLO, in the relay loop, or returned. -/
inductive Stage
  | greeting
  | relaying
  | closed (result : Except Error Unit)

/-- One `admit`, the pipe between it and `handle`, and what was sent to the browser. -/
structure Door where
  stage : Stage := .greeting
  /-- Every message the browser was heard with, in order. -/
  messages : List Message := []
  /-- What `wr.write_all` has still to write. -/
  writing : Bytes := []
  /-- Bytes in the pipe, on their way to the router. -/
  up : Bytes := []
  /-- The pending `Frame::read` of the router's end. -/
  taking : ReadState := .start
  /-- Every frame the router's end has read, in order. -/
  parsed : List Frame := []
  /-- How many encoded frames the router's writer has received. -/
  pumped : Nat := 0
  /-- What the router's writer has still to write of the last one. -/
  outgoing : Bytes := []
  /-- Bytes in the pipe, on their way to the browser. -/
  down : Bytes := []
  /-- The pending `Frame::read` of the relay loop. -/
  reading : ReadState := .start
  /-- The router's end is gone. -/
  hungUp : Bool := false
  /-- Every frame relayed to the browser, in order. -/
  relayed : List Frame := []
  /-- The door's own errors to the browser. -/
  refusals : List Frame := []

def expectedHello : Error := ⟨.permissionDenied, "door: expected HELLO"⟩

def browsersOnly : Error :=
  ⟨.permissionDenied, "door: only browser nodes come through the door"⟩

def wentQuiet : Error := ⟨.timedOut, "browser went quiet"⟩

/-- The first message after the proof: a HELLO as a browser, and nothing else. -/
def browserHello (d : Door) (m : Message) : Door :=
  match m with
  | .binary b =>
    match Frame.decode b with
    | .error e => { d with stage := .closed (.error e) }
    | .ok f =>
      if f.typ ≠ HELLO ∨ kind f.from_ ≠ "browser" then
        { d with
          refusals := d.refusals ++
            [Frame.new ERROR "zapd" "" (asBytes ("browser_only:" ++ f.from_))],
          stage := .closed (.error browsersOnly) }
      else { d with stage := .relaying, writing := b }
  | .ping | .pong | .other => { d with stage := .closed (.error expectedHello) }

/-- `select!` completes with a message; the read that was pending is dropped with what it took. -/
def heard (d : Door) (m : Message) : Door :=
  match m with
  | .binary b =>
    match Frame.decode b with
    | .error e => { d with stage := .closed (.error e) }
    | .ok f =>
      -- A browser answers calls, and makes none.
      if originates f then
        { d with
          refusals := d.refusals ++ [Frame.new ERROR "zapd" "" (asBytes ("forbidden:" ++ f.to_))],
          reading := .start }
      else { d with writing := b, reading := .start }
  | .ping | .pong => { d with reading := .start }
  | .other => { d with stage := .closed (.ok ()) }

/-- What the end of the pipe makes of the relay loop. -/
def drained (d : Door) : Door :=
  match d.reading.atEof with
  | .error e => { d with stage := .closed (.error e) }
  | .ok _ => { d with stage := .closed (.ok ()) }

/-- What the relay loop makes of its read, polled with some of the bytes in the pipe. -/
def polled (d : Door) (count : Nat) : Door :=
  match d.reading.poll (d.down.take count) with
  | .pending state => { d with reading := state, down := d.down.drop count }
  -- A frame that does not parse ends `admit`.
  | .ready (.error e) rest =>
    { d with stage := .closed (.error e), reading := .start, down := rest ++ d.down.drop count }
  | .ready (.ok f) rest =>
    { d with relayed := d.relayed ++ [f], reading := .start, down := rest ++ d.down.drop count }

/-- One step of `admit`, of the router's writer, or of the pipe between them. -/
inductive DoorAction
  /-- `ws.next()` completes. -/
  | message (m : Message)
  /-- `wr.write_all` gets some bytes into the pipe. -/
  | write (count : Nat)
  /-- The router's writer receives the next encoded frame. -/
  | receive
  /-- The router's writer gets some bytes into the pipe. -/
  | pump (count : Nat)
  /-- `Frame::read` of the relay loop is polled with some bytes. -/
  | poll (count : Nat)
  /-- The router's end of the pipe is dropped, and its writer aborted. -/
  | hangUp
  /-- `Frame::read` of the relay loop comes to the end of the pipe. -/
  | eof
  /-- The browser was silent for too long. -/
  | quiet
  /-- A send to the browser or a write to the pipe fails. -/
  | fail (e : Error)

/-- The relay loop is inside `select!`, not inside the `write_all` of one of its branches. -/
def Door.selecting (d : Door) : Bool :=
  match d.stage with
  | .relaying => d.writing.isEmpty
  | .greeting | .closed _ => false

/-- The loop has begun and `admit` has not returned. -/
def Door.open_ (d : Door) : Bool :=
  match d.stage with
  | .relaying => true
  | .greeting | .closed _ => false

/-- One step, if it is enabled; `queue` is every encoded frame on the connection's channel. -/
def Door.step (queue : List Bytes) (d : Door) : DoorAction → Option Door
  | .message m =>
    match d.stage with
    | .greeting => some { browserHello d m with messages := d.messages ++ [m] }
    | .relaying =>
      if d.writing.isEmpty then some { heard d m with messages := d.messages ++ [m] } else none
    | .closed _ => none
  | .write count =>
    if d.open_ ∧ 0 < count ∧ count ≤ d.writing.length ∧ d.up.length + count ≤ CAPACITY then
      some { d with up := d.up ++ d.writing.take count, writing := d.writing.drop count }
    else none
  | .receive =>
    if d.outgoing.isEmpty ∧ d.hungUp = false then
      (queue[d.pumped]?).map fun b => { d with pumped := d.pumped + 1, outgoing := b }
    else none
  | .pump count =>
    if 0 < count ∧ count ≤ d.outgoing.length ∧ d.down.length + count ≤ CAPACITY ∧
        d.hungUp = false then
      some { d with
        down := d.down ++ d.outgoing.take count, outgoing := d.outgoing.drop count }
    else none
  | .poll count =>
    if d.selecting ∧ 0 < count ∧ count ≤ d.down.length then some (polled d count) else none
  | .hangUp => if d.hungUp then none else some { d with hungUp := true, outgoing := [] }
  | .eof => if d.selecting ∧ d.hungUp ∧ d.down.isEmpty then some (drained d) else none
  | .quiet => if d.selecting then some { d with stage := .closed (.error wentQuiet) } else none
  | .fail e => if d.open_ then some { d with stage := .closed (.error e) } else none

/-- What the door lets through to the router of one message. -/
def passes : Message → Option Frame
  | .binary b =>
    match Frame.decode b with
    | .ok f => if originates f then none else some f
    | .error _ => none
  | .ping | .pong | .other => none

/-- The HELLO the door vets, if the message is one. -/
def vets : Message → Option Frame
  | .binary b =>
    match Frame.decode b with
    | .ok f => if f.typ ≠ HELLO ∨ kind f.from_ ≠ "browser" then none else some f
    | .error _ => none
  | .ping | .pong | .other => none

/-- The frames of a browser that the door lets through: its HELLO, and what it may send after it. -/
def accepted : List Message → List Frame
  | [] => []
  | first :: later =>
    match vets first with
    -- A door that closes on its first message lets nothing through.
    | none => []
    | some hello => hello :: later.filterMap passes

end Zapd
