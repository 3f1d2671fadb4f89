import Zapd.Door.System
import Zapd.Pair.Handshake

/-! The door before the relay loop: the gate of `serve`, the upgrade, the proof and the HELLO. -/

namespace Zapd

open Utf8

/-- Extension origins, each fixed by its manifest. -/
def BLINK : List String := ["chrome-extension://biingenefmanpecedoafkfajbnlgdmbl"]

/-- How the origins begin that are random for each install. -/
def RANDOM : List String := ["moz-extension://", "safari-web-extension://"]

/-- How many connections are admitted at a time. -/
def ADMITTING : Nat := 8

/-- What a browser names as the host of a loopback address. -/
def loopback (port : UInt16) : List String :=
  ["127.0.0.1:" ++ toString port.toNat, "localhost:" ++ toString port.toNat]

/-- An origin that begins in one of the random ways, and goes on. -/
def randomOrigin (o : String) : Bool :=
  RANDOM.any fun p => p.toList.isPrefixOf o.toList && (asBytes p).length < (asBytes o).length

/-- The check of an upgrade request: the host first, and then the origin. -/
def check (origin host : Option String) (port : UInt16) : Except String Unit :=
  if host.any (loopback port).contains then
    match origin with
    | some o => if BLINK.contains o || randomOrigin o then .ok () else .error "origin"
    | none => .error "origin"
  else .error "host"

/-- The headers of an upgrade request that are looked at, each if it is there and is text. -/
structure Upgrade where
  origin : Option String
  host : Option String

/-- Where `serve` and `admit` stand with a connection, up to its relay loop. -/
inductive Admitting
  /-- Nobody has connected. -/
  | absent
  /-- Closed on accept: the gate had no permit left. -/
  | turnedAway
  /-- Accepted, and the upgrade request is awaited. -/
  | upgrading
  /-- Inside `prove`. -/
  | proving
  /-- Inside `browser_hello`. -/
  | greeting
  /-- The HELLO was good: the permit is dropped, and the relay loop begins. -/
  | admitted
  /-- `admit` returned before its relay loop, and dropped the permit. -/
  | refused
  deriving DecidableEq

/-- The connection has a permit. -/
def Admitting.holds : Admitting → Bool
  | .upgrading | .proving | .greeting => true
  | .absent | .turnedAway | .admitted | .refused => false

/-- The local variables of `admit`, and what it answered an upgrade it refused. -/
structure Admission where
  stage : Admitting := .absent
  request : Option Upgrade := none
  /-- Whether the origin was one of the fixed ones. -/
  blink : Bool := false
  /-- The body of the 403 response. -/
  response : Option String := none

/-- The gate, every admission, all pairing proofs, and the router behind the door. -/
structure Front where
  system : System
  handshake : Handshake
  /-- The permits left in the gate. -/
  permits : Nat
  admissions : ConnId → Admission
  /-- Every connection that was accepted, the latest first. -/
  accepted : List ConnId

/-- Nobody has connected yet. -/
def Front.initial (host : String) (door : ConnId → Bool) : Front :=
  { system := System.initial host door, handshake := Handshake.initial, permits := ADMITTING,
    admissions := fun _ => {}, accepted := [] }

/-- An admission goes on with the permit it has. -/
def Front.goOn (s : Front) (c : ConnId) (next : Admission) : Front :=
  { s with admissions := Function.update s.admissions c next }

/-- An admission is over, and its permit goes back. -/
def Front.finish (s : Front) (c : ConnId) (next : Admission) : Front :=
  { s.goOn c next with permits := s.permits + 1 }

/-- The upgrade callback, and what `admit` does next. The send of a refusal belongs to this step,
though `admit` still holds the permit while it sends. -/
def Front.upgrade (s : Front) (port : UInt16) (c : ConnId) (r : Upgrade) : Front :=
  let blink := r.origin.any BLINK.contains
  match check r.origin r.host port with
  | .error why =>
    s.finish c
      { stage := .refused, request := some r, blink
        response := some ("zapd: " ++ why ++ " refused") }
  -- A fixed origin needs no proof.
  | .ok () =>
    s.goOn c { stage := if blink then .greeting else .proving, request := some r, blink }

/-- What becomes of an admission whose HELLO was heard. As in `upgrade`, the permit goes back with
the step that refuses. -/
def Front.greeted (s : Front) (c : ConnId) : Front :=
  match (s.system.doors c).stage with
  | .relaying => s.finish c { s.admissions c with stage := .admitted }
  | .greeting | .closed _ => s.finish c { s.admissions c with stage := .refused }

/-- The session of `prove` that takes the step, unless it is a client's. -/
def ProofAction.session : ProofAction → Option ProofId
  | .prove d _ | .toDoor d _ | .challenge d _ | .abort d => some d
  | .hail .. | .toClient .. | .quit _ => none

/-- One step of `serve`, of an `admit`, or of what is behind them. -/
inductive FrontAction
  /-- The listener accepts a connection. -/
  | accept (c : ConnId)
  /-- The upgrade request arrives. -/
  | upgrade (c : ConnId) (r : Upgrade)
  /-- A `prove`, a client or the attacker moves. -/
  | handshake (a : ProofAction)
  /-- `prove` returns. -/
  | conclude (c : ConnId)
  /-- The time of an admission is up, or what it awaits fails. -/
  | expire (c : ConnId)
  /-- The first message arrives, or a connection moves that was admitted or is local. -/
  | system (a : SystemAction)

section

variable (leaked : Key → Bool) (port : UInt16)

/-- One step, if it is enabled. -/
def Front.step (s : Front) : FrontAction → Option Front
  | .accept c =>
    if (s.system.router.conns c).takeOver = false ∧ (s.admissions c).stage = .absent then
      -- With no permit left, the connection is closed at once.
      if s.permits = 0 then
        some { s.goOn c { stage := .turnedAway } with accepted := c :: s.accepted }
      else
        some { s.goOn c { stage := .upgrading } with
          permits := s.permits - 1, accepted := c :: s.accepted }
    else none
  | .upgrade c r =>
    if (s.admissions c).stage = .upgrading then some (s.upgrade port c r) else none
  | .handshake a =>
    -- A session of `prove` moves only while its connection is inside it.
    if a.session.all fun d => (s.admissions d).stage = .proving then
      (s.handshake.step leaked a).map fun handshake => { s with handshake }
    else none
  | .conclude c =>
    if (s.admissions c).stage = .proving then
      match s.handshake.doors c with
      | .proved .. => some (s.goOn c { s.admissions c with stage := .greeting })
      | .refused => some (s.finish c { s.admissions c with stage := .refused })
      | .idle | .hailing _ | .hailed .. | .challenged .. => none
    else none
  | .expire c =>
    if (s.admissions c).stage.holds then
      some (s.finish c { s.admissions c with stage := .refused })
    else none
  | .system a =>
    if (s.system.router.conns a.conn).takeOver ∨ (s.admissions a.conn).stage = .admitted then
      (s.system.step a).map fun system => { s with system }
    else if (s.admissions a.conn).stage = .greeting ∧ a matches .browser _ (.message _) then
      (s.system.step a).map fun system => { s with system }.greeted a.conn
    else none

/-- A state some interleaving of browsers, nodes and the attacker reaches. -/
def FrontReachable (host : String) (door : ConnId → Bool) (s : Front) : Prop :=
  Transition.Reachable (Front.step leaked port) (Front.initial host door) s

end

example : check (some "moz-extension://") (some "127.0.0.1:21000") 21000 = .error "origin" := by
  decide

example :
    check (some "https://evil.example") (some "evil.example:21000") 21000 = .error "host" := by
  decide

end Zapd
