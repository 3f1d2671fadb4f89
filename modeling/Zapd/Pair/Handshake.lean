import Zapd.Base.Symbolic
import Zapd.Base.Transition
import Zapd.Pair.Code

/-! The pairing proof: door sessions, honest clients, and an attacker on every wire. -/

namespace Zapd

open Utf8 Symbolic

def NONCE : Nat := 32
def PROOF : Nat := 32

def ROUTER : Bytes := asBytes "zap router"
def CLIENT : Bytes := asBytes "zap client"

/-- Bytes whose authentication codes are symbols of their own. -/
abbrev Symbols := List (Symbol Key)

/-- A door session, or a client session, by its number. -/
abbrev ProofId := Nat

/-- HMAC(k, label ‖ nc ‖ ns). -/
def proof (key : Key) (label : Bytes) (nc ns : Symbols) : Symbols :=
  tag PROOF key (plain label ++ nc ++ ns)

/-- The check of a peer's proof. -/
def verify (key : Key) (label : Bytes) (nc ns given : Symbols) : Bool :=
  decide (given = proof key label nc ns)

/-- A message as its receiver takes it: one whole frame in a binary message, or anything else. -/
inductive ProofMessage
  | frame (typ : UInt8) (payload : Symbols)
  | other

/-- The payload of one AUTH frame; anything else ends admission. -/
def auth : ProofMessage → Option Symbols
  | .frame typ payload => if typ = AUTH then some payload else none
  | .other => none

/-- Where a door session stands between two of the steps of `prove`. -/
inductive Proving
  | idle
  /-- The key is loaded; the first AUTH is awaited. -/
  | hailing (key : Key)
  /-- The client's nonce was read; the router's is drawn next. -/
  | hailed (key : Key) (nc : Symbols)
  /-- The router's proof was sent; the client's is awaited. -/
  | challenged (key : Key) (nc ns : Symbols)
  /-- `prove` returned Ok. -/
  | proved (key : Key) (nc ns : Symbols)
  | refused
  deriving DecidableEq

/-- Where an honest client stands in the documented exchange. -/
inductive Client
  | idle
  /-- Its nonce was sent; the router's proof is awaited. -/
  | waiting (key : Key) (nc : Symbols)
  /-- The router's proof was verified, and its own was sent. -/
  | proven (key : Key) (nc ns : Symbols)
  | failed

/-- All sessions, the nonces that were drawn, and what the attacker has seen. -/
structure Handshake where
  doors : ProofId → Proving
  clients : ProofId → Client
  drawn : List Bytes
  seen : Symbols

/-- No session has begun. -/
def Handshake.initial : Handshake :=
  { doors := fun _ => .idle, clients := fun _ => .idle, drawn := [], seen := [] }

/-- One atomic step of a session, or of the attacker, who delivers every message. -/
inductive ProofAction
  /-- A door session begins and loads this key. -/
  | prove (d : ProofId) (key : Key)
  /-- A door session reads a message. -/
  | toDoor (d : ProofId) (m : ProofMessage)
  /-- A door session draws its nonce and sends its proof. -/
  | challenge (d : ProofId) (ns : Bytes)
  /-- A door session fails, or loses its connection. -/
  | abort (d : ProofId)
  /-- A client with this key begins: it draws a nonce and sends it. -/
  | hail (c : ProofId) (key : Key) (nc : Bytes)
  /-- A client reads a message, and sends its proof if the router's is good. -/
  | toClient (c : ProofId) (m : ProofMessage)
  /-- A client gives up. -/
  | quit (c : ProofId)

/-- What a door session does with the next message. -/
def Proving.hear (door : Proving) (m : ProofMessage) : Option Proving :=
  match door with
  | .hailing key =>
    match auth m with
    | none => some .refused
    | some nc => if nc.length ≠ NONCE then some .refused else some (.hailed key nc)
  | .challenged key nc ns =>
    match auth m with
    | none => some .refused
    | some given =>
      if verify key CLIENT nc ns given then some (.proved key nc ns) else some .refused
  | _ => none

/-- What a client does with the next message, and what it sends. -/
def Client.hear (client : Client) (m : ProofMessage) : Option (Client × Symbols) :=
  match client with
  | .waiting key nc =>
    match m with
    | .other => some (.failed, [])
    | .frame _ payload =>
      -- The payload is split behind the nonce, and a shorter one cannot be.
      if payload.length < NONCE then some (.failed, [])
      else
        let ns := payload.take NONCE
        if verify key ROUTER nc ns (payload.drop NONCE) then
          some (.proven key nc ns, proof key CLIENT nc ns)
        else some (.failed, [])
  | _ => none

section

variable (leaked : Key → Bool)

/-- A message the attacker can write, with what it has seen and the keys that leaked. -/
def Handshake.writable (s : Handshake) : ProofMessage → Bool
  | .frame _ payload => payload.all (known leaked s.seen)
  | .other => true

/-- One atomic step, if it is enabled. Drawn nonces are fresh. -/
def Handshake.step (s : Handshake) : ProofAction → Option Handshake
  | .prove d key =>
    match s.doors d with
    | .idle => some { s with doors := Function.update s.doors d (.hailing key) }
    | _ => none
  | .toDoor d m =>
    if s.writable leaked m then
      ((s.doors d).hear m).map fun door => { s with doors := Function.update s.doors d door }
    else none
  | .challenge d ns =>
    match s.doors d with
    | .hailed key nc =>
      if ns.length = NONCE ∧ ns ∉ s.drawn then
        some { s with
          doors := Function.update s.doors d (.challenged key nc (plain ns))
          drawn := ns :: s.drawn
          -- The nonce goes out with the proof behind it.
          seen := s.seen ++ (plain ns ++ proof key ROUTER nc (plain ns)) }
      else none
    | _ => none
  | .abort d =>
    match s.doors d with
    | .proved .. => none
    | _ => some { s with doors := Function.update s.doors d .refused }
  | .hail c key nc =>
    match s.clients c with
    | .idle =>
      if nc.length = NONCE ∧ nc ∉ s.drawn then
        some { s with
          clients := Function.update s.clients c (.waiting key (plain nc))
          drawn := nc :: s.drawn
          seen := s.seen ++ plain nc }
      else none
    | _ => none
  | .toClient c m =>
    if s.writable leaked m then
      ((s.clients c).hear m).map fun next =>
        { s with clients := Function.update s.clients c next.1, seen := s.seen ++ next.2 }
    else none
  | .quit c =>
    match s.clients c with
    | .waiting .. => some { s with clients := Function.update s.clients c .failed }
    | _ => none

end

end Zapd
