import Zapd.Base.Ledger
import Zapd.Router.Steps

/-! The invariant of the router: who has an id, whose token is whose, and who is registered. -/

namespace Zapd

open Utf8

/-- Phases after the hello was stamped and before the connection is over. -/
@[simp] def Phase.named : Phase → Bool
  | .hello | .refusing .. | .returned _ => false
  | _ => true

/-- Phases from the insertion to the removal. -/
@[simp] def Phase.holding : Phase → Bool
  | .inserted _ | .welcoming | .arriving | .relaying | .forwarding _ | .unrouted _ | .listing _
  | .listed .. | .unknown | .leaving _ => true
  | _ => false

/-- Phases after the removal, and those of a connection that ended before it was inserted. -/
@[simp] def Phase.released : Phase → Bool
  | .departing _ | .returned _ => true
  | _ => false

/-- Phases from the insertion to the return. -/
@[simp] def Phase.entered : Phase → Bool
  | .departing _ => true
  | phase => phase.holding

/-- Phases between the draw of the token and the return. -/
@[simp] def Phase.drawn : Phase → Bool
  | .armed _ => true
  | phase => phase.entered

/-- What is in hand in a phase comes from the last frame read. -/
@[simp] def Phase.InHand (received : List Frame) : Phase → Prop
  | .forwarding f => received[received.length - 1]? = some f ∧ f.to_ ≠ ""
  | .unrouted dest => ∃ f, received[received.length - 1]? = some f ∧ f.to_ = dest ∧ dest ≠ ""
  | .listing filter | .listed filter _ => ∃ f, received[received.length - 1]? = some f ∧
    f.to_ = "" ∧ f.typ = PROVIDERS_LIST ∧ filter = decodeBrandFilter f.payload
  | .unknown => ∃ f, received[received.length - 1]? = some f ∧ f.to_ = ""
  | _ => True

/-- What holds of one connection's local variables. -/
structure Conn.Coherent (host : String) (conn : Conn) : Prop where
  named : conn.phase.named = true → ∃ proposed, stamp proposed host = some conn.id
  inHand : conn.phase.InHand conn.received

/-- The first frame names the connection, or ends it. -/
theorem greet_phase (host : String) (conn : Conn) (first : Except Error (Option Frame)) :
    (∃ desc proposed, (greet host conn first).phase = .stamped desc ∧
      stamp proposed host = some (greet host conn first).id) ∨
    (∃ reply e, (greet host conn first).phase = .refusing reply e) ∨
    (∃ result, (greet host conn first).phase = .returned result) := by
  -- The branches of `greet`, in order.
  unfold greet
  split
  · -- The read failed.
    exact .inr (.inr ⟨_, rfl⟩)
  · -- The stream ended.
    exact .inr (.inr ⟨_, rfl⟩)
  · rename_i hello
    split
    · -- The frame was no HELLO.
      exact .inr (.inr ⟨_, rfl⟩)
    · split
      · -- It proposed no id.
        exact .inr (.inl ⟨_, _, rfl⟩)
      · rename_i id stamped
        split
        · -- Its descriptor did not parse.
          exact .inr (.inr ⟨_, rfl⟩)
        · exact .inl ⟨_, _, rfl, stamped⟩

/-- The first frame leaves the token, the frames read and the writer alone. -/
@[simp] theorem greet_token (host : String) (conn : Conn) (first : Except Error (Option Frame)) :
    (greet host conn first).token = conn.token := by
  unfold greet
  repeat' split
  all_goals rfl

@[simp] theorem greet_received (host : String) (conn : Conn) (first : Except Error (Option Frame)) :
    (greet host conn first).received = conn.received := by
  unfold greet
  repeat' split
  all_goals rfl

@[simp] theorem greet_writer (host : String) (conn : Conn) (first : Except Error (Option Frame)) :
    (greet host conn first).writer = conn.writer := by
  unfold greet
  repeat' split
  all_goals rfl

@[simp] theorem receive_id (conn : Conn) (next : Except Error (Option Frame)) :
    (receive conn next).id = conn.id := by
  unfold receive
  split <;> rfl

@[simp] theorem receive_token (conn : Conn) (next : Except Error (Option Frame)) :
    (receive conn next).token = conn.token := by
  unfold receive
  split <;> rfl

@[simp] theorem receive_writer (conn : Conn) (next : Except Error (Option Frame)) :
    (receive conn next).writer = conn.writer := by
  unfold receive
  split <;> rfl

/-- A frame read in `route_loop` is routed, answered or passed over. -/
theorem dispatch_inHand (f : Frame) (received : List Frame) :
    (dispatch f).InHand (received ++ [f]) := by
  unfold dispatch
  repeat' split
  -- The frame just appended is the last one read.
  all_goals simp_all

/-- The connection stays registered through a read. -/
@[simp] theorem receive_holding (conn : Conn) (next : Except Error (Option Frame)) :
    (receive conn next).phase.holding = true := by
  unfold receive dispatch
  repeat' split
  all_goals rfl

/-- What `route_loop` has read is in hand. -/
theorem receive_inHand (conn : Conn) (next : Except Error (Option Frame)) :
    (receive conn next).phase.InHand (receive conn next).received := by
  unfold receive
  split
  · -- Without a frame there is nothing in hand.
    trivial
  · trivial
  · exact dispatch_inHand _ _

/-- Registered connections are named. -/
theorem Phase.named_of_drawn {phase : Phase} (drawn : phase.drawn = true) : phase.named = true := by
  cases phase <;> simp_all

theorem Phase.entered_of_holding {phase : Phase} (holding : phase.holding = true) :
    phase.entered = true := by
  cases phase <;> simp_all

theorem Phase.drawn_of_entered {phase : Phase} (entered : phase.entered = true) :
    phase.drawn = true := by
  cases phase <;> simp_all

theorem Phase.entered_of_spawned {phase : Phase} (spawned : phase.spawned = true) :
    phase.entered = true := by
  cases phase <;> simp_all

theorem Phase.not_released {phase : Phase} (holding : phase.holding = true) :
    phase.released = false := by
  cases phase <;> simp_all

/-- A reply is owed only while registered. -/
theorem Conn.holding_of_reply {conn : Conn} {c : ConnId} {q : Queued}
    (owed : conn.reply c = some q) : conn.phase.holding = true := by
  unfold Conn.reply at owed
  split at owed
  -- In the other phases nothing is owed.
  case h_4 => cases owed
  all_goals simp_all

/-- Every step keeps its connection coherent. -/
theorem Acts.coherent {s t : Router} {a : Action} {conn : Conn} (acts : Acts s a t conn)
    (held : (s.conns a.conn).Coherent s.host) : conn.Coherent s.host := by
  cases acts with
  | greeted first waiting =>
    -- A connection is named by its first frame, or ends with it.
    rcases greet_phase s.host (s.conns _) first with
      ⟨desc, proposed, phased, stamped⟩ | ⟨reply, e, phased⟩ | ⟨result, phased⟩
    · exact ⟨fun _ => ⟨proposed, stamped⟩, by simp [phased]⟩
    all_goals exact ⟨by simp [phased], by simp [phased]⟩
  | received next relaying =>
    refine ⟨fun _ => ?_, receive_inHand _ _⟩
    simpa using held.named (by simp [relaying])
  | forwarded f forwarding =>
    -- The frame in hand keeps its destination when nobody took it.
    obtain ⟨last, addressed⟩ := by simpa [forwarding] using held.inHand
    refine ⟨fun _ => held.named (by simp [forwarding]), ?_⟩
    dsimp only
    split
    · trivial
    · exact ⟨f, last, rfl, addressed⟩
  | snapped filter entries listing snapshot =>
    refine ⟨fun _ => held.named (by simp [listing]), ?_⟩
    simpa [listing] using held.inHand
  | replied q owed =>
    -- Only a registered connection owes a reply.
    have holding := Conn.holding_of_reply owed
    have entered := Phase.entered_of_holding holding
    exact ⟨fun _ => held.named (Phase.named_of_drawn (Phase.drawn_of_entered entered)), trivial⟩
  | broke spawned => exact ⟨held.named, held.inHand⟩
  | refused => exact ⟨by simp, trivial⟩
  | taken => exact ⟨by simp [refusal], trivial⟩
  | kept => exact ⟨by simp, trivial⟩
  | departed => exact ⟨by simp, trivial⟩
  | _ =>
    refine ⟨fun _ => held.named ?_, trivial⟩
    simp_all

/-- Who inserted itself under which id, and who has removed what it inserted. -/
def Router.ledger (s : Router) : Ownership.Ledger String ConnId :=
  { claims := s.claims, released := fun c => (s.conns c).phase.released }

/-- What holds in every reachable state of the router. -/
structure WellFormed (s : Router) : Prop where
  coherent : ∀ c, (s.conns c).Coherent s.host
  fresh : ∀ c, (s.conns c).token < s.nextToken
  drawn : ∀ c, (s.conns c).phase.drawn = true → (s.conns c).token ≠ 0
  distinct : ∀ c d, (s.conns c).token ≠ 0 → (s.conns c).token = (s.conns d).token → c = d
  entry : ∀ id p, s.peers.lookup id = some p → (s.conns p.conn).id = id ∧
    (s.conns p.conn).token = p.token ∧ (s.conns p.conn).phase.holding = true
  claimed : ∀ id c, (id, c) ∈ s.claims → (s.conns c).id = id ∧
    ((s.conns c).phase.holding = true ∨ (s.conns c).phase.released = true)
  registered : ∀ c, (s.conns c).phase.entered = true → ((s.conns c).id, c) ∈ s.claims
  genuine : ∀ id c, (id, c) ∈ s.claims → ∃ proposed, stamp proposed s.host = some id
  owned : ∀ id, holder s.peers id = s.ledger.owner id

/-- Nobody has connected yet. -/
theorem wellFormed_initial (host : String) (door : ConnId → Bool) :
    WellFormed (Router.initial host door) where
  coherent c := ⟨by simp [Router.initial], trivial⟩
  fresh c := by simp [Router.initial]
  drawn c := by simp [Router.initial]
  distinct c d := by simp [Router.initial]
  entry id p found := by simp [Router.initial] at found
  claimed id c claim := by simp [Router.initial] at claim
  registered c := by simp [Router.initial]
  genuine id c claim := by simp [Router.initial] at claim
  owned id := by simp [Router.initial, holder, Router.ledger, Ownership.Ledger.owner,
    Ownership.Ledger.latest]

/-- A holder has the id it holds. -/
theorem WellFormed.holder_id {s : Router} (wf : WellFormed s) {id : String} {c : ConnId}
    (held : holder s.peers id = some c) :
    (s.conns c).id = id ∧ (s.conns c).phase.holding = true := by
  obtain ⟨p, found, rfl⟩ := Option.map_eq_some_iff.mp held
  exact ⟨(wf.entry id p found).1, (wf.entry id p found).2.2⟩

/-- The entry under a connection's own id has its token exactly when it is its own entry. -/
theorem WellFormed.own_token {s : Router} (wf : WellFormed s) {c : ConnId}
    (drawn : (s.conns c).phase.drawn = true) :
    (s.peers.lookup (s.conns c).id).map Peer.token = some (s.conns c).token ↔
      holder s.peers (s.conns c).id = some c := by
  -- Tokens are told apart by the connections that drew them.
  unfold holder
  cases found : s.peers.lookup (s.conns c).id with
  | none => simp
  | some p =>
    obtain ⟨_, same, _⟩ := wf.entry _ p found
    simp only [Option.map_some, Option.some.injEq]
    constructor
    · intro own
      exact (wf.distinct c p.conn (wf.drawn c drawn) (by rw [same, own])).symm
    · -- The own entry carries the own token.
      rintro rfl
      exact same.symm

/-- A connection that holds no entry holds none under any id. -/
theorem WellFormed.holds_only_own {s : Router} (wf : WellFormed s) {c : ConnId}
    (notOwn : holder s.peers (s.conns c).id ≠ some c) (id : String) :
    holder s.peers id ≠ some c := by
  intro held
  obtain ⟨rfl, _⟩ := wf.holder_id held
  exact notOwn held

/-- The ledger follows the phase of the connection that took the step. -/
theorem ledger_update (t : Router) (conns : ConnId → Conn) (c : ConnId) (conn : Conn) :
    ({ t with conns := Function.update conns c conn } : Router).ledger =
      { claims := t.claims,
        released := Function.update (fun k => (conns k).phase.released) c
          conn.phase.released } := by
  simp only [Router.ledger, Ownership.Ledger.mk.injEq, true_and]
  funext k
  -- Only the connection that took the step may have let go.
  by_cases self : k = c
  · subst self
    simp
  · simp [Function.update_of_ne self]

/-- What a step does to the registry: nothing, an insertion, or the removal of its own entry. -/
inductive Registers (s : Router) (a : Action) : Router → Conn → Prop
  | unchanged {t conn} (peers : t.peers = s.peers) (claims : t.claims = s.claims)
    (same : conn.phase.released = (s.conns a.conn).phase.released) : Registers s a t conn
  | inserted {t conn desc} (armed : (s.conns a.conn).phase = .armed desc)
    (may : (s.conns a.conn).takeOver = true ∨ s.peers.lookup (s.conns a.conn).id = none)
    (peers : t.peers =
      s.peers.insert (s.conns a.conn).id ⟨a.conn, desc, (s.conns a.conn).token⟩)
    (claims : t.claims = ((s.conns a.conn).id, a.conn) :: s.claims)
    (same : conn.id = (s.conns a.conn).id ∧ conn.token = (s.conns a.conn).token)
    (holding : conn.phase.holding = true) : Registers s a t conn
  | removed {t conn result} (leaving : (s.conns a.conn).phase = .leaving result)
    (own : holder s.peers (s.conns a.conn).id = some a.conn)
    (peers : t.peers = s.peers.erase (s.conns a.conn).id) (claims : t.claims = s.claims)
    (released : conn.phase.released = true) : Registers s a t conn
  | ended {t conn} (nothing : ∀ id, holder s.peers id ≠ some a.conn)
    (peers : t.peers = s.peers) (claims : t.claims = s.claims)
    (released : conn.phase.released = true) : Registers s a t conn

/-- A connection that is not registered holds no entry. -/
theorem WellFormed.holds_nothing {s : Router} (wf : WellFormed s) {c : ConnId}
    (notHolding : (s.conns c).phase.holding = false) (id : String) :
    holder s.peers id ≠ some c := by
  intro held
  rw [(wf.holder_id held).2] at notHolding
  cases notHolding

/-- Every step does one of these to the registry. -/
theorem WellFormed.registers {s t : Router} {a : Action} {conn : Conn} (wf : WellFormed s)
    (acts : Acts s a t conn) : Registers s a t conn := by
  cases acts with
  | @greeted c first waiting =>
    -- A greeting may end a connection, which held no entry.
    by_cases ended : (greet s.host (s.conns c) first).phase.released = true
    · exact .ended (wf.holds_nothing (by simp [waiting])) rfl rfl ended
    · exact .unchanged rfl rfl (by simpa [waiting] using ended)
  | @refused c written reply e socket result refusing _ =>
    exact .ended (wf.holds_nothing (by simp [refusing])) rfl rfl rfl
  | entered desc armed may => exact .inserted armed may rfl rfl ⟨rfl, rfl⟩ rfl
  | @removed c result leaving own =>
    -- The own token was found, so the entry is the connection's own.
    exact .removed leaving ((wf.own_token (by simp [leaving])).mp own)
      rfl rfl rfl
  | @kept c result leaving notOwn =>
    -- Another token was found, or none, so the connection holds no entry.
    refine .ended (wf.holds_only_own (c := c) fun held => notOwn ?_) rfl rfl rfl
    exact (wf.own_token (by simp [leaving])).mpr held
  | received next relaying =>
    exact .unchanged rfl rfl ((Phase.not_released (receive_holding _ _)).trans
      (by simp [relaying]))
  | fired old inserted =>
    refine .unchanged ?_ ?_ (by simp [inserted]) <;> cases old <;> rfl
  | welcomed welcoming =>
    exact .unchanged (by simp [push_eq]) (by simp [push_eq]) (by simp [welcoming])
  | @forwarded c f forwarding =>
    refine .unchanged (by simp [sendTo_eq]) (by simp [sendTo_eq]) ?_
    simp only [conn_advance, forwarding]
    split <;> rfl
  | replied q owed =>
    exact .unchanged (by simp [sendTo_eq]) (by simp [sendTo_eq])
      (Phase.not_released (Conn.holding_of_reply owed)).symm
  | _ => exact .unchanged rfl rfl (by simp_all [refusal])

section

variable {s t : Router} {c : ConnId} {conn : Conn}

/-- A step that neither inserts nor removes leaves the ledger alone. -/
theorem ledger_same (claims : t.claims = s.claims)
    (same : conn.phase.released = (s.conns c).phase.released) :
    ({ t with conns := Function.update s.conns c conn } : Router).ledger = s.ledger := by
  have before : (fun k => (s.conns k).phase.released) = s.ledger.released := rfl
  rw [ledger_update, claims, same, Function.update_eq_self c (fun k => (s.conns k).phase.released)]
  rfl

/-- An insertion is a claim. -/
theorem ledger_claim {id : String} (claims : t.claims = (id, c) :: s.claims)
    (same : conn.phase.released = (s.conns c).phase.released) :
    ({ t with conns := Function.update s.conns c conn } : Router).ledger = s.ledger.claim id c := by
  rw [ledger_update, claims, same, Function.update_eq_self c (fun k => (s.conns k).phase.released)]
  rfl

/-- The end of a connection lets go of its claim. -/
theorem ledger_release (claims : t.claims = s.claims) (released : conn.phase.released = true) :
    ({ t with conns := Function.update s.conns c conn } : Router).ledger = s.ledger.release c := by
  rw [ledger_update, claims, released]
  rfl

end

/-- A step changes the ledger as it changes the registry. -/
theorem WellFormed.owned_step {s t : Router} {a : Action} {conn : Conn} (wf : WellFormed s)
    (acts : Acts s a t conn) (id : String) : holder t.peers id =
      ({ t with conns := Function.update s.conns a.conn conn } : Router).ledger.owner id := by
  cases wf.registers acts with
  | unchanged peers claims same => rw [ledger_same claims same, peers, wf.owned]
  | inserted armed may peers claims same holding =>
    -- The claimant has not let go of anything before.
    have notReleased : (s.conns a.conn).phase.released = false := by
      simp [armed]
    rw [ledger_claim claims ((Phase.not_released holding).trans notReleased.symm), peers]
    by_cases self : id = (s.conns a.conn).id
    · subst self
      -- The new claimant owns the id.
      rw [Ownership.Ledger.owner_claim_self notReleased]
      simp [holder]
    · rw [Ownership.Ledger.owner_claim_of_ne self, ← wf.owned]
      simp [holder, AList.lookup_insert_ne self]
  | removed leaving own peers claims released =>
    rw [ledger_release claims released, peers]
    by_cases self : id = (s.conns a.conn).id
    · subst self
      -- The id's owner lets go, and nobody has it.
      rw [Ownership.Ledger.owner_release_self (by rw [← wf.owned, own])]
      simp [holder]
    · -- The other ids belong to others.
      rw [Ownership.Ledger.owner_release_of_ne, ← wf.owned]
      · simp [holder, AList.lookup_erase_ne self]
      · rw [← wf.owned]
        exact fun held => self (wf.holder_id held).1.symm
  | ended nothing peers claims released =>
    rw [ledger_release claims released, peers, Ownership.Ledger.owner_release_of_ne, wf.owned]
    rw [← wf.owned]
    exact nothing id

/-- A connection that is registered, or was, keeps its id and token and stays so. -/
theorem Acts.keeps_claim {s t : Router} {a : Action} {conn : Conn} (acts : Acts s a t conn)
    (claimed : (s.conns a.conn).phase.holding = true ∨ (s.conns a.conn).phase.released = true) :
    conn.id = (s.conns a.conn).id ∧ conn.token = (s.conns a.conn).token ∧
      (conn.phase.holding = true ∨ conn.phase.released = true) := by
  cases acts with
  | greeted first waiting => simp [waiting] at claimed
  -- A read changes neither, and does not end the registration.
  | received next relaying =>
    exact ⟨receive_id _ _, receive_token _ _, .inl (receive_holding _ _)⟩
  | forwarded f forwarding =>
    refine ⟨rfl, rfl, .inl ?_⟩
    dsimp only
    split <;> rfl
  | broke spawned => exact ⟨rfl, rfl, claimed⟩
  | taken desc armed => simp [armed] at claimed
  | drew desc stamped => simp [stamped] at claimed
  | _ => exact ⟨rfl, rfl, by simp⟩

/-- A step draws its token from the counter, or keeps the token and its phase's need of one. -/
theorem Acts.token {s t : Router} {a : Action} {conn : Conn} (acts : Acts s a t conn) :
    (conn.token = s.nextToken ∧ t.nextToken = s.nextToken + 1) ∨
    (conn.token = (s.conns a.conn).token ∧ t.nextToken = s.nextToken ∧
      (conn.phase.drawn = true → (s.conns a.conn).phase.drawn = true)) := by
  cases acts with
  -- The one step that draws.
  | drew desc stamped => exact .inl ⟨rfl, rfl⟩
  | @greeted c first waiting =>
    refine .inr ⟨greet_token _ _ _, rfl, ?_⟩
    rcases greet_phase s.host (s.conns c) first with
      ⟨_, _, phased, _⟩ | ⟨_, _, phased⟩ | ⟨_, phased⟩ <;>
    simp [phased]
  | received next relaying =>
    exact .inr ⟨receive_token _ _, rfl, fun _ => by simp [relaying]⟩
  | fired old inserted =>
    refine .inr ⟨rfl, ?_, fun _ => by simp [inserted]⟩
    cases old <;> rfl
  | welcomed welcoming =>
    exact .inr ⟨rfl, by simp [push_eq], fun _ => by simp [welcoming]⟩
  | forwarded f forwarding =>
    exact .inr ⟨rfl, by simp [sendTo_eq], fun _ => by simp [forwarding]⟩
  | replied q owed =>
    exact .inr ⟨rfl, by simp [sendTo_eq],
      fun _ => Phase.drawn_of_entered
        (Phase.entered_of_holding (Conn.holding_of_reply owed))⟩
  | broke spawned => exact .inr ⟨rfl, rfl, id⟩
  | refused => exact .inr ⟨rfl, rfl, by simp⟩
  | taken => exact .inr ⟨rfl, rfl, by simp [refusal]⟩
  | kept => exact .inr ⟨rfl, rfl, by simp⟩
  | departed => exact .inr ⟨rfl, rfl, by simp⟩
  | _ => exact .inr ⟨rfl, rfl, fun _ => by simp_all⟩

/-- An entry of someone other than the connection that took the step stays as it was. -/
private theorem entry_of_ne {s : Router} (wf : WellFormed s) {c : ConnId} {conn : Conn}
    {id : String} {p : Peer} (found : s.peers.lookup id = some p) (other : p.conn ≠ c) :
    (Function.update s.conns c conn p.conn).id = id ∧
      (Function.update s.conns c conn p.conn).token = p.token ∧
      (Function.update s.conns c conn p.conn).phase.holding = true := by
  rw [Function.update_of_ne other]
  exact wf.entry id p found

/-- Every entry names its connection's id and token, and that connection is registered. -/
theorem WellFormed.entry_step {s t : Router} {a : Action} {conn : Conn} (wf : WellFormed s)
    (acts : Acts s a t conn) (id : String) (p : Peer) (found : t.peers.lookup id = some p) :
    (Function.update s.conns a.conn conn p.conn).id = id ∧
      (Function.update s.conns a.conn conn p.conn).token = p.token ∧
      (Function.update s.conns a.conn conn p.conn).phase.holding = true := by
  cases wf.registers acts with
  | unchanged peers claims same =>
    rw [peers] at found
    -- The own entry follows the own variables, which keep id and token.
    by_cases self : p.conn = a.conn
    · obtain ⟨named, token, holding⟩ := wf.entry id p found
      rw [self] at named token holding
      obtain ⟨keptId, keptToken, kept⟩ := acts.keeps_claim (.inl holding)
      rw [self, Function.update_self]
      refine ⟨keptId.trans named, keptToken.trans token, kept.resolve_right ?_⟩
      rw [same, Phase.not_released holding]
      exact Bool.false_ne_true
    · exact entry_of_ne wf found self
  | inserted armed may peers claims same holding =>
    rw [peers] at found
    -- The entry under the claimed id is the new one.
    by_cases own : id = (s.conns a.conn).id
    · subst own
      rw [AList.lookup_insert] at found
      cases found
      rw [Function.update_self]
      exact ⟨same.1, same.2, holding⟩
    · rw [AList.lookup_insert_ne own] at found
      -- The claimant held nothing before it was inserted.
      refine entry_of_ne wf found fun self => ?_
      have registered := (wf.entry id p found).2.2
      simp [self, armed] at registered
  | removed leaving own peers claims released =>
    rw [peers] at found
    by_cases self : id = (s.conns a.conn).id
    · -- What was removed is not found.
      rw [self, AList.lookup_erase] at found
      cases found
    · rw [AList.lookup_erase_ne self] at found
      refine entry_of_ne wf found fun same => self ?_
      rw [← (wf.entry id p found).1, same]
  | ended nothing peers claims released =>
    rw [peers] at found
    exact entry_of_ne wf found fun self => nothing id (by simp [holder, found, self])

/-- Whoever claimed an id has it for good. -/
theorem WellFormed.claimed_step {s t : Router} {a : Action} {conn : Conn} (wf : WellFormed s)
    (acts : Acts s a t conn) (id : String) (c : ConnId) (claim : (id, c) ∈ t.claims) :
    (Function.update s.conns a.conn conn c).id = id ∧
      ((Function.update s.conns a.conn conn c).phase.holding = true ∨
        (Function.update s.conns a.conn conn c).phase.released = true) := by
  -- An earlier claim is kept by the step, whoever takes it.
  have kept : (id, c) ∈ s.claims → (Function.update s.conns a.conn conn c).id = id ∧
      ((Function.update s.conns a.conn conn c).phase.holding = true ∨
        (Function.update s.conns a.conn conn c).phase.released = true) := by
    intro earlier
    obtain ⟨named, stays⟩ := wf.claimed id c earlier
    by_cases self : c = a.conn
    · subst self
      obtain ⟨keptId, _, still⟩ := acts.keeps_claim stays
      rw [Function.update_self]
      exact ⟨keptId.trans named, still⟩
    · rw [Function.update_of_ne self]
      exact ⟨named, stays⟩
  cases wf.registers acts with
  | unchanged peers claims same => exact kept (claims ▸ claim)
  | removed leaving own peers claims released => exact kept (claims ▸ claim)
  | ended nothing peers claims released => exact kept (claims ▸ claim)
  | inserted armed may peers claims same holding =>
    rw [claims] at claim
    -- The claim is the new one, or was made before.
    rcases List.mem_cons.mp claim with new | earlier
    · cases new
      rw [Function.update_self]
      exact ⟨same.1, .inl holding⟩
    · exact kept earlier

/-- A connection has entered by claiming its id in this step, or had entered before it. -/
theorem Acts.registered {s t : Router} {a : Action} {conn : Conn} (acts : Acts s a t conn)
    (entered : conn.phase.entered = true) :
    t.claims = (conn.id, a.conn) :: s.claims ∨
      (t.claims = s.claims ∧ (s.conns a.conn).phase.entered = true ∧
        conn.id = (s.conns a.conn).id) := by
  cases acts with
  | entered desc armed may => exact .inl rfl
  -- A greeting settles an id, and registers nobody.
  | @greeted c first waiting =>
    rcases greet_phase s.host (s.conns c) first with
      ⟨_, _, phased, _⟩ | ⟨_, _, phased⟩ | ⟨_, phased⟩ <;>
    simp [phased] at entered
  | received next relaying =>
    exact .inr ⟨rfl, by simp [relaying], receive_id _ _⟩
  | fired old inserted =>
    refine .inr ⟨?_, by simp [inserted], rfl⟩
    cases old <;> rfl
  | welcomed welcoming =>
    exact .inr ⟨by simp [push_eq], by simp [welcoming], rfl⟩
  | forwarded f forwarding =>
    exact .inr ⟨by simp [sendTo_eq], by simp [forwarding], rfl⟩
  | replied q owed =>
    exact .inr ⟨by simp [sendTo_eq],
      Phase.entered_of_holding (Conn.holding_of_reply owed), rfl⟩
  | broke spawned => exact .inr ⟨rfl, entered, rfl⟩
  -- These steps leave a connection unregistered.
  | refused => simp at entered
  | drew => simp at entered
  | taken => simp [refusal] at entered
  | kept => simp at entered
  | departed => simp at entered
  | _ => exact .inr ⟨rfl, by simp_all, rfl⟩

/-- Claims are never withdrawn. -/
theorem Acts.claims_subset {s t : Router} {a : Action} {conn : Conn} (acts : Acts s a t conn) :
    s.claims ⊆ t.claims := by
  cases acts with
  | entered desc armed may => exact List.subset_cons_self _ _
  | fired old inserted => cases old <;> exact List.Subset.refl _
  | welcomed welcoming => simp [push_eq]
  | forwarded f forwarding => simp [sendTo_eq]
  | replied q owed => simp [sendTo_eq]
  | _ => exact List.Subset.refl _

/-- Every connection that has entered has claimed its id. -/
theorem WellFormed.registered_step {s t : Router} {a : Action} {conn : Conn} (wf : WellFormed s)
    (acts : Acts s a t conn) (c : ConnId)
    (entered : (Function.update s.conns a.conn conn c).phase.entered = true) :
    ((Function.update s.conns a.conn conn c).id, c) ∈ t.claims := by
  by_cases self : c = a.conn
  · subst self
    rw [Function.update_self] at entered ⊢
    -- The connection claims its id now, or has claimed it before.
    rcases acts.registered entered with new | ⟨claims, before, same⟩
    · rw [new]
      exact List.mem_cons_self
    · rw [claims, same]
      exact wf.registered _ before
  · rw [Function.update_of_ne self] at entered ⊢
    exact acts.claims_subset (wf.registered c entered)

/-- Every claimed id was stamped. -/
theorem WellFormed.genuine_step {s t : Router} {a : Action} {conn : Conn} (wf : WellFormed s)
    (acts : Acts s a t conn) (id : String) (c : ConnId) (claim : (id, c) ∈ t.claims) :
    ∃ proposed, stamp proposed s.host = some id := by
  cases wf.registers acts with
  | unchanged peers claims same => exact wf.genuine id c (claims ▸ claim)
  | removed leaving own peers claims released => exact wf.genuine id c (claims ▸ claim)
  | ended nothing peers claims released => exact wf.genuine id c (claims ▸ claim)
  | inserted armed may peers claims same holding =>
    rw [claims] at claim
    rcases List.mem_cons.mp claim with new | earlier
    · cases new
      -- A claimant is named by a stamp.
      exact (wf.coherent a.conn).named (by simp [armed])
    · exact wf.genuine id c earlier

/-- Every connection is coherent: the one that took the step by it, the others as before. -/
theorem WellFormed.coherent_step {s t : Router} {a : Action} {conn : Conn} (wf : WellFormed s)
    (acts : Acts s a t conn) : ∀ c, (Function.update s.conns a.conn conn c).Coherent t.host := by
  rw [acts.leaves.2]
  apply (Function.forall_update_iff s.conns (p := fun _ conn => conn.Coherent s.host)).mpr
  exact ⟨acts.coherent (wf.coherent _), fun c _ => wf.coherent c⟩

/-- The counter is past every token. -/
theorem WellFormed.fresh_step {s t : Router} {a : Action} {conn : Conn} (wf : WellFormed s)
    (acts : Acts s a t conn) :
    ∀ c, (Function.update s.conns a.conn conn c).token < t.nextToken := by
  apply (Function.forall_update_iff s.conns (p := fun _ conn => conn.token < t.nextToken)).mpr
  have own := wf.fresh a.conn
  -- The counter only grows, and the token that is drawn is what it was.
  rcases acts.token with ⟨drew, counter⟩ | ⟨kept, counter, _⟩
  · refine ⟨by omega, fun c _ => ?_⟩
    have fresh := wf.fresh c
    omega
  · refine ⟨by omega, fun c _ => ?_⟩
    rw [counter]
    exact wf.fresh c

/-- Whoever is past the draw has drawn a token. -/
theorem WellFormed.drawn_step {s t : Router} {a : Action} {conn : Conn} (wf : WellFormed s)
    (acts : Acts s a t conn) : ∀ c, (Function.update s.conns a.conn conn c).phase.drawn = true →
      (Function.update s.conns a.conn conn c).token ≠ 0 := by
  apply (Function.forall_update_iff s.conns
    (p := fun _ conn => conn.phase.drawn = true → conn.token ≠ 0)).mpr
  refine ⟨fun drawn => ?_, fun c _ => wf.drawn c⟩
  rcases acts.token with ⟨drew, _⟩ | ⟨kept, _, before⟩
  · -- The counter starts at one.
    have positive := wf.fresh a.conn
    omega
  · rw [kept]
    exact wf.drawn _ (before drawn)

/-- No two connections have drawn the same token. -/
theorem WellFormed.distinct_step {s t : Router} {a : Action} {conn : Conn} (wf : WellFormed s)
    (acts : Acts s a t conn) (c d : ConnId)
    (set : (Function.update s.conns a.conn conn c).token ≠ 0)
    (same : (Function.update s.conns a.conn conn c).token =
      (Function.update s.conns a.conn conn d).token) : c = d := by
  -- A token that is drawn is above every other one.
  have freshC := wf.fresh c
  have freshD := wf.fresh d
  by_cases left : c = a.conn <;> by_cases right : d = a.conn
  · rw [left, right]
  · subst left
    rw [Function.update_self] at set same
    rw [Function.update_of_ne right] at same
    rcases acts.token with ⟨drew, _⟩ | ⟨kept, _, _⟩
    · omega
    · exact wf.distinct _ _ (kept ▸ set) (kept ▸ same)
  · subst right
    rw [Function.update_self] at same
    rw [Function.update_of_ne left] at set same
    rcases acts.token with ⟨drew, _⟩ | ⟨kept, _, _⟩
    · omega
    · exact wf.distinct _ _ set (kept ▸ same)
  · rw [Function.update_of_ne left] at set same
    rw [Function.update_of_ne right] at same
    exact wf.distinct _ _ set same

/-- Every step keeps the invariant. -/
theorem WellFormed.step {s s' : Router} {a : Action} (wf : WellFormed s)
    (enabled : s.step a = some s') : WellFormed s' := by
  obtain ⟨t, conn, acts, rfl⟩ := step_acts enabled
  -- Each clause is kept for its own reason.
  have coherent := wf.coherent_step acts
  have fresh := wf.fresh_step acts
  have drawn := wf.drawn_step acts
  have entry := wf.entry_step acts
  have claimed := wf.claimed_step acts
  have registered := wf.registered_step acts
  have owned := wf.owned_step acts
  refine ⟨coherent, fresh, drawn, wf.distinct_step acts, entry, claimed, registered, ?_, owned⟩
  intro id c claim
  exact acts.leaves.2 ▸ wf.genuine_step acts id c claim

/-- Every reachable state is well formed. -/
theorem RouterReachable.wellFormed {host : String} {door : ConnId → Bool} {s : Router}
    (reached : RouterReachable host door s) : WellFormed s :=
  reached.invariant (wellFormed_initial host door) fun _ _ _ wf enabled => wf.step enabled

end Zapd
