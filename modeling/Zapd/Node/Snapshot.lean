import Zapd.Node.Authenticity
import Zapd.Node.Ls
import Zapd.Router.Listing
import Zapd.Router.Rejoin

/-! What `zapd ls` prints is the registry as it was at one moment, whatever order the map is in. -/

namespace Zapd

open Transition Utf8 Sorted

variable {hello : Frame} {host id : String} {door : ConnId → Bool} {s s' : Network}

/-- The registry, as it was when the router took the snapshot that answers the connection's `n`-th
frame, holds these entries under this filter, in some order. -/
def Network.Saw (hello : Frame) (host : String) (door : ConnId → Bool) (id : String) (s : Network)
    (a : ConnId) (n : Nat) (filter : String) (entries : List Entry) : Prop :=
  ∃ past actions, NetworkReachable hello host door id past ∧
    run (Network.step hello) past actions = some s ∧
    (past.router.conns a).phase = .listing filter ∧
    (past.router.conns a).received.length = n + 1 ∧
    entries.Perm (list past.router.peers filter)

/-- What was seen before was seen still. -/
theorem Network.Saw.step {a : ConnId} {n : Nat} {filter : String} {entries : List Entry}
    {action : NetworkAction} (saw : s.Saw hello host door id a n filter entries)
    (enabled : s.step hello action = some s') : s'.Saw hello host door id a n filter entries := by
  -- The moment is the same, and this step comes after it.
  obtain ⟨past, actions, reached, ran, moment⟩ := saw
  refine ⟨past, actions ++ [action], reached, ?_, moment⟩
  rw [run_append, ran]
  exact run_single enabled

/-- Every list that is queued or about to be was seen when its request was answered. -/
structure Network.Snapped (hello : Frame) (host : String) (door : ConnId → Bool) (id : String)
    (s : Network) : Prop where
  taken : ∀ c filter entries, (s.router.conns c).phase = .listed filter entries →
    s.Saw hello host door id c ((s.router.conns c).received.length - 1) filter entries
  queued : ∀ b, ∀ q ∈ s.router.queues b, ∀ a n filter entries,
    q.origin = .listing a n filter entries → s.Saw hello host door id a n filter entries

/-- Only a snapshot leads to a list that is about to be queued. -/
theorem Acts.listed {r t : Router} {a : Action} {conn : Conn} {filter : String}
    {entries : List Entry} (acts : Acts r a t conn) (listed : conn.phase = .listed filter entries) :
    conn.received = (r.conns a.conn).received ∧
      ((r.conns a.conn).phase = .listed filter entries ∨
        ((r.conns a.conn).phase = .listing filter ∧ entries.Perm (list r.peers filter))) := by
  cases acts with
  -- A HELLO leads to a registration, a refusal or an error.
  | greeted first waiting =>
    rcases greet_phase r.host (r.conns _) first with
      ⟨_, _, phased, _⟩ | ⟨_, _, phased⟩ | ⟨_, phased⟩ <;>
    rw [phased] at listed <;> cases listed
  | @received c next relaying =>
    rcases next with e | _ | f
    · cases listed
    · cases listed
    · -- A frame that asks for a list leads to the snapshot first.
      simp only [receive, dispatch] at listed
      split at listed
      · split at listed
        · cases listed
        · split at listed <;> cases listed
      · cases listed
  -- A frame that was sent on leads back to the loop.
  | forwarded f forwarding =>
    dsimp only at listed
    split at listed <;> cases listed
  | @snapped c filter' entries' listing snapshot =>
    cases listed
    exact ⟨rfl, .inr ⟨listing, snapshot⟩⟩
  -- A writer that fails leaves its connection where it is.
  | broke spawned => exact ⟨rfl, .inl listed⟩
  | _ => cases listed

/-- Every step queues only lists that were seen. -/
theorem Network.Snapped.step {a : NetworkAction} (snapped : s.Snapped hello host door id)
    (reached : NetworkReachable hello host door id s) (enabled : s.step hello a = some s') :
    s'.Snapped hello host door id := by
  rcases network_router enabled with same | ⟨r, stepped, _⟩
  · constructor
    · intro c filter entries listed
      rw [same] at listed ⊢
      exact (snapped.taken c filter entries listed).step enabled
    · intro b q member a n filter entries origin
      exact (snapped.queued b q (same ▸ member) a n filter entries origin).step enabled
  constructor
  · intro c filter entries listed
    rcases step_conns stepped c with ⟨rfl, t, acts⟩ | kept
    · obtain ⟨received, before | ⟨listing, perm⟩⟩ := acts.listed listed
      · rw [received]
        exact (snapped.taken _ filter entries before).step enabled
      · -- The snapshot is taken now, for the frame that was read last.
        obtain ⟨f, last, _⟩ := by simpa [listing] using
          (reached.router.wellFormed.coherent r.conn).inHand
        obtain ⟨some_, _⟩ := List.getElem?_eq_some_iff.mp last
        refine ⟨s, [a], reached, run_single enabled, listing, ?_, perm⟩
        rw [received]
        omega
    · rw [kept] at listed ⊢
      exact (snapped.taken c filter entries listed).step enabled
  -- A list is queued by the connection that took the snapshot.
  · intro b q member c n filter entries origin
    rcases step_mem stepped member with old | ⟨_, emits⟩
    · exact (snapped.queued b q old c n filter entries origin).step enabled
    · cases emits with
      | welcomed | announced | forwarded => cases origin
      | @replied c' q owed held =>
        -- Of the three replies one is a list.
        unfold Conn.reply at owed
        split at owed
        · cases owed
          cases origin
        · rename_i filter' entries' phased
          cases owed
          cases origin
          exact (snapped.taken _ _ _ phased).step enabled
        · cases owed
          cases origin
        · cases owed

/-- Every list in a reachable network was seen. -/
theorem NetworkReachable.snapped (reached : NetworkReachable hello host door id s) :
    s.Snapped hello host door id := by
  -- At first no list is queued, nor about to be.
  have nothing : (Network.initial host door id).Snapped hello host door id := by
    constructor
    · intro c filter entries listed
      cases listed
    · intro b q member
      cases member
  refine Reachable.induction reached nothing ?_
  intro s a s' reach snapped enabled
  exact snapped.step reach enabled

/-- What is read has the type of what was written, even where its length wrapped. -/
theorem reread_typ {f g : Frame} (read : f.reread = .ok (some g)) : g.typ = f.typ := by
  obtain ⟨outcome, taken, found⟩ : ∃ outcome, Frame.read f.encode = .ok outcome ∧
      outcome.map Prod.fst = some g := by
    unfold Frame.reread at read
    cases taken : Frame.read f.encode with
    | error e =>
      rw [taken] at read
      cases read
    | ok outcome =>
      rw [taken] at read
      exact ⟨outcome, rfl, Except.ok.inj read⟩
  -- What was read is some frame at the front of the encoding.
  obtain ⟨⟨h, rest⟩, rfl, rfl⟩ := Option.map_eq_some_iff.mp found
  obtain ⟨framed, body, same, ⟨rfl, _⟩, parsed⟩ := read_ok.mp taken
  obtain ⟨source, destination, _, _, _, rfl, _⟩ := body_ok.mp parsed
  -- Both length prefixes are four bytes, and the type comes next.
  rw [encode_eq_layout, List.append_assoc] at same
  obtain ⟨_, same⟩ := List.append_inj same (by simp)
  exact (List.cons.inj same).1.symm

/-- Where the node asks for a list it asks for all nodes, and so does what its connections read. -/
structure Network.Plain (s : Network) : Prop where
  sent : ∀ sent ∈ s.node.outbox, sent.frame.typ = PROVIDERS_LIST →
    sent.frame = Request.nodes.frame
  received : ∀ c ∈ s.own, ∀ f ∈ (s.router.conns c).received, f.typ = PROVIDERS_LIST →
    f = Request.nodes.frame

/-- A step of the router in which the node's connections read only what the node says of lists. -/
theorem Network.Plain.routed (plain : s.Plain) {r : Action} {router : Router} {outbox : List Sent}
    (fewer : outbox ⊆ s.node.outbox) (stepped : s.router.step r = some router)
    (reads : ∀ c f, r = .read c (.ok (some f)) → c ∈ s.own →
      (s.router.conns c).phase = .relaying → f.typ = PROVIDERS_LIST → f = Request.nodes.frame) :
    Network.Plain { s with router, node := { s.node with outbox } } := by
  refine ⟨fun sent member => plain.sent sent (fewer member), fun c own f member typ => ?_⟩
  dsimp only at member
  rcases step_conns stepped c with ⟨rfl, t, acts⟩ | kept
  -- A connection reads one frame more, in its loop, or none.
  · rcases acts.received_eq with same | ⟨g, read, relaying, more, _⟩
    · rw [same] at member
      exact plain.received _ own f member typ
    · rw [more] at member
      rcases List.mem_append.mp member with old | new
      · exact plain.received _ own f old typ
      · rw [List.mem_singleton.mp new] at typ ⊢
        exact reads _ g read own relaying typ
  · rw [kept] at member
    exact plain.received c own f member typ

/-- A step of the node, which sends its own requests only. -/
theorem Network.Plain.stepped (plain : s.Plain) {a : NodeAction Queued} {node : Node Queued}
    {heard : Nat} (stepped : s.node.step a = some node) :
    Network.Plain { s with node, heard } := by
  refine ⟨fun sent member typ => ?_, plain.received⟩
  rcases node_outbox stepped with same | ⟨k, session, _, _, _, more⟩
  · rw [same] at member
    exact plain.sent sent member typ
  · rw [more] at member
    rcases List.mem_append.mp member with old | new
    · exact plain.sent sent old typ
    · -- A call is of another type.
      rw [List.mem_singleton.mp new] at typ ⊢
      cases request : (s.node.asks k).request with
      | nodes => rfl
      | call to_ payload =>
        rw [request] at typ
        cases typ

/-- Every step keeps the node's requests for lists as they are. -/
theorem Network.Plain.step (plain : s.Plain) (reached : NetworkReachable hello host door id s)
    {a : NetworkAction} (enabled : s.step hello a = some s') : s'.Plain := by
  cases a with
  | router r =>
    obtain ⟨silent, moved⟩ := Option.ite_none_left_eq_some.mp enabled
    obtain ⟨router, stepped, rfl⟩ := Option.map_eq_some_iff.mp moved
    refine plain.routed (List.Subset.refl _) stepped fun c f same own _ => ?_
    -- Nobody else speaks on the node's connections.
    subst same
    simp [Action.speaksFor, own] at silent
  | node m =>
    obtain ⟨_, moved⟩ := Option.ite_none_left_eq_some.mp enabled
    obtain ⟨node, stepped, rfl⟩ := Option.map_eq_some_iff.mp moved
    exact plain.stepped stepped
  | dial c =>
    obtain ⟨⟨_, waits, _⟩, moved⟩ := Option.ite_none_right_eq_some.mp enabled
    obtain ⟨node, stepped, rfl⟩ := Option.map_eq_some_iff.mp moved
    -- The dial itself sends nothing.
    have next : Network.Plain { s with node } := plain.stepped stepped
    refine ⟨next.sent, fun d own f member => ?_⟩
    rcases List.mem_cons.mp own with rfl | old
    · -- A connection that waits for its HELLO has read nothing else.
      have hello : (s.router.conns d).phase = .hello := by
        cases phase : (s.router.conns d).phase <;> simp [phase, Phase.isHello] at waits ⊢
      dsimp only at member
      rw [reached.router.pristine hello] at member
      cases member
    · exact plain.received d old f member
  | greet c =>
    obtain ⟨⟨_, waits⟩, moved⟩ := Option.ite_none_right_eq_some.mp enabled
    obtain ⟨router, stepped, rfl⟩ := Option.map_eq_some_iff.mp moved
    refine plain.routed (List.Subset.refl _) stepped fun d f same _ relaying => ?_
    -- The HELLO comes before the loop that reads requests.
    rw [(Action.read.inj same).1, relaying] at waits
    cases waits
  | carry i =>
    obtain ⟨sent, found, moved⟩ := Option.bind_eq_some_iff.mp enabled
    obtain ⟨c, _, moved⟩ := Option.bind_eq_some_iff.mp moved
    obtain ⟨_, moved⟩ := Option.ite_none_right_eq_some.mp moved
    obtain ⟨router, stepped, rfl⟩ := Option.map_eq_some_iff.mp moved
    refine plain.routed (List.eraseIdx_subset ..) stepped fun d f same _ _ typ => ?_
    have read := (Action.read.inj same).2
    -- The request for a list is read as it was sent.
    have asked := plain.sent sent (List.mem_of_getElem? found) ((reread_typ read).symm.trans typ)
    rw [asked] at read
    have fits : Request.nodes.frame.Fits := by decide
    exact reread_eq (fits.size.trans_lt (by decide)) read
  | write =>
    obtain ⟨c, _, moved⟩ := Option.bind_eq_some_iff.mp enabled
    obtain ⟨_, moved⟩ := Option.ite_none_right_eq_some.mp moved
    cases moved
    exact ⟨plain.sent, plain.received⟩
  | hear =>
    obtain ⟨q, _, moved⟩ := Option.bind_eq_some_iff.mp enabled
    obtain ⟨node, read, rfl⟩ := Option.map_eq_some_iff.mp moved
    -- What the session reads makes it send nothing.
    rcases sessionRead_spec read with ⟨_, _, stepped⟩ | stepped <;> exact plain.stepped stepped
  | hearRefusal i =>
    obtain ⟨g, _, moved⟩ := Option.bind_eq_some_iff.mp enabled
    obtain ⟨node, read, rfl⟩ := Option.map_eq_some_iff.mp moved
    rcases sessionRead_spec read with ⟨_, _, stepped⟩ | stepped <;> exact plain.stepped stepped
  | close =>
    obtain ⟨c, _, moved⟩ := Option.bind_eq_some_iff.mp enabled
    obtain ⟨_, moved⟩ := Option.ite_none_right_eq_some.mp moved
    obtain ⟨node, stepped, rfl⟩ := Option.map_eq_some_iff.mp moved
    exact plain.stepped stepped

/-- The node of a reachable network asks for all nodes, where it asks for a list. -/
theorem NetworkReachable.plain (reached : NetworkReachable hello host door id s) : s.Plain := by
  -- At first nothing was sent, and there are no connections.
  refine Reachable.induction reached ⟨nofun, nofun⟩ ?_
  intro s a s' reach plain enabled
  exact plain.step reach enabled

/-- The router's list with this origin answers a request under the id of one of the node's
connections, read off one of them or of another that has the same id. -/
structure Network.Answers (s : Network) (a : ConnId) (n : Nat) (request : Frame) : Prop where
  read : (s.router.conns a).received[n]? = some request
  typ : request.typ = PROVIDERS_LIST
  addressed : request.to_ = ""
  named : ∃ c ∈ s.own, (s.router.conns a).id = (s.router.conns c).id
  /-- The node's own requests ask for all nodes. -/
  plain : a ∈ s.own → request.payload = []

/-- Where nothing is forged, a list that was returned is one that the router queued. -/
theorem Network.Sound.lists (sound : s.Sound) (reached : NetworkReachable hello host door id s)
    {k : AskId} {f : Frame} (asked : (s.node.asks k).request = .nodes)
    (returned : (s.node.asks k).phase = .returned (.ok f)) :
    ∃ c q a n request entries, q ∈ s.router.queues c ∧ s.Answers a n request ∧
      q.origin = .listing a n (decodeBrandFilter request.payload) entries ∧
      f.payload = encodeProviders entries := by
  -- The list that was returned settled the ask, so it came off one of the node's channels.
  obtain ⟨origin, replied⟩ := (sound.coherent.settled k _ returned).resolve_left (by simp)
  obtain ⟨q, c, own, rfl, member, settles⟩ :=
    (sound.sourced k _ origin replied).resolve_left (by simp)
  have traced := reached.router.traced member
  rw [asked] at settles
  generalize named : Request.nodes.answerer = who at settles
  cases settles with
  -- No other node forged it, so the router built it.
  | providers typ =>
    obtain ⟨a, n, filter, entries, listed, built⟩ :=
      traced.authored.list typ (sound.unforged c own _ member)
    have accounted := traced.accounted
    rw [listed] at accounted
    -- The list goes back to a request that a connection of the same id read.
    obtain ⟨request, read, addressed, typ, rfl, claimed, _⟩ := accounted
    have same := (reached.router.wellFormed.claimed _ _ claimed).1
    refine ⟨c, q, a, n, request, entries, member, ⟨read, typ, addressed,
      ⟨c, own, same.trans traced.addressed⟩, fun mine => ?_⟩, listed, by rw [built]; rfl⟩
    · rw [reached.plain.received a mine request (List.mem_of_getElem? read) typ]
      rfl
  | response typ =>
    -- Nobody is registered under the router's own name.
    obtain ⟨a, n, _, claimed⟩ := traced.authored.response typ
    obtain ⟨proposed, stamped⟩ := reached.router.wellFormed.genuine _ _ claimed
    exact absurd named.symm (stamp_ne_zapd stamped)

end Zapd
