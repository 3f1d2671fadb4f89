import Zapd.Node.Network
import Zapd.Router.Registry

/-! Who can settle a node's ask: what each frame on its connection's channel can and cannot do. -/

namespace Zapd

open Utf8

/-- A frame that the node takes for the router's own word, whoever sent it. -/
def forges (f : Frame) : Bool := f.typ = PROVIDERS || (f.typ = ERROR && (noRoute f.payload).isSome)

/-- The connection's next step forwards to the node what the node would take for the router's. -/
def Network.forwardsForged (s : Network) (c : ConnId) : Bool :=
  match (s.router.conns c).phase with
  | .forwarding f =>
    match holder s.router.peers f.to_ with
    | some b => b ∈ s.own && forges f
    | none => false
  | _ => false

/-- Nothing forged is forwarded to the node, nobody is called `zapd`, and no length read wraps. -/
def Unforged (s : Network) : NetworkAction → Prop
  | .router (.advance c) => s.forwardsForged c = false
  | .node (.ask _ (.call to_ _)) => to_ ≠ "zapd"
  | .hear => (s.next.all fun q => q.frame.bodyLength < 2 ^ 32) = true
  | .hearRefusal i => ((s.refusal i).all fun g => g.bodyLength < 2 ^ 32) = true
  | _ => True

instance (s : Network) (a : NetworkAction) : Decidable (Unforged s a) := by
  unfold Unforged
  split <;> infer_instance

/-- An error that says of nobody that it was not there. -/
def Refusal (g : Frame) : Prop := g.typ = ERROR ∧ noRoute g.payload = none

/-- A text that begins otherwise is not taken for the one about a missing route. -/
theorem noRoute_other {text lead rest : String} (same : text = lead ++ rest)
    (differs : ¬ "no_route:".toList <+: lead.toList ++ rest.toList) :
    noRoute (asBytes text) = none := by
  -- The text is read as it was written, and does not begin so.
  unfold noRoute stripPrefix
  rw [fromUtf8Lossy_asBytes, same, String.toList_append, if_neg differs]

theorem refusal_badId (proposed : String) : Refusal (errorFrame "" ("bad_id:" ++ proposed)) :=
  ⟨rfl, noRoute_other rfl (by simp [List.cons_prefix_cons])⟩

theorem refusal_taken (id : String) : Refusal (errorFrame "" ("taken:" ++ id)) :=
  ⟨rfl, noRoute_other rfl (by simp [List.cons_prefix_cons])⟩

/-- What a connection writes straight to its stream settles nothing. -/
def Conn.Refuses (conn : Conn) : Prop :=
  (∀ g ∈ conn.socket, Refusal g) ∧ ∀ g e, conn.phase = .refusing g e → Refusal g

/-- A greeting refuses only an id that is none. -/
theorem Conn.Refuses.greet {conn : Conn} (refuses : conn.Refuses) (host : String)
    (first : Except Error (Option Frame)) : (Zapd.greet host conn first).Refuses := by
  -- Only a HELLO whose id cannot be stamped is refused.
  unfold Zapd.greet
  split
  · exact ⟨refuses.1, nofun⟩
  · exact ⟨refuses.1, nofun⟩
  · split
    · exact ⟨refuses.1, nofun⟩
    · split
      · refine ⟨refuses.1, ?_⟩
        rintro g e ⟨⟩
        exact refusal_badId _
      · split
        · exact ⟨refuses.1, nofun⟩
        · exact ⟨refuses.1, nofun⟩

/-- What a step writes straight to the stream is the refusal that its phase holds. -/
theorem Acts.refuses {s t : Router} {a : Action} {conn : Conn} (acts : Acts s a t conn)
    (refuses : (s.conns a.conn).Refuses) : conn.Refuses := by
  cases acts with
  | greeted first waiting => exact refuses.greet s.host first
  | refused written reply e socket result refusing wrote =>
    refine ⟨fun g member => ?_, nofun⟩
    -- The refusal was written, or its stream was gone.
    rcases wrote with same | same
    · exact refuses.1 g (same ▸ member)
    · rw [same] at member
      rcases List.mem_append.mp member with old | new
      · exact refuses.1 g old
      · rw [List.mem_singleton.mp new]
        exact refuses.2 reply e refusing
  -- A browser that names a registered id is refused with its own text.
  | taken desc _ _ _ =>
    refine ⟨refuses.1, ?_⟩
    rintro g e ⟨⟩
    exact refusal_taken _
  -- In the loop nothing is refused.
  | @received c next relaying =>
    refine ⟨?_, fun g e phase => ?_⟩
    · rcases next with _ | _ | _ <;> exact refuses.1
    · have holding := receive_holding (s.conns c) next
      rw [phase] at holding
      cases holding
  | forwarded f _ =>
    refine ⟨refuses.1, fun g e phase => ?_⟩
    simp only at phase
    split at phase <;> cases phase
  | broke _ => exact ⟨refuses.1, refuses.2⟩
  | _ => exact ⟨refuses.1, nofun⟩

/-- Every connection's refusals settle nothing. -/
theorem RouterReachable.refuses {host : String} {door : ConnId → Bool} {s : Router}
    (reached : RouterReachable host door s) (c : ConnId) : (s.conns c).Refuses := by
  refine reached.invariant (P := fun s => ∀ c, (s.conns c).Refuses) ?_ ?_ c
  · intro c
    exact ⟨nofun, nofun⟩
  · intro s a s' refuses enabled c
    -- A step writes on the stream of the connection that takes it.
    rcases step_conns enabled c with ⟨rfl, t, acts⟩ | kept
    · exact acts.refuses (refuses a.conn)
    · rw [kept]
      exact refuses c

/-- A frame of the router's is a refusal, or it settles nothing it should not. -/
theorem Refusal.settles_nothing {g : Frame} (refusal : Refusal g) {who : String}
    {result : Except Error Frame} : ¬ Settles g who result := by
  obtain ⟨typ, none_⟩ := refusal
  intro settles
  -- A refusal is neither a list nor an answer, and names nobody as missing.
  cases settles with
  | providers other => rw [typ] at other; cases other
  | response other => rw [typ] at other; cases other
  | noRoute _ found => rw [none_] at found; cases found

/-- Why a reply is what it is: the router changed, or a frame of the node's channel settled it. -/
def Network.Sourced (s : Network) (k : AskId) (result : Except Error Frame)
    (origin : Option Queued) : Prop :=
  result = .error routerChanged ∨ ∃ q, ∃ c ∈ s.own, origin = some q ∧ q ∈ s.router.queues c ∧
    Settles q.frame (s.node.asks k).request.answerer result

/-- The invariant of the network where nothing is forged. -/
structure Network.Sound (s : Network) : Prop where
  coherent : s.node.Coherent
  /-- Nobody was called that no node can be. -/
  named : ∀ k body, (s.node.asks k).request ≠ .call "zapd" body
  /-- What others sent to the node is not what the router says. -/
  unforged : ∀ c ∈ s.own, ∀ q ∈ s.router.queues c, ∀ a n, q.origin = .relayed a n →
    forges q.frame = false
  sourced : ∀ k result origin, (s.node.asks k).reply = .sent result origin →
    s.Sourced k result origin

/-- Nothing was sent yet. -/
theorem Network.Sound.initial (host : String) (door : ConnId → Bool) (id : String) :
    (Network.initial host door id).Sound where
  coherent := Node.Coherent.join id
  named _ _ same := by cases same
  unforged _ member := by cases member
  sourced _ _ _ replied := by cases replied

/-- A channel on which frames were queued is that of a registered connection. -/
theorem RouterReachable.unqueued {host : String} {door : ConnId → Bool} {s : Router}
    (reached : RouterReachable host door s) {c : ConnId} (hello : (s.conns c).phase = .hello) :
    s.queues c = [] := by
  apply List.eq_nil_iff_forall_not_mem.mpr
  intro q member
  -- Frames are queued only for connections that claimed an id.
  have claimed := (reached.wellFormed.claimed _ _ (reached.traced member).claimed).2
  rw [hello] at claimed
  simp at claimed

/-- Where a reply came from does not change with what is queued and asked later. -/
theorem Network.Sourced.later {s s' : Network} {k : AskId} {result : Except Error Frame}
    {origin : Option Queued} (sourced : s.Sourced k result origin) (own : s.own ⊆ s'.own)
    (queues : ∀ c, s.router.queues c ⊆ s'.router.queues c)
    (request : (s'.node.asks k).request = (s.node.asks k).request) :
    s'.Sourced k result origin := by
  -- The frame is still on its channel, and the ask asked the same.
  rcases sourced with changed | ⟨q, c, mine, from_, member, settles⟩
  · exact .inl changed
  · exact .inr ⟨q, c, own mine, from_, queues c member, request ▸ settles⟩

/-- Queues only grow. -/
theorem step_queues_subset {s s' : Router} {a : Action} (enabled : s.step a = some s')
    (c : ConnId) : s.queues c ⊆ s'.queues c := by
  rw [step_queues enabled]
  exact List.subset_append_left _ _

/-- A step of the router that forwards nothing forged keeps the network sound. -/
theorem Network.Sound.routed {s : Network} {router : Router} {a : Action} {outbox : List Sent}
    (sound : s.Sound) (stepped : s.router.step a = some router)
    (forwards : ∀ c, a = .advance c → s.forwardsForged c = false) :
    Network.Sound { s with router, node := { s.node with outbox } } := by
  refine ⟨sound.coherent.congr rfl rfl rfl, sound.named, ?_, fun k result origin replied => ?_⟩
  · intro c own q member k n relayed
    rcases step_mem stepped member with old | ⟨_, emits⟩
    · exact sound.unforged c own q old k n relayed
    · -- A frame that is queued now is one that the step forwards.
      obtain ⟨f, moves, forwarding, held, rfl⟩ := emits.relayed relayed
      have honest := forwards k moves
      simp only [Network.forwardsForged, forwarding, held] at honest
      have mine : c ∈ s.own := own
      have same : forges ((s.router.conns k).stamped k f).frame = forges f := rfl
      rw [same]
      simpa [mine] using honest
  -- The replies are the node's, which did not move.
  · exact (sound.sourced k result origin replied).later (List.Subset.refl _)
      (step_queues_subset stepped) rfl

/-- An ask with a reply has begun. -/
theorem Node.Coherent.replied_begun {τ : Type} {n : Node τ} (coherent : n.Coherent) {k : AskId}
    {result : Except Error Frame} {origin : Option τ}
    (replied : (n.asks k).reply = .sent result origin) : (n.asks k).phase ≠ .idle := by
  -- Before its phases an ask has no reply.
  intro idle
  have empty := coherent.fresh k (by rw [idle]; rfl)
  rw [empty] at replied
  cases replied

/-- A step of the node that settles nothing but from its channel keeps the network sound. -/
theorem Network.Sound.stepped {s : Network} {node : Node Queued} {a : NodeAction Queued}
    {seats : List (SessionId × ConnId)} {written heard : Nat} (sound : s.Sound)
    (stepped : s.node.step a = some node)
    (named : ∀ k to_ body, a = .ask k (.call to_ body) → to_ ≠ "zapd")
    (settled : ∀ f origin who result, a = .receive f origin → Settles f who result →
      ∃ q, ∃ c ∈ s.own, origin = some q ∧ q ∈ s.router.queues c ∧ q.frame = f)
    (own : s.own ⊆ seats.map Prod.snd)
    (fresh : ∀ c ∈ seats.map Prod.snd, c ∈ s.own ∨ s.router.queues c = []) :
    Network.Sound { s with node, seats, written, heard } := by
  have coherent := sound.coherent.step stepped
  refine ⟨coherent, fun k body same => ?_, fun c mine q member k n relayed => ?_,
    fun k result origin replied => ?_⟩
  · -- An ask keeps its request, or it has just begun.
    rcases node_asked stepped k with kept | ⟨_, asked⟩
    · rw [kept] at same
      exact sound.named k body same
    · rw [same] at asked
      exact named k "zapd" body asked rfl
  · -- A channel of a new connection is empty.
    rcases fresh c mine with old | empty
    · exact sound.unforged c old q member k n relayed
    · have none_ : q ∈ s.router.queues c := member
      rw [empty] at none_
      cases none_
  · -- A reply is old, or it was settled by what was just read.
    rcases node_reply stepped replied with old | ⟨f, who, reads, taken, settles⟩ | ⟨changed, _⟩
    · have kept := node_request stepped (sound.coherent.replied_begun old)
      exact (sound.sourced k result origin old).later own (fun _ => List.Subset.refl _) kept
    · -- The slot names the one who must answer the ask in it.
      obtain ⟨q, c, mine, from_, member, same⟩ := settled f origin who result reads settles
      obtain ⟨answerer, waits, _⟩ := sound.coherent.slot who k taken
      have begun : (s.node.asks k).phase ≠ .idle := by
        intro idle
        rw [idle] at waits
        cases waits
      have kept : (node.asks k).request = (s.node.asks k).request := node_request stepped begun
      refine .inr ⟨q, c, own mine, from_, member, ?_⟩
      rw [same]
      simp only [kept, ← answerer]
      exact settles
    · exact .inl changed

/-- Every step where nothing is forged keeps the network sound. -/
theorem Network.Sound.step {hello : Frame} {host : String} {door : ConnId → Bool} {id : String}
    {s s' : Network} {a : NetworkAction} (reached : NetworkReachable hello host door id s)
    (sound : s.Sound) (unforged : Unforged s a) (enabled : s.step hello a = some s') :
    s'.Sound := by
  cases network_moves enabled with
  -- Only a connection's own step forwards what it read.
  | @routed _ r router stepped advances =>
    refine sound.routed stepped fun c same => ?_
    have moves := advances c same
    subst moves
    exact unforged
  | carried stepped => exact sound.routed stepped nofun
  -- A frame that is written was queued before.
  | wrote => exact ⟨sound.coherent, sound.named, sound.unforged, sound.sourced⟩
  -- What the node does by itself reads nothing.
  | @moved m node stepped inside =>
    refine sound.stepped stepped (fun k to_ body same => ?_)
      (fun f origin _ _ same => absurd same (inside f origin)) (List.Subset.refl _)
      fun c mine => .inl mine
    subst same
    exact unforged
  | @dialed c node stepped hello =>
    refine sound.stepped stepped nofun nofun (List.subset_cons_self _ _) fun b mine => ?_
    -- Nothing was queued yet for a connection that still waits for its HELLO.
    rcases List.mem_cons.mp mine with rfl | old
    · exact .inr (reached.router.unqueued hello)
    · exact .inl old
  | @heard q c f node next mine member read stepped =>
    have short : q.frame.bodyLength < 2 ^ 32 := by simpa [Unforged, next] using unforged
    have same := reread_eq short read
    refine sound.stepped stepped nofun (fun g origin _ _ reads _ => ?_) (List.Subset.refl _)
      fun c mine => .inl mine
    -- What the node read is a frame of its own channel.
    cases reads
    exact ⟨q, c, mine, rfl, member, same.symm⟩
  | @refused i g f c node found member read stepped =>
    have short : g.bodyLength < 2 ^ 32 := by simpa [Unforged, found] using unforged
    have same := reread_eq short read
    refine sound.stepped stepped nofun (fun h origin who result reads settles => ?_)
      (List.Subset.refl _) fun c mine => .inl mine
    -- A refusal on the stream settles nothing.
    cases reads
    rw [same] at settles
    exact absurd settles ((reached.router.refuses c).1 g member).settles_nothing
  -- The end of a session settles its ask with no frame.
  | hungUp stepped =>
    exact sound.stepped stepped nofun nofun (List.Subset.refl _) fun c mine => .inl mine

/-- An ask is completed only by the one it asked, in one state of the network. -/
structure Network.Authentic (s : Network) : Prop where
  /-- A call succeeds only on a RESPONSE of the callee, with the sender that the router stamped. -/
  call : ∀ k to_ body f, (s.node.asks k).request = .call to_ body →
    (s.node.asks k).phase = .returned (.ok f) →
    ∃ a n, (s.node.asks k).reply = .sent (.ok f) (some ⟨f, .relayed a n⟩) ∧
      f.typ = RESPONSE ∧ f.from_ = to_ ∧ (to_, a) ∈ s.router.claims
  /-- A list succeeds only on one that the router made of its registry. -/
  nodes : ∀ k f, (s.node.asks k).request = .nodes → (s.node.asks k).phase = .returned (.ok f) →
    ∃ a n filter entries,
      (s.node.asks k).reply = .sent (.ok f) (some ⟨f, .listing a n filter entries⟩) ∧
      f = Frame.new PROVIDERS "zapd" f.to_ (encodeProviders entries)
  /-- An ask finds nobody only when the router said so. -/
  noRoute : ∀ k e, (s.node.asks k).phase = .returned (.error e) → e.kind = .notFound →
    ∃ q a n, (s.node.asks k).reply = .sent (.error e) (some q) ∧ q.origin = .answer a n ∧
      q.frame = errorFrame q.frame.to_ ("no_route:" ++ (s.node.asks k).request.answerer)

/-- Who a frame on a channel can be from, as far as it can settle anything. -/
inductive Authored (s : Router) (q : Queued) : Prop
  | relayed {a : ConnId} {n : Nat} : q.origin = .relayed a n → (q.frame.from_, a) ∈ s.claims →
      Authored s q
  | answer {a : ConnId} {n : Nat} {f : Frame} : q.origin = .answer a n →
      q.frame = errorFrame q.frame.to_ (answerText f) → Authored s q
  | listing {a : ConnId} {n : Nat} {filter : String} {entries : List Entry} :
      q.origin = .listing a n filter entries →
      q.frame = Frame.new PROVIDERS "zapd" q.frame.to_ (encodeProviders entries) → Authored s q
  | other : q.frame.typ ≠ PROVIDERS → q.frame.typ ≠ RESPONSE → q.frame.typ ≠ ERROR → Authored s q

/-- Every queued frame is from somebody. -/
theorem Traced.authored {s : Router} {b : ConnId} {q : Queued} (traced : Traced s b q) :
    Authored s q := by
  have accounted := traced.accounted
  -- Each origin fixes the type or the sender of its frames.
  cases origin : q.origin with
  | welcome c =>
    rw [origin] at accounted
    have typ : q.frame.typ = WELCOME := by rw [accounted]; rfl
    exact .other (by rw [typ]; decide) (by rw [typ]; decide) (by rw [typ]; decide)
  | presence c subject connected =>
    rw [origin] at accounted
    have typ : q.frame.typ = presenceType connected := by rw [accounted.1]; rfl
    cases connected <;>
      exact .other (by rw [typ]; decide) (by rw [typ]; decide) (by rw [typ]; decide)
  | relayed a n =>
    rw [origin] at accounted
    obtain ⟨f, _, _, claimed, built⟩ := accounted
    exact .relayed origin (by rw [built]; exact claimed)
  | answer a n =>
    rw [origin] at accounted
    obtain ⟨f, _, _, built⟩ := accounted
    exact .answer origin built
  | listing a n filter entries =>
    rw [origin] at accounted
    obtain ⟨_, _, _, _, _, _, built⟩ := accounted
    exact .listing origin built

/-- A list that nobody forged is the router's. -/
theorem Authored.list {s : Router} {q : Queued} (authored : Authored s q)
    (typ : q.frame.typ = PROVIDERS) (unforged : ∀ a n, q.origin = .relayed a n →
      forges q.frame = false) : ∃ a n filter entries, q.origin = .listing a n filter entries ∧
        q.frame = Frame.new PROVIDERS "zapd" q.frame.to_ (encodeProviders entries) := by
  cases authored with
  -- A list that a node sent would be a forgery.
  | relayed origin _ =>
    have honest := unforged _ _ origin
    simp [forges, typ] at honest
  -- A missing answer is of another type.
  | answer _ built =>
    rw [built] at typ
    cases typ
  -- The router's own list is what it says it is.
  | listing origin built => exact ⟨_, _, _, _, origin, built⟩
  | other notList _ _ => exact absurd typ notList

/-- A RESPONSE is forwarded, with the registered id of its sender on it. -/
theorem Authored.response {s : Router} {q : Queued} (authored : Authored s q)
    (typ : q.frame.typ = RESPONSE) :
    ∃ a n, q.origin = .relayed a n ∧ (q.frame.from_, a) ∈ s.claims := by
  cases authored with
  -- Only nodes send answers to calls.
  | relayed origin claimed => exact ⟨_, _, origin, claimed⟩
  -- The router's own frames are of other types.
  | answer _ built =>
    rw [built] at typ
    cases typ
  | listing _ built =>
    rw [built] at typ
    cases typ
  | other _ notResponse _ => exact absurd typ notResponse

/-- An error about a missing route that nobody forged is the router's. -/
theorem Authored.missing {s : Router} {q : Queued} (authored : Authored s q) {dest : String}
    (typ : q.frame.typ = ERROR) (found : noRoute q.frame.payload = some dest)
    (unforged : ∀ a n, q.origin = .relayed a n → forges q.frame = false) :
    ∃ a n, q.origin = .answer a n ∧
      q.frame = errorFrame q.frame.to_ ("no_route:" ++ dest) := by
  cases authored with
  -- Such an error would be a forgery if a node had sent it.
  | relayed origin _ =>
    have honest := unforged _ _ origin
    simp [forges, typ, found] at honest
  | @answer a n f origin built =>
    refine ⟨a, n, origin, ?_⟩
    -- The payload is the router's own text, so the lossy reading of it is that text.
    have text : answerText f = "no_route:" ++ dest := by
      rw [built] at found
      have stripped :
          stripPrefix (fromUtf8Lossy (asBytes (answerText f))) "no_route:" = some dest := found
      rw [fromUtf8Lossy_asBytes] at stripped
      exact stripPrefix_eq_some.mp stripped
    rw [← text]
    exact built
  | listing _ built =>
    rw [built] at typ
    cases typ
  | other _ _ notError => exact absurd typ notError

/-- Where nothing is forged, an ask is completed only by the one it asked. -/
theorem answers_authentic {hello : Frame} {host : String} {door : ConnId → Bool} {id : String}
    {s : Network} (reached : Transition.GuardedReachable Unforged (Network.step hello)
      (Network.initial host door id) s) : s.Authentic := by
  have network : NetworkReachable hello host door id s := reached.reachable
  have sound : s.Sound := by
    refine reached.induction (Network.Sound.initial host door id) ?_
    intro state action next reach unforged sound enabled
    exact Network.Sound.step reach sound unforged enabled
  have authored : ∀ c q, q ∈ s.router.queues c → Authored s.router q := fun c q member =>
    (network.router.traced member).authored
  -- What an ask returns is what a frame of the node's channel settled it with.
  have settled : ∀ k result, (s.node.asks k).phase = .returned result →
      result ≠ .error routerChanged → ∃ q, ∃ c ∈ s.own, q ∈ s.router.queues c ∧
        (s.node.asks k).reply = .sent result (some q) ∧
        Settles q.frame (s.node.asks k).request.answerer result := by
    intro k result returned real
    obtain ⟨origin, replied⟩ := (sound.coherent.settled k result returned).resolve_left real
    obtain ⟨q, c, own, rfl, member, settles⟩ :=
      (sound.sourced k result origin replied).resolve_left real
    exact ⟨q, c, own, member, replied, settles⟩
  refine ⟨fun k to_ body f called returned => ?_, fun k f listed returned => ?_,
    fun k e returned missing => ?_⟩
  -- A call is settled by an answer whose sender the router stamped.
  · obtain ⟨⟨frame, origin⟩, c, own, member, replied, settles⟩ := settled k _ returned nofun
    rw [called] at settles
    generalize named : (Request.call to_ body).answerer = who at settles
    cases settles with
    | providers typ =>
      -- Nobody is called by the router's own name.
      have zapd : to_ = "zapd" := named
      exact absurd (zapd ▸ called) (sound.named k body)
    | response typ =>
      obtain ⟨a, n, from_, claimed⟩ := (authored c _ member).response typ
      have answerer : to_ = frame.from_ := named
      cases from_
      exact ⟨a, n, replied, typ, answerer.symm, answerer ▸ claimed⟩
  · obtain ⟨⟨frame, origin⟩, c, own, member, replied, settles⟩ := settled k _ returned nofun
    rw [listed] at settles
    generalize named : Request.nodes.answerer = who at settles
    cases settles with
    | providers typ =>
      obtain ⟨a, n, filter, entries, from_, built⟩ :=
        (authored c _ member).list typ (sound.unforged c own _ member)
      cases from_
      exact ⟨a, n, filter, entries, replied, built⟩
    | response typ =>
      -- Nobody is registered under the router's own name.
      obtain ⟨a, n, _, claimed⟩ := (authored c _ member).response typ
      obtain ⟨proposed, stamped⟩ := network.router.wellFormed.genuine _ _ claimed
      have zapd : "zapd" = frame.from_ := named
      exact absurd zapd.symm (stamp_ne_zapd stamped)
  -- An error about a missing route is not the one of a lost session.
  · have real : (.error e : Except Error Frame) ≠ .error routerChanged := by
      rintro ⟨⟩
      cases missing
    obtain ⟨q, c, own, member, replied, settles⟩ := settled k _ returned real
    generalize (s.node.asks k).request.answerer = who at settles ⊢
    cases settles with
    -- It is the router's answer to the frame that nobody took.
    | noRoute typ found =>
      obtain ⟨a, n, from_, built⟩ :=
        (authored c q member).missing typ found (sound.unforged c own q member)
      exact ⟨q, a, n, replied, from_, built⟩

/-- The HELLO of the node in the runs below. -/
def someHello : Frame := helloOf "cli/n" 0 "" []

/-- The steps by which a node's session is registered, and welcomed. -/
def seated (c : ConnId) : List NetworkAction :=
  [.node (.ask 0 .nodes), .dial c, .greet c, .router (.advance c), .router (.advance c),
    .router (.advance c), .router (.advance c), .router (.advance c), .write, .hear,
    .node .proceed, .node .proceed, .node (.turn 0), .node (.see 0), .node (.store 0),
    .node (.send 0)]

/-- A list that the router answers. -/
theorem answers_authentic_list : ∃ s, Transition.run (Network.step someHello)
      (Network.initial "dgx" (fun _ => false) "cli/n")
      (seated 0 ++ [.carry 0, .router (.snapshot 0 [⟨"cli/dgx/n", ⟨0, "", [], []⟩⟩]),
        .router (.advance 0), .write, .hear, .node (.finish 0)]) = some s ∧
    (s.node.asks 0).listed = some (.ok [⟨"cli/dgx/n", ⟨0, "", [], []⟩⟩]) ∧ s.Authentic := by
  -- The router answers the node that asked for the list.
  have unforged : Transition.Guarded Unforged (Network.step someHello)
      (Network.initial "dgx" (fun _ => false) "cli/n")
      (seated 0 ++ [.carry 0, .router (.snapshot 0 [⟨"cli/dgx/n", ⟨0, "", [], []⟩⟩]),
        .router (.advance 0), .write, .hear, .node (.finish 0)]) := by decide +kernel
  have ran : (Transition.run (Network.step someHello)
      (Network.initial "dgx" (fun _ => false) "cli/n")
      (seated 0 ++ [.carry 0, .router (.snapshot 0 [⟨"cli/dgx/n", ⟨0, "", [], []⟩⟩]),
        .router (.advance 0), .write, .hear, .node (.finish 0)])).map
        (fun s => (s.node.asks 0).listed) =
      some (some (.ok [⟨"cli/dgx/n", ⟨0, "", [], []⟩⟩])) := by decide +kernel
  obtain ⟨s, ran, listed⟩ := Option.map_eq_some_iff.mp ran
  exact ⟨s, ran, listed, answers_authentic ⟨_, unforged, ran⟩⟩

/--
Another node routes a frame of type PROVIDERS to the node while it waits for a list.

The node takes it for the router's: it returns a list that the router never made.
-/
theorem answers_forged : ∃ s, NetworkReachable someHello "dgx" (fun _ => false) "cli/n" s ∧
    (s.node.asks 0).request = .nodes ∧ (s.node.asks 0).listed = some (.ok []) ∧
    (s.node.asks 0).reply = .sent
      (.ok (Frame.new PROVIDERS "agent/dgx/m" "cli/dgx/n" (encodeProviders [])))
      (some ⟨Frame.new PROVIDERS "agent/dgx/m" "cli/dgx/n" (encodeProviders []), .relayed 1 0⟩) ∧
    ¬ s.Authentic := by
  -- Another node sends a list of nobody before the router answers.
  have ran : (Transition.run (Network.step someHello)
      (Network.initial "dgx" (fun _ => false) "cli/n")
      (seated 0 ++ (joins 1 "agent/m").map .router ++
        [.router (.read 1 (.ok (some
            (Frame.new PROVIDERS "" "cli/dgx/n" (encodeProviders []))))),
          .router (.advance 1), .write, .write, .hear, .hear, .node (.finish 0)])).map
      (fun s => ((s.node.asks 0).request, (s.node.asks 0).phase, (s.node.asks 0).reply)) =
      some (.nodes,
        .returned (.ok (Frame.new PROVIDERS "agent/dgx/m" "cli/dgx/n" (encodeProviders []))),
        .sent (.ok (Frame.new PROVIDERS "agent/dgx/m" "cli/dgx/n" (encodeProviders [])))
          (some ⟨Frame.new PROVIDERS "agent/dgx/m" "cli/dgx/n" (encodeProviders []),
            .relayed 1 0⟩)) := by decide +kernel
  obtain ⟨s, ran, outcome⟩ := Option.map_eq_some_iff.mp ran
  simp only [Prod.mk.injEq] at outcome
  obtain ⟨request, phase, replied⟩ := outcome
  refine ⟨s, ⟨_, ran⟩, request, ?_, replied, fun authentic => ?_⟩
  · simp only [Ask.listed, phase]
    rfl
  · -- What was returned is the other node's frame, and not a listing.
    obtain ⟨a, n, filter, entries, made, _⟩ := authentic.nodes 0 _ request phase
    rw [made] at replied
    cases replied

end Zapd
