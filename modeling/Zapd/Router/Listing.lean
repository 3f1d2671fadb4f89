import Zapd.Codec.ControlLaws
import Zapd.Router.Forwarding

/-! When the registry's list can be read back, and by whom it cannot. -/

namespace Zapd

open Utf8

/-- A descriptor some hello body decodes to. -/
def Decoded (desc : Descriptor) : Prop := ∃ payload, decodeHello payload = .ok desc

/-- An entry under a registered id, with a descriptor some node said hello with. -/
structure Listed (e : Entry) : Prop where
  id : (asBytes e.id).length ≤ 41
  desc : Decoded e.desc

/-- The descriptors a phase carries came out of hello bodies. -/
@[simp] def Phase.Described : Phase → Prop
  | .stamped desc | .armed desc => Decoded desc
  | .listed _ entries => ∀ e ∈ entries, Listed e
  | _ => True

/-- The descriptors a queued list carries came out of hello bodies. -/
def Origin.Described : Origin → Prop
  | .listing _ _ _ entries => ∀ e ∈ entries, Listed e
  | _ => True

/-- Every descriptor anywhere in the router came out of a hello body. -/
structure Described (s : Router) : Prop where
  phases : ∀ c, (s.conns c).phase.Described
  peers : ∀ id p, s.peers.lookup id = some p → Decoded p.desc
  queues : ∀ b, ∀ q ∈ s.queues b, q.origin.Described

/-- The list of a registry holds the entries whose brand matches. -/
theorem mem_list {peers : Peers} {filter : String} {e : Entry} :
    e ∈ list peers filter ↔ ∃ p, peers.lookup e.id = some p ∧ p.desc = e.desc ∧
      (filter = "" ∨ p.desc.brand = filter) := by
  simp only [list, List.mem_map, List.mem_filter, Sigma.exists, Bool.or_eq_true,
    String.isEmpty_iff, beq_iff_eq]
  constructor
  · -- An entry of the map is what a lookup of its id finds.
    rintro ⟨id, p, ⟨entry, matches_⟩, rfl⟩
    exact ⟨p, AList.mem_lookup_iff.mpr entry, rfl, matches_⟩
  · rintro ⟨p, found, same, matches_⟩
    exact ⟨e.id, p, ⟨AList.mem_lookup_iff.mp found, matches_⟩, by rw [same]⟩

/-- The list names each id once. -/
theorem list_nodup (peers : Peers) (filter : String) :
    ((list peers filter).map Entry.id).Nodup := by
  -- Its ids are some of the keys of the registry, in their order.
  have keys : ((peers.entries.filter fun e =>
      filter.isEmpty || e.2.desc.brand == filter).map Sigma.fst).Nodup :=
    List.Nodup.sublist (List.filter_sublist.map _) peers.nodupKeys
  simpa [list, Function.comp_def] using keys

/-- The first frame's descriptor came out of its body. -/
theorem greet_described (host : String) (conn : Conn) (first : Except Error (Option Frame)) :
    (greet host conn first).phase.Described := by
  unfold greet
  split
  · trivial
  · trivial
  · rename_i hello
    split
    · trivial
    · split
      · trivial
      · split
        · trivial
        · -- The one branch that keeps a descriptor has just decoded it.
          rename_i desc decoded
          exact ⟨hello.payload, decoded⟩

/-- A step carries on only descriptors that came out of hello bodies. -/
theorem Acts.described {s t : Router} {a : Action} {conn : Conn} (acts : Acts s a t conn)
    (described : Described s)
    (short : ∀ id c, holder s.peers id = some c → (asBytes id).length ≤ 41) :
    conn.phase.Described := by
  have held := described.phases a.conn
  cases acts with
  | greeted first waiting => exact greet_described _ _ _
  | drew desc stamped => simpa [stamped] using held
  | received next relaying =>
    unfold receive dispatch
    repeat' split
    all_goals trivial
  | forwarded f forwarding =>
    dsimp only
    split <;> trivial
  | snapped filter entries listing snapshot =>
    intro e member
    -- A snapshot lists what the registry holds.
    obtain ⟨p, found, same, _⟩ := mem_list.mp (snapshot.mem_iff.mp member)
    exact ⟨short e.id p.conn (by simp [holder, found]), same ▸ described.peers e.id p found⟩
  | broke spawned => exact held
  | _ => trivial

/-- The registry holds only descriptors that came out of hello bodies. -/
theorem Acts.described_peers {s t : Router} {a : Action} {conn : Conn} (acts : Acts s a t conn)
    (described : Described s) (id : String) (p : Peer) (found : t.peers.lookup id = some p) :
    Decoded p.desc := by
  cases acts with
  | @entered c desc armed may =>
    -- The new entry carries the descriptor of the hello.
    have own := described.phases c
    rw [armed] at own
    by_cases self : id = (s.conns c).id
    · subst self
      rw [AList.lookup_insert] at found
      cases found
      exact own
    · rw [AList.lookup_insert_ne self] at found
      exact described.peers id p found
  | @removed c result leaving own =>
    by_cases self : id = (s.conns c).id
    · rw [self, AList.lookup_erase] at found
      cases found
    · rw [AList.lookup_erase_ne self] at found
      exact described.peers id p found
  | fired old inserted =>
    refine described.peers id p ?_
    cases old <;> exact found
  | welcomed welcoming => exact described.peers id p (by simpa [push_eq] using found)
  | forwarded f forwarding => exact described.peers id p (by simpa [sendTo_eq] using found)
  | replied q owed => exact described.peers id p (by simpa [sendTo_eq] using found)
  | _ => exact described.peers id p found

/-- A queued list carries the descriptors of its snapshot. -/
theorem Emits.described {s : Router} {b : ConnId} {a : Action} {q : Queued}
    (emits : Emits s b a q) (described : Described s) : q.origin.Described := by
  cases emits with
  | welcomed | announced | forwarded => trivial
  | @replied c q owed held =>
    -- Only the reply to a list request carries descriptors.
    have inHand := described.phases c
    unfold Conn.reply at owed
    split at owed
    · cases owed
      trivial
    · rename_i filter entries listed
      cases owed
      rw [listed] at inHand
      exact inHand
    · cases owed
      trivial
    · cases owed

/-- Every descriptor anywhere came out of a hello body, in every reachable state. -/
theorem RouterReachable.described {hostname : String} {door : ConnId → Bool} {s : Router}
    (reached : RouterReachable (label hostname) door s) : Described s := by
  refine reached.induction ⟨fun c => trivial, fun id p found => by simp [Router.initial] at found,
    fun b q member => by simp [Router.initial] at member⟩ fun s a s' reach described enabled => ?_
  have wf := RouterReachable.wellFormed reach
  -- Ids in the registry are stamped, and so short.
  have short : ∀ id c, holder s.peers id = some c → (asBytes id).length ≤ 41 := fun id c held =>
    RouterReachable.claimed_length reach ((wf.holder_id held).1 ▸ wf.holder_claimed held)
  refine ⟨fun c => ?_, fun id p found => ?_, fun b q member => ?_⟩
  · rcases step_conns enabled c with ⟨rfl, t, acts⟩ | kept
    · exact acts.described described short
    · rw [kept]
      exact described.phases c
  · obtain ⟨t, conn, acts, rfl⟩ := step_acts enabled
    exact acts.described_peers described id p found
  · rcases step_mem enabled member with old | ⟨_, emits⟩
    · exact described.queues b q old
    · exact emits.described described

/-- What the registry holds can be listed. -/
theorem Described.listed {hostname : String} {door : ConnId → Bool} {s : Router}
    (described : Described s) (reached : RouterReachable (label hostname) door s) {e : Entry}
    {p : Peer} (found : s.peers.lookup e.id = some p) (same : p.desc = e.desc) : Listed e := by
  have held : holder s.peers e.id = some p.conn := by simp [holder, found]
  have wf := reached.wellFormed
  exact ⟨reached.claimed_length ((wf.holder_id held).1 ▸ wf.holder_claimed held),
    same ▸ described.peers e.id p found⟩

/-- The list of these entries can be read back by the node of this id. -/
structure Listable (id : String) (entries : List Entry) : Prop where
  brands : ∀ e ∈ entries, Short e.desc.brand
  caps : ∀ e ∈ entries, ∀ cap ∈ e.desc.caps, Short cap
  attrs : ∀ e ∈ entries, ∀ attr ∈ e.desc.attrs, ShortAttr attr
  count : entries.length < 2 ^ 16
  size : HEADER + 4 + (asBytes id).length + (2 + (entries.map Entry.size).sum) ≤ MAX_FRAME

/-- The reply to a list request. -/
def providers (id : String) (entries : List Entry) : Frame :=
  Frame.new PROVIDERS "zapd" id (encodeProviders entries)

/-- A frame is read, and its payload is the list of exactly these entries. -/
def Lists (reply : Frame) (entries : List Entry) : Prop :=
  ∃ f, Frame.read reply.encode = .ok (some (f, [])) ∧ decodeProviders f.payload = .ok entries

/-- A reply is read back exactly when its texts, its count and its size fit. -/
theorem lists_providers {id : String} {entries : List Entry} (short : (asBytes id).length ≤ 41)
    (listed : ∀ e ∈ entries, Listed e) :
    Lists (providers id entries) entries ↔ Listable id entries := by
  have source : (asBytes "zapd").length = 4 := by decide
  have body : (providers id entries).bodyLength =
      HEADER + 4 + (asBytes id).length + (2 + (entries.map Entry.size).sum) := by
    simp only [providers, Frame.new, Frame.bodyLength, encodeProviders_length, source]
  constructor
  · rintro ⟨f, read, decoded⟩
    -- What was read is the reply itself, so its payload was decoded as what was written.
    obtain ⟨fits, rfl⟩ := read_encode_ok.mp read
    obtain ⟨count, each⟩ := decodeProviders_encodeProviders.mp decoded
    exact ⟨fun e member => (each e member).desc.brand, fun e member => (each e member).desc.caps,
      fun e member => (each e member).desc.attrs, count, body ▸ fits.size⟩
  · intro listable
    refine ⟨_, read_encode_ok.mpr ⟨⟨?_, ?_, body ▸ listable.size⟩, rfl⟩,
      decodeProviders_encodeProviders.mpr ⟨listable.count, fun e member => ?_⟩⟩
    · simp [providers, Frame.new, source]
    · simp only [providers, Frame.new]
      omega
    · -- The counts of a decoded descriptor always fit.
      obtain ⟨idShort, payload, decoded⟩ := listed e member
      obtain ⟨capCount, attrCount⟩ := decodeHello_counts decoded
      refine ⟨?_, listable.brands e member, capCount, listable.caps e member, attrCount,
        listable.attrs e member⟩
      unfold Short
      omega

/-- A snapshot is owed to the node that asked for it, as the router's own list. -/
theorem snapshot_reply {s s' : Router} {c : ConnId} {entries : List Entry}
    (enabled : s.step (.snapshot c entries) = some s') :
    ∃ filter, (s.conns c).phase = .listing filter ∧ entries.Perm (list s.peers filter) ∧
      (s'.conns c).reply c = some ⟨providers (s.conns c).id entries,
        .listing c ((s.conns c).received.length - 1) filter entries⟩ := by
  obtain ⟨t, acts⟩ := step_moves enabled
  generalize moved : s'.conns (Action.snapshot c entries).conn = conn at acts
  rw [conn_snapshot] at moved
  -- A snapshot is taken only where one was asked for.
  cases acts with
  | snapped filter entries listing snapshot =>
    exact ⟨filter, listing, snapshot, by simp [moved, Conn.reply, providers]⟩

/--
The list a node asked for is read back, as exactly the matching entries of the snapshot, if and
only if every text in it is short, its entries are few enough, and it fits in a frame.
-/
theorem listing_readable {hostname : String} {door : ConnId → Bool} {s : Router}
    (reached : RouterReachable (label hostname) door s) :
    (decodeBrandFilter [] = "" ∧
      ∀ brand, Short brand → decodeBrandFilter (putStr brand) = brand) ∧
    (∀ c entries s', s.step (.snapshot c entries) = some s' →
      ∃ n f filter, (s.conns c).received[n]? = some f ∧ f.to_ = "" ∧ f.typ = PROVIDERS_LIST ∧
        filter = decodeBrandFilter f.payload ∧
        (s'.conns c).reply c =
          some ⟨providers (s.conns c).id entries, .listing c n filter entries⟩ ∧
        (∀ e, e ∈ entries ↔ ∃ p, s.peers.lookup e.id = some p ∧ p.desc = e.desc ∧
          (filter = "" ∨ p.desc.brand = filter)) ∧
        (entries.map Entry.id).Nodup ∧
        (Lists (providers (s.conns c).id entries) entries ↔ Listable (s.conns c).id entries)) ∧
    (∀ b, ∀ q ∈ s.queues b, ∀ c n filter entries, q.origin = .listing c n filter entries →
      (Lists q.frame entries ↔ Listable (s.conns b).id entries)) := by
  have wf := reached.wellFormed
  have described := reached.described
  refine ⟨⟨rfl, fun brand => decodeBrandFilter_putStr⟩, fun c entries s' enabled => ?_,
    fun b q member c n filter entries origin => ?_⟩
  · -- The snapshot is taken for the frame in hand, which asked for it.
    obtain ⟨filter, listing, snapshot, reply⟩ := snapshot_reply enabled
    obtain ⟨f, last, toRouter, asked, filtered⟩ := by
      simpa [listing] using (wf.coherent c).inHand
    -- Its id and the ids in the list are stamped, and so short.
    have own := reached.claimed_length
      (wf.registered c (by simp [listing]))
    have listed : ∀ e ∈ entries, Listed e := fun e member => by
      obtain ⟨p, found, same, _⟩ := mem_list.mp (snapshot.mem_iff.mp member)
      exact described.listed reached found same
    refine ⟨_, f, filter, last, toRouter, asked, filtered, reply, fun e => ?_, ?_, ?_⟩
    · rw [snapshot.mem_iff, mem_list]
    · exact (snapshot.map _).nodup_iff.mpr (list_nodup _ _)
    · exact lists_providers own listed
  · -- A queued list is the reply to some request, addressed to its own node.
    have traced := reached.traced member
    have carried := described.queues b q member
    rw [origin] at carried
    obtain ⟨f, _, _, _, _, _, built⟩ : Origin.Accounts s (.listing c n filter entries) q.frame :=
      origin ▸ traced.accounted
    rw [traced.addressed] at built
    rw [built]
    exact lists_providers (reached.claimed_length traced.claimed) carried

/-- A node alone on its router reads back the list that names it. -/
theorem listing_readable_alone : ∃ s, RouterReachable (label "dgx") (fun _ => false) s ∧
    Lists (providers (s.conns 0).id (list s.peers "")) [⟨"agent/dgx/a", ⟨1, "", [], []⟩⟩] := by
  have reached : RouterReachable (label "dgx") (fun _ => false) _ :=
    ⟨joins 0 "agent/a" ++ [.read 0 (.ok (some (Frame.new PROVIDERS_LIST "" "" [])))], rfl⟩
  obtain ⟨_, _, _, _, _, _, _, _, _, _, readable⟩ := (listing_readable reached).2.1 0
    [⟨"agent/dgx/a", ⟨1, "", [], []⟩⟩] _ rfl
  exact ⟨_, reached, readable.mpr ⟨by decide, by decide, by decide, by decide, by decide⟩⟩

/-- Bytes that are nowhere the start of a character are each replaced. -/
theorem lossy_garbage (count : Nat) :
    fromUtf8Lossy (List.replicate count 0xFF) =
      String.ofList (List.replicate count replacement) := by
  apply String.toList_injective
  rw [String.toList_ofList]
  induction count with
  | zero => rfl
  | succ count ih =>
    rw [List.replicate_succ, lossy_cons, List.replicate_succ]
    exact congrArg _ ih

/-- Each replacement has three bytes. -/
theorem asBytes_garbage (count : Nat) :
    (asBytes (fromUtf8Lossy (List.replicate count 0xFF))).length = 3 * count := by
  rw [lossy_garbage]
  simp only [asBytes, String.toList_ofList]
  induction count with
  | zero => rfl
  | succ count ih =>
    -- The replacement of each byte is encoded in three.
    have three : (String.utf8EncodeChar replacement).length = 3 := by decide
    rw [List.replicate_succ, List.flatMap_cons, List.length_append, ih, three]
    omega

/-- A hello body whose brand is these bytes, and that says nothing else. -/
def helloBody (raw : Bytes) : Bytes :=
  [1] ++ (le16 raw.length.toUInt16 ++ (raw ++ (le16 0 ++ (le16 0 ++ []))))

/-- Such a body is accepted, as the lossy decoding of its brand. -/
theorem decodeHello_helloBody {raw : Bytes} (fits : raw.length < 2 ^ 16) :
    decodeHello (helloBody raw) =
      .ok { role := 1, brand := fromUtf8Lossy raw, caps := [], attrs := [] } := by
  have brand : Cursor.str (le16 raw.length.toUInt16 ++ (raw ++ (le16 0 ++ (le16 0 ++ [])))) =
      .ok (fromUtf8Lossy raw, le16 0 ++ (le16 0 ++ [])) := str_ok.mpr ⟨raw, fits, rfl, rfl⟩
  rw [decodeHello, wholeBody_ok]
  simp only [Descriptor.take, takeAll, Parse.bind_ok, Parse.pure_ok]
  exact ⟨_, _, Cursor.u8_ok.mpr rfl, _, _, brand, [], _, ⟨0, _, Cursor.u16_ok.mpr rfl, rfl⟩,
    [], _, ⟨0, _, Cursor.u16_ok.mpr rfl, rfl⟩, rfl, rfl⟩

/-- In the phase for it, the snapshot of the registry can be taken. -/
theorem snapshot_enabled {s : Router} {c : ConnId} {filter : String}
    (listing : (s.conns c).phase = .listing filter) :
    ∃ s', s.step (.snapshot c (list s.peers filter)) = some s' := by
  simp [Router.step, act, listing]

/-- A node whose hello decodes to a descriptor registers with it; another asks for the list. -/
theorem asks_list {payload : Bytes} {desc : Descriptor} (decoded : decodeHello payload = .ok desc) :
    ∃ s, RouterReachable (label "dgx") (fun _ => false) s ∧
      s.peers.lookup "agent/dgx/a" = some ⟨0, desc, 1⟩ ∧
      (s.conns 1).phase = .listing "" ∧ (s.conns 1).id = "agent/dgx/b" := by
  -- Only the first step looks into the body; the rest of the run carries the descriptor along.
  have stamped : stamp "agent/a" (label "dgx") = some "agent/dgx/a" := by decide
  have first : (Router.initial (label "dgx") fun _ => false).step
      (.read 0 (.ok (some (Frame.new HELLO "agent/a" "" payload)))) =
      some { Router.initial (label "dgx") fun _ => false with
        conns := Function.update (Router.initial (label "dgx") fun _ => false).conns 0
          { takeOver := true, id := "agent/dgx/a", phase := .stamped desc } } := by
    simp [Router.step, act, Router.initial, greet, Frame.new, stamped, decoded]
  -- The second node registers and asks for every node.
  refine ⟨_, ⟨.read 0 (.ok (some (Frame.new HELLO "agent/a" "" payload))) ::
    ([.advance 0, .advance 0, .advance 0, .advance 0, .advance 0] ++ joins 1 "agent/b" ++
      [.read 1 (.ok (some (Frame.new PROVIDERS_LIST "" "" [])))]),
    Transition.run_cons_eq_some.mpr ⟨_, first, rfl⟩⟩, rfl, rfl, rfl⟩

/--
A node with 22000 bytes of brand that are nowhere text registers, and the list that names it
cannot be read back: each of those bytes is three when it is written again.
-/
theorem listing_unreadable : ∃ hello : Frame,
    hello = Frame.new HELLO "agent/a" "" (helloBody (List.replicate 22000 0xFF)) ∧
    Frame.read hello.encode = .ok (some (hello, [])) ∧
    ∃ s s' p, RouterReachable (label "dgx") (fun _ => false) s ∧
      s.peers.lookup "agent/dgx/a" = some p ∧ decodeHello hello.payload = .ok p.desc ∧
      s.step (.snapshot 1 (list s.peers "")) = some s' ∧
      ((s'.conns 1).reply 1).map Queued.frame =
        some (providers "agent/dgx/b" (list s.peers "")) ∧
      ¬ Lists (providers "agent/dgx/b" (list s.peers "")) (list s.peers "") := by
  obtain ⟨raw, zeros⟩ : ∃ raw : Bytes, raw = List.replicate 22000 0xFF := ⟨_, rfl⟩
  have length : raw.length = 22000 := by rw [zeros, List.length_replicate]
  have brand : (asBytes (fromUtf8Lossy raw)).length = 66000 := by rw [zeros, asBytes_garbage]
  have decoded := decodeHello_helloBody (show raw.length < 2 ^ 16 by omega)
  rw [← zeros]
  obtain ⟨s, reached, found, listing, own⟩ := asks_list decoded
  -- The router takes the snapshot and owes the reply.
  obtain ⟨s', enabled⟩ := snapshot_enabled listing
  obtain ⟨_, _, _, reply⟩ := snapshot_reply enabled
  have source : (asBytes "agent/a").length = 7 := by decide
  refine ⟨_, rfl, read_encode_ok.mpr ⟨⟨?_, ?_, ?_⟩, rfl⟩, s, s', _, reached, found, decoded,
    enabled, by rw [reply, own]; rfl, fun lists => ?_⟩
  · simp [Frame.new, source]
  · simp [Frame.new]
  · simp [Frame.bodyLength, Frame.new, source, helloBody, length, HEADER, MAX_FRAME]
  · -- The entry of that node is in the list, and its brand is too long for its length.
    obtain ⟨_, read, back⟩ := lists
    obtain ⟨_, rfl⟩ := read_encode_ok.mp read
    obtain ⟨_, each⟩ := decodeProviders_encodeProviders.mp back
    have short := (each ⟨"agent/dgx/a", _⟩ (mem_list.mpr ⟨_, found, rfl, .inl rfl⟩)).desc.brand
    rw [Short, brand] at short
    omega

end Zapd
