import Zapd.Codec.Grammar
import Zapd.Router.Listing

/-! How much the nodes may say of themselves for the registry to be listed all the same. -/

namespace Zapd

open Transition Utf8

/-- A descriptor that some hello body of at most this many bytes decodes to. -/
def DecodedWithin (limit : Nat) (desc : Descriptor) : Prop :=
  ∃ payload, payload.length ≤ limit ∧ decodeHello payload = .ok desc

/-- No hello body that the router reads has more than this many bytes. -/
def SaysAtMost (limit : Nat) (s : Router) : Action → Prop
  | .read c (.ok (some f)) => (s.conns c).phase = .hello → f.payload.length ≤ limit
  | _ => True

/-- What is within a limit is within a larger one. -/
theorem SaysAtMost.mono {small large : Nat} (le : small ≤ large) {s : Router} {a : Action}
    (within : SaysAtMost small s a) : SaysAtMost large s a := by
  unfold SaysAtMost at within ⊢
  split
  · exact fun hello => (within hello).trans le
  · trivial

/-- The descriptor a phase carries came out of a short hello body. -/
@[simp] def Phase.Modest (limit : Nat) : Phase → Prop
  | .stamped desc | .armed desc => DecodedWithin limit desc
  | _ => True

/-- Every descriptor on its way to the registry or in it came out of a short hello body. -/
structure Router.Modest (limit : Nat) (s : Router) : Prop where
  phases : ∀ c, (s.conns c).phase.Modest limit
  peers : ∀ id p, s.peers.lookup id = some p → DecodedWithin limit p.desc

/-- The text behind its length is as long as its bytes and two more. -/
theorem textBytes_length (text : Bytes) : (textBytes text).length = 2 + text.length := by
  simp [textBytes]

/-- One of the items is no longer than all of them. -/
theorem length_le_flatMap {ρ : Type} (bytes : ρ → Bytes) {raws : List ρ} {raw : ρ}
    (member : raw ∈ raws) : (bytes raw).length ≤ (raws.flatMap bytes).length := by
  obtain ⟨before, after, rfl⟩ := List.append_of_mem member
  simp only [List.flatMap_append, List.flatMap_cons, List.length_append]
  omega

/-- What a body of so many bytes decodes to is written in at most three times as many, with no
text of more than three times those that are left beside the empty fields. -/
theorem decoded_size {payload : Bytes} {desc : Descriptor}
    (decoded : decodeHello payload = .ok desc) :
    desc.size ≤ 3 * payload.length ∧
    (asBytes desc.brand).length + 21 ≤ 3 * payload.length ∧
    (∀ cap ∈ desc.caps, (asBytes cap).length + 21 ≤ 3 * payload.length) ∧
    ∀ attr ∈ desc.attrs, (asBytes attr.1).length + 21 ≤ 3 * payload.length ∧
      (asBytes attr.2).length + 21 ≤ 3 * payload.length := by
  rw [decodeHello, wholeBody_ok] at decoded
  obtain ⟨raw, _, whole, rfl⟩ := (spells_descriptor _ _ _).mp decoded
  rw [List.append_nil] at whole
  subst whole
  -- Every text is charged to the bytes that spell it.
  have length : raw.bytes.length = 1 + (textBytes raw.brand).length +
      (2 + (raw.caps.flatMap textBytes).length) +
      (2 + (raw.attrs.flatMap RawAttr.bytes).length) := by
    simp only [RawDescriptor.bytes, allBytes, List.length_append, le16_length,
      List.length_singleton]
  rw [textBytes_length] at length
  refine ⟨?_, ?_, ?_, ?_⟩
  · rw [← descriptor_length]
    exact stretches_descriptor raw
  · have bound := lossy_length_le raw.brand
    simp only [RawDescriptor.value]
    omega
  · intro cap member
    obtain ⟨text, among, rfl⟩ := List.mem_map.mp member
    have bound := lossy_length_le text
    have part := length_le_flatMap textBytes among
    rw [textBytes_length] at part
    omega
  · intro attr member
    obtain ⟨text, among, rfl⟩ := List.mem_map.mp member
    have key := lossy_length_le text.1
    have value := lossy_length_le text.2
    have part := length_le_flatMap RawAttr.bytes among
    simp only [RawAttr.bytes, List.length_append, textBytes_length] at part
    simp only [RawAttr.value]
    constructor <;> omega

/-- A short first frame's descriptor came out of its body. -/
theorem greet_modest {limit : Nat} (host : String) (conn : Conn)
    (first : Except Error (Option Frame))
    (short : ∀ f, first = .ok (some f) → f.payload.length ≤ limit) :
    (greet host conn first).phase.Modest limit := by
  unfold greet
  split
  · trivial
  · trivial
  · rename_i hello
    split
    · trivial
    · split
      · trivial
      · split
        · trivial
        · -- The one branch that keeps a descriptor has just decoded it.
          rename_i desc decoded
          exact ⟨hello.payload, short hello rfl, decoded⟩

variable {limit : Nat} {s t : Router} {a : Action} {conn : Conn}

/-- A step carries on only descriptors that came out of short hello bodies. -/
theorem Acts.modest (acts : Acts s a t conn) (modest : s.Modest limit)
    (within : SaysAtMost limit s a) : conn.phase.Modest limit := by
  have held := modest.phases a.conn
  cases acts with
  | greeted first waiting =>
    refine greet_modest _ _ _ fun f read => ?_
    subst read
    exact within waiting
  | drew desc stamped => simpa [stamped] using held
  | received next relaying =>
    unfold receive dispatch
    repeat' split
    all_goals trivial
  | forwarded f forwarding =>
    dsimp only
    split <;> trivial
  | broke spawned => exact held
  | _ => trivial

/-- The registry holds only descriptors that came out of short hello bodies. -/
theorem Acts.modest_peers (acts : Acts s a t conn) (modest : s.Modest limit) (id : String)
    (p : Peer) (found : t.peers.lookup id = some p) : DecodedWithin limit p.desc := by
  cases acts with
  | @entered c desc armed may =>
    -- The new entry carries the descriptor of the hello.
    have own := modest.phases c
    rw [armed] at own
    by_cases self : id = (s.conns c).id
    · subst self
      rw [AList.lookup_insert] at found
      cases found
      exact own
    · rw [AList.lookup_insert_ne self] at found
      exact modest.peers id p found
  | @removed c result leaving own =>
    by_cases self : id = (s.conns c).id
    · rw [self, AList.lookup_erase] at found
      cases found
    · rw [AList.lookup_erase_ne self] at found
      exact modest.peers id p found
  | fired old inserted =>
    refine modest.peers id p ?_
    cases old <;> exact found
  | welcomed welcoming => exact modest.peers id p (by simpa [push_eq] using found)
  | forwarded f forwarding => exact modest.peers id p (by simpa [sendTo_eq] using found)
  | replied q owed => exact modest.peers id p (by simpa [sendTo_eq] using found)
  | _ => exact modest.peers id p found

/-- While hello bodies are short, so are those that the descriptors came from. -/
theorem modest_reached {host : String} {door : ConnId → Bool}
    (reached : GuardedReachable (SaysAtMost limit) Router.step (Router.initial host door) s) :
    s.Modest limit := by
  refine reached.induction ⟨fun c => trivial, fun id p found => by simp [Router.initial] at found⟩
    fun s a s' _ within modest enabled => ⟨fun c => ?_, fun id p found => ?_⟩
  · rcases step_conns enabled c with ⟨rfl, t, acts⟩ | kept
    · exact acts.modest modest within
    · rw [kept]
      exact modest.phases c
  · obtain ⟨t, conn, acts, rfl⟩ := step_acts enabled
    exact acts.modest_peers modest id p found

/-- The reply to a list request is as long as the entries it lists. -/
theorem providers_length (id : String) (entries : List Entry) :
    (providers id entries).bodyLength =
      HEADER + 4 + (asBytes id).length + (2 + (entries.map Entry.size).sum) := by
  have source : (asBytes "zapd").length = 4 := by decide
  simp only [providers, Frame.new, Frame.bodyLength, encodeProviders_length, source]

/-- Where hello bodies are short enough, every text of a listed descriptor fits its length. -/
theorem listable_modest {id : String} {entries : List Entry} (small : limit ≤ 21852)
    (within : ∀ e ∈ entries, DecodedWithin limit e.desc) :
    Listable id entries ↔
      entries.length < 2 ^ 16 ∧ (providers id entries).bodyLength ≤ MAX_FRAME := by
  rw [providers_length]
  constructor
  · intro listable
    exact ⟨listable.count, listable.size⟩
  · rintro ⟨count, size⟩
    refine ⟨fun e member => ?_, fun e member cap among => ?_, fun e member attr among => ?_, count,
      size⟩
    -- Three times what such a body has left for a text is below the limit of its length.
    all_goals
      obtain ⟨payload, short, decoded⟩ := within e member
      obtain ⟨_, brand, caps, attrs⟩ := decoded_size decoded
    · unfold Short
      omega
    · have bound := caps cap among
      unfold Short
      omega
    · obtain ⟨key, value⟩ := attrs attr among
      constructor
      · unfold Short
        omega
      · unfold Short
        omega

/-- The entries of a small registry, each from a short hello body, fit one frame together. -/
theorem entries_size {entries : List Entry} (ids : ∀ e ∈ entries, (asBytes e.id).length ≤ 41)
    (within : ∀ e ∈ entries, DecodedWithin limit e.desc) :
    (entries.map Entry.size).sum ≤ entries.length * (3 * limit + 43) := by
  induction entries with
  | nil => exact Nat.zero_le _
  | cons e rest ih =>
    have others := ih (fun e member => ids e (List.mem_cons_of_mem _ member))
      fun e member => within e (List.mem_cons_of_mem _ member)
    have id := ids e List.mem_cons_self
    obtain ⟨payload, short, decoded⟩ := within e List.mem_cons_self
    have desc := (decoded_size decoded).1
    have own : e.size ≤ 3 * limit + 43 := by
      simp only [Entry.size, textSize]
      omega
    simp only [List.map_cons, List.sum_cons, List.length_cons, Nat.add_mul]
    omega

/-- What is known of a snapshot of a registry whose hello bodies were short. -/
structure Snapped (limit : Nat) (s : Router) (c : ConnId) (entries : List Entry) : Prop where
  own : (asBytes (s.conns c).id).length ≤ 41
  few : entries.length ≤ s.peers.entries.length
  listed : ∀ e ∈ entries, Listed e
  within : ∀ e ∈ entries, DecodedWithin limit e.desc

/-- A snapshot lists what the registry holds. -/
theorem snapped {hostname : String} {door : ConnId → Bool} {s' : Router} {c : ConnId}
    {entries : List Entry} (reached : GuardedReachable (SaysAtMost limit) Router.step
      (Router.initial (label hostname) door) s)
    (enabled : s.step (.snapshot c entries) = some s') : Snapped limit s c entries := by
  have reach : RouterReachable (label hostname) door s := reached.reachable
  have modest := modest_reached reached
  obtain ⟨filter, listing, snapshot, _⟩ := snapshot_reply enabled
  have found : ∀ e ∈ entries, ∃ p, s.peers.lookup e.id = some p ∧ p.desc = e.desc := by
    intro e member
    obtain ⟨p, found, same, _⟩ := mem_list.mp (snapshot.mem_iff.mp member)
    exact ⟨p, found, same⟩
  refine ⟨reach.claimed_length (reach.wellFormed.registered c (by simp [listing])), ?_, ?_, ?_⟩
  · rw [snapshot.length_eq, list, List.length_map]
    exact List.length_filter_le _ _
  · intro e member
    obtain ⟨p, found, same⟩ := found e member
    exact reach.described.listed reach found same
  · intro e member
    obtain ⟨p, found, same⟩ := found e member
    exact same ▸ modest.peers e.id p found

/-- A node says hello with this body, and another one asks for the list. -/
def asksFor (payload : Bytes) : List Action :=
  .read 0 (.ok (some (Frame.new HELLO "agent/a" "" payload))) ::
    ([.advance 0, .advance 0, .advance 0, .advance 0, .advance 0] ++ joins 1 "agent/b" ++
      [.read 1 (.ok (some (Frame.new PROVIDERS_LIST "" "" [])))])

/-- The other bodies of such a run are short, so it is within a limit that its first body meets. -/
theorem asks_within {payload : Bytes} {desc : Descriptor}
    (decoded : decodeHello payload = .ok desc) (short : payload.length ≤ limit)
    (seven : 7 ≤ limit) : ∃ s,
      GuardedReachable (SaysAtMost limit) Router.step
        (Router.initial (label "dgx") fun _ => false) s ∧
      s.peers.lookup "agent/dgx/a" = some ⟨0, desc, 1⟩ ∧ (s.conns 1).phase = .listing "" ∧
      s.peers.entries.length = 2 := by
  have stamped : stamp "agent/a" (label "dgx") = some "agent/dgx/a" := by decide
  have first : (Router.initial (label "dgx") fun _ => false).step
      (.read 0 (.ok (some (Frame.new HELLO "agent/a" "" payload)))) =
      some { Router.initial (label "dgx") fun _ => false with
        conns := Function.update (Router.initial (label "dgx") fun _ => false).conns 0
          { takeOver := true, id := "agent/dgx/a", phase := .stamped desc } } := by
    simp [Router.step, act, Router.initial, greet, Frame.new, stamped, decoded]
  have body : (encodeHello ⟨1, "", [], []⟩).length ≤ limit := seven
  have met : ∀ s, ∀ a ∈ asksFor payload, SaysAtMost limit s a := by
    intro s a member
    simp only [asksFor, joins, List.mem_cons, List.mem_append, List.not_mem_nil, or_false] at member
    rcases member with rfl | (member | rfl | member) | rfl
    · exact fun _ => short
    · rcases member with rfl | rfl | rfl | rfl | rfl <;> trivial
    · exact fun _ => body
    · rcases member with rfl | rfl | rfl | rfl | rfl <;> trivial
    · exact fun _ => Nat.zero_le _
  have start : GuardedReachable (SaysAtMost limit) Router.step
      (Router.initial (label "dgx") fun _ => false) (Router.initial (label "dgx") fun _ => false) :=
    ⟨[], trivial, rfl⟩
  exact ⟨_, start.run met (run_cons_eq_some.mpr ⟨_, first, rfl⟩), rfl, rfl, rfl⟩

/-- Hello bodies of at most 21852 bytes are the ones whose texts all fit when they are listed:
within that limit, and only within it, a list can be read back whenever it fits a frame. Then a
registry of up to 1023 nodes can always be listed. -/
theorem listing_capacity (limit : Nat) :
    (limit ≤ 21852 ↔ ∀ hostname door s, GuardedReachable (SaysAtMost limit) Router.step
        (Router.initial (label hostname) door) s →
      ∀ c entries s', s.step (.snapshot c entries) = some s' →
        (Lists (providers (s.conns c).id entries) entries ↔
          entries.length < 2 ^ 16 ∧ (providers (s.conns c).id entries).bodyLength ≤ MAX_FRAME)) ∧
    (limit ≤ 21852 → ∀ hostname door s, GuardedReachable (SaysAtMost limit) Router.step
        (Router.initial (label hostname) door) s → s.peers.entries.length ≤ 1023 →
      ∀ c entries s', s.step (.snapshot c entries) = some s' →
        Lists (providers (s.conns c).id entries) entries) := by
  have fits : limit ≤ 21852 → ∀ hostname door s, GuardedReachable (SaysAtMost limit) Router.step
      (Router.initial (label hostname) door) s →
      ∀ c entries s', s.step (.snapshot c entries) = some s' →
        (Lists (providers (s.conns c).id entries) entries ↔
          entries.length < 2 ^ 16 ∧ (providers (s.conns c).id entries).bodyLength ≤ MAX_FRAME) := by
    intro small hostname door s reached c entries s' enabled
    have known := snapped reached enabled
    rw [lists_providers known.own known.listed, listable_modest small known.within]
  refine ⟨⟨fits, fun always => ?_⟩, ?_⟩
  · -- One byte more, and a text of a body can be too long for its length in the list.
    by_contra large
    obtain ⟨raw, zeros⟩ : ∃ raw : Bytes, raw = List.replicate 21846 0xFF := ⟨_, rfl⟩
    have length : raw.length = 21846 := by rw [zeros, List.length_replicate]
    have brand : (asBytes (fromUtf8Lossy raw)).length = 65538 := by rw [zeros, asBytes_garbage]
    have short : (helloBody raw).length ≤ 21853 := by
      simp only [helloBody, List.length_append, List.length_singleton, le16_length, length,
        List.length_nil]
      omega
    obtain ⟨s, reached, found, listing, two⟩ :=
      asks_within (decodeHello_helloBody (by omega)) short (by omega)
    obtain ⟨s', enabled⟩ := snapshot_enabled listing
    have known := snapped reached enabled
    have size := entries_size (fun e member => (known.listed e member).id) known.within
    have few := known.few
    -- The list is small, so within the larger limit it is to be read back.
    have wider := reached.mono fun s a => SaysAtMost.mono (by omega : 21853 ≤ limit)
    obtain ⟨_, read, back⟩ := (always _ _ s wider 1 _ s' enabled).mpr ⟨by omega, by
      have own := known.own
      have all : (list s.peers "").length * (3 * 21853 + 43) ≤ 2 * 65602 :=
        Nat.mul_le_mul (by omega) (by omega)
      rw [providers_length]
      simp only [HEADER, MAX_FRAME]
      omega⟩
    obtain ⟨_, rfl⟩ := read_encode_ok.mp read
    obtain ⟨_, each⟩ := decodeProviders_encodeProviders.mp back
    have fits := (each ⟨"agent/dgx/a", _⟩ (mem_list.mpr ⟨_, found, rfl, .inl rfl⟩)).desc.brand
    rw [Short, brand] at fits
    omega
  · intro small hostname door s reached few c entries s' enabled
    have known := snapped reached enabled
    have ids : ∀ e ∈ entries, (asBytes e.id).length ≤ 41 := by
      intro e member
      exact (known.listed e member).id
    have size := entries_size ids known.within
    refine (fits small hostname door s reached c entries s' enabled).mpr ⟨?_, ?_⟩
    · have few' := known.few
      omega
    · have own := known.own
      have all : entries.length * (3 * limit + 43) ≤ 1023 * 65599 :=
        Nat.mul_le_mul (known.few.trans few) (by omega)
      rw [providers_length]
      simp only [HEADER, MAX_FRAME]
      omega

end Zapd
