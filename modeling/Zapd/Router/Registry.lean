import Zapd.Router.Invariant

/-! The registry holds the latest claimant of each id, until that connection removes itself. -/

namespace Zapd

open Utf8

/-- A connection that ended, or is about to, without ever having been inserted. -/
def Router.refused (s : Router) (c : ConnId) : Prop :=
  (∀ id, (id, c) ∉ s.claims) ∧
    ((∃ reply e, (s.conns c).phase = .refusing reply e) ∨
      ∃ result, (s.conns c).phase = .returned result)

/-- A step that changes no registry entry, no channel, no signal and no other connection. -/
structure Unseen (c : ConnId) (s s' : Router) : Prop where
  peers : s'.peers = s.peers
  claims : s'.claims = s.claims
  queues : s'.queues = s.queues
  evictedAt : s'.evictedAt = s.evictedAt
  conns : ∀ k, k ≠ c → s'.conns k = s.conns k

/-- The steps by which a connection registers under the id it proposes. -/
def joins (c : ConnId) (proposed : String) : List Action :=
  [.read c (.ok (some (Frame.new HELLO proposed "" (encodeHello ⟨1, "", [], []⟩)))),
    .advance c, .advance c, .advance c, .advance c, .advance c]

/-- Claims are never withdrawn along a run. -/
theorem run_claims_subset {s s' : Router} {actions : List Action}
    (ran : Transition.run Router.step s actions = some s') : s.claims ⊆ s'.claims := by
  refine Transition.run_relation (R := fun s s' : Router => s.claims ⊆ s'.claims)
    (fun _ => List.Subset.refl _) (fun _ _ _ => List.Subset.trans) (fun s a s' enabled => ?_) ran
  -- Each step keeps the claims there are.
  obtain ⟨t, conn, acts, rfl⟩ := step_acts enabled
  exact acts.claims_subset

/-- A step of a connection that is never inserted is seen by no one. -/
theorem WellFormed.unseen {s s' : Router} {a : Action} (wf : WellFormed s)
    (enabled : s.step a = some s') (unclaimed : ∀ id, (id, a.conn) ∉ s'.claims) :
    Unseen a.conn s s' := by
  -- All later phases are entered through the insertion, which would have left a claim.
  -- No step touches another connection's variables.
  have others : ∀ k, k ≠ a.conn → s'.conns k = s.conns k := fun k => step_other enabled
  obtain ⟨t, conn, acts, rfl⟩ := step_acts enabled
  have never : (s.conns a.conn).phase.entered = false := by
    by_contra entered
    exact unclaimed _ (acts.claims_subset (wf.registered _ (by simpa using entered)))
  cases acts with
  -- Before the insertion, a step only changes its own variables.
  | greeted | refused | drew | taken => exact ⟨rfl, rfl, rfl, rfl, others⟩
  | entered desc armed may => exact absurd List.mem_cons_self (unclaimed _)
  | replied q owed =>
    exact absurd (Phase.entered_of_holding (Conn.holding_of_reply owed)) (by simpa using never)
  | broke spawned => exact absurd (Phase.entered_of_spawned spawned) (by simpa using never)
  | _ => simp_all

/-- A first frame that is no hello, or names no id, or carries no descriptor is refused. -/
theorem WellFormed.refused_hello {s s' : Router} {c : ConnId} {f : Frame} (wf : WellFormed s)
    (waiting : (s.conns c).phase = .hello) (enabled : s.step (.read c (.ok (some f))) = some s')
    (bad : f.typ ≠ HELLO ∨ stamp f.from_ s.host = none ∨ ∃ e, decodeHello f.payload = .error e) :
    s'.refused c := by
  -- Nobody who still waits for its hello has claimed an id.
  have unclaimed : ∀ id, (id, c) ∉ s.claims := fun id claim => by
    simpa [waiting] using (wf.claimed id c claim).2
  obtain ⟨t, conn, acts, rfl⟩ := step_acts enabled
  cases acts with
  | greeted first =>
    refine ⟨unclaimed, ?_⟩
    simp only [conn_read, Function.update_self]
    by_cases hello : f.typ = HELLO
    · cases stamped : stamp f.from_ s.host with
      -- The id is refused before the descriptor is looked at.
      | none => exact .inl (by simp [greet, hello, stamped, refusal])
      | some id =>
        obtain ⟨e, undecodable⟩ := by simpa [hello, stamped] using bad
        exact .inr (by simp [greet, hello, stamped, undecodable])
    · exact .inr (by simp [greet, hello])
  | received next relaying => simp [waiting] at relaying

/-- A hello through the door for an id that is registered is refused. -/
theorem WellFormed.refused_taken {s s' : Router} {c : ConnId} {desc : Descriptor}
    (wf : WellFormed s) (armed : (s.conns c).phase = .armed desc)
    (mayNot : (s.conns c).takeOver = false) (live : (s.peers.lookup (s.conns c).id).isSome)
    (enabled : s.step (.advance c) = some s') : s'.refused c := by
  -- Nobody has claimed an id before entering.
  have unclaimed : ∀ id, (id, c) ∉ s.claims := fun id claim => by
    simpa [armed] using (wf.claimed id c claim).2
  obtain ⟨t, conn, acts, rfl⟩ := step_acts enabled
  cases acts with
  -- The id is live and may not be taken over, so the only step is the refusal.
  | taken desc => exact ⟨unclaimed, .inl (by simp [refusal])⟩
  | entered desc _ may => simp_all
  | replied q owed => simp [Conn.reply, armed] at owed
  | _ => simp_all

/-- The removal of a connection that someone has replaced changes nothing. -/
theorem WellFormed.replaced_removal {s s' : Router} {c : ConnId} {result : Except Error Unit}
    (wf : WellFormed s) (leaving : (s.conns c).phase = .leaving result)
    (replaced : s.ledger.latest (s.conns c).id ≠ some c)
    (enabled : s.step (.advance c) = some s') : Unseen c s s' := by
  have others : ∀ k, k ≠ c → s'.conns k = s.conns k := fun k => step_other enabled
  -- The owner of the id is its latest claimant or nobody.
  have notOwn : (s.peers.lookup (s.conns c).id).map Peer.token ≠ some (s.conns c).token := by
    rw [Ne, wf.own_token (by simp [leaving]), wf.owned]
    exact fun owner => replaced (Ownership.Ledger.owner_eq_some.mp owner).1
  obtain ⟨t, conn, acts, rfl⟩ := step_acts enabled
  cases acts with
  | kept => exact ⟨rfl, rfl, rfl, rfl, others⟩
  | removed result _ own => exact absurd own notOwn
  | replied q owed => simp [Conn.reply, leaving] at owed
  | _ => simp_all

/-- A connection through the door never touches another one's entry. -/
theorem WellFormed.door_keeps {s s' : Router} {a : Action} (wf : WellFormed s)
    (enabled : s.step a = some s') (door : (s.conns a.conn).takeOver = false) (id : String)
    (p : Peer) (found : s.peers.lookup id = some p) (other : p.conn ≠ a.conn) :
    s'.peers.lookup id = some p := by
  obtain ⟨t, conn, acts, rfl⟩ := step_acts enabled
  cases wf.registers acts with
  | unchanged peers => rw [← found, ← peers]
  | ended _ peers => rw [← found, ← peers]
  | inserted armed may peers =>
    -- The id was free, so it is not the one that was found.
    have free : s.peers.lookup (s.conns a.conn).id = none := may.resolve_left (by simp [door])
    have different : id ≠ (s.conns a.conn).id := by
      rintro rfl
      simp [free] at found
    dsimp only
    rw [peers, AList.lookup_insert_ne different, found]
  -- Only the own entry is removed, under another id.
  | removed leaving own peers =>
    have different : id ≠ (s.conns a.conn).id := by
      rintro rfl
      exact other (by simpa [holder, found] using own)
    dsimp only
    rw [peers, AList.lookup_erase_ne different, found]

/-- No entry carries the token of a connection that has returned. -/
theorem WellFormed.returned_gone {s : Router} {c : ConnId} {result : Except Error Unit}
    (wf : WellFormed s) (returned : (s.conns c).phase = .returned result) (id : String) (p : Peer)
    (found : s.peers.lookup id = some p) : p.token ≠ (s.conns c).token := by
  -- An entry's token is that of its connection, which still holds it.
  obtain ⟨_, same, holding⟩ := wf.entry id p found
  have drawn := Phase.drawn_of_entered (Phase.entered_of_holding holding)
  intro equal
  have self := wf.distinct p.conn c (wf.drawn _ drawn) (same.trans equal)
  simp [self, returned] at holding

/--
The registry over all interleavings.

Each id belongs to the connection that last inserted itself under it, until its removal.
-/
theorem registry_invariant {host : String} {door : ConnId → Bool} {s : Router}
    (reached : RouterReachable host door s) :
    (∀ id, holder s.peers id = s.ledger.owner id) ∧
    (∀ c result s', (s.conns c).phase = .leaving result →
      s.ledger.latest (s.conns c).id ≠ some c → s.step (.advance c) = some s' → Unseen c s s') ∧
    (∀ a s' id p, s.step a = some s' → (s.conns a.conn).takeOver = false →
      s.peers.lookup id = some p → p.conn ≠ a.conn → s'.peers.lookup id = some p) ∧
    (∀ c f s', (s.conns c).phase = .hello → s.step (.read c (.ok (some f))) = some s' →
      (f.typ ≠ HELLO ∨ stamp f.from_ s.host = none ∨ ∃ e, decodeHello f.payload = .error e) →
      s'.refused c) ∧
    (∀ c desc s', (s.conns c).phase = .armed desc → (s.conns c).takeOver = false →
      (s.peers.lookup (s.conns c).id).isSome → s.step (.advance c) = some s' → s'.refused c) ∧
    (∀ a s' after final, s.step a = some s' → Transition.run Router.step s' after = some final →
      final.refused a.conn → Unseen a.conn s s') ∧
    (∀ c result id p, (s.conns c).phase = .returned result → s.peers.lookup id = some p →
      p.token ≠ (s.conns c).token) := by
  have wf := reached.wellFormed
  refine ⟨wf.owned, fun c result s' leaving replaced enabled => ?_,
    fun a s' id p enabled mayNot found other => wf.door_keeps enabled mayNot id p found other,
    fun c f s' waiting enabled bad => wf.refused_hello waiting enabled bad,
    fun c desc s' armed mayNot live enabled => wf.refused_taken armed mayNot live enabled,
    fun a s' after final enabled ran refused => ?_,
    fun c result id p returned found => wf.returned_gone returned id p found⟩
  · -- What a replaced connection removes is nothing.
    exact wf.replaced_removal leaving replaced enabled
  · -- A claim made in this step would still be there at the end.
    exact wf.unseen enabled fun id claim => refused.1 id (run_claims_subset ran claim)

/-- A take-over of an id: the registry holds the second connection. -/
theorem registry_invariant_takeover : ∃ s, RouterReachable "dgx" (fun _ => false) s ∧
    holder s.peers "agent/dgx/a" = s.ledger.owner "agent/dgx/a" ∧
    s.ledger.owner "agent/dgx/a" = some 1 := by
  have reached : RouterReachable "dgx" (fun _ => false) _ :=
    ⟨joins 0 "agent/a" ++ joins 1 "agent/a", rfl⟩
  exact ⟨_, reached, (registry_invariant reached).1 _, by decide⟩

end Zapd
