import Zapd.Router.Registry

/-! What no step takes back: frames read, ids claimed, writers gone, and registrations lost. -/

namespace Zapd

open Utf8

/-- A read in `route_loop` appends the frame read; every other step leaves the frames alone. -/
theorem Acts.received_eq {s t : Router} {a : Action} {conn : Conn} (acts : Acts s a t conn) :
    conn.received = (s.conns a.conn).received ∨
      ∃ f, a = .read a.conn (.ok (some f)) ∧ (s.conns a.conn).phase = .relaying ∧
        conn.received = (s.conns a.conn).received ++ [f] ∧ conn.phase = dispatch f := by
  cases acts with
  | greeted first waiting => exact .inl (greet_received _ _ _)
  | @received c next relaying =>
    rcases next with e | _ | f
    · -- A failed read appends nothing.
      exact .inl rfl
    · exact .inl rfl
    · exact .inr ⟨f, rfl, relaying, rfl, rfl⟩
  | _ => exact .inl rfl

/-- A writer that is gone stays gone. -/
theorem Acts.writer_mono {s t : Router} {a : Action} {conn : Conn} (acts : Acts s a t conn)
    (alive : conn.writer = true) : (s.conns a.conn).writer = true := by
  cases acts with
  | greeted first waiting => simpa using alive
  | received next relaying => simpa using alive
  -- These steps drop the writer.
  | broke | kept | departed => simp at alive
  | _ => exact alive

/-- Frames read are never forgotten. -/
theorem step_received {s s' : Router} {a : Action} (enabled : s.step a = some s') (k : ConnId) :
    (s.conns k).received <+: (s'.conns k).received := by
  rcases step_conns enabled k with ⟨rfl, t, acts⟩ | kept
  · rcases acts.received_eq with same | ⟨f, _, _, more, _⟩
    · exact same ▸ List.prefix_refl _
    · rw [more]
      -- The frame just read comes last.
      exact List.prefix_append _ _
  · exact kept ▸ List.prefix_refl _

/-- A writer that lives after a step lived before it. -/
theorem step_writer {s s' : Router} {a : Action} (enabled : s.step a = some s') (k : ConnId)
    (alive : (s'.conns k).writer = true) : (s.conns k).writer = true := by
  rcases step_conns enabled k with ⟨rfl, t, acts⟩ | kept
  · exact acts.writer_mono alive
  · rwa [kept] at alive

/-- A run keeps the invariant. -/
theorem WellFormed.run {s s' : Router} {actions : List Action} (wf : WellFormed s)
    (ran : Transition.run Router.step s actions = some s') : WellFormed s' :=
  Transition.run_invariant (fun _ _ _ wf enabled => wf.step enabled) wf ran

/-- A connection that has entered keeps its id along a run. -/
theorem WellFormed.run_id {s s' : Router} {actions : List Action} (wf : WellFormed s)
    (ran : Transition.run Router.step s actions = some s') {k : ConnId}
    (claimed : ((s.conns k).id, k) ∈ s.claims) : (s'.conns k).id = (s.conns k).id :=
  ((wf.run ran).claimed _ _ (run_claims_subset ran claimed)).1

/-- A connection that has entered keeps its id in a step. -/
theorem WellFormed.step_id {s s' : Router} {a : Action} (wf : WellFormed s)
    (enabled : s.step a = some s') {k : ConnId} (claimed : ((s.conns k).id, k) ∈ s.claims) :
    (s'.conns k).id = (s.conns k).id :=
  wf.run_id (Transition.run_single enabled) claimed

/-- A holder has claimed the id it holds. -/
theorem WellFormed.holder_claimed {s : Router} (wf : WellFormed s) {id : String} {c : ConnId}
    (held : holder s.peers id = some c) : ((s.conns c).id, c) ∈ s.claims :=
  wf.registered c (Phase.entered_of_holding (wf.holder_id held).2)

/-- A connection is registered under an id, and its writer lives. -/
structure Router.Live (s : Router) (id : String) (b : ConnId) : Prop where
  held : holder s.peers id = some b
  writer : (s.conns b).writer = true

/-- A connection that has claimed an id and holds it after a step held it before. -/
theorem WellFormed.live_back {s s' : Router} {a : Action} (wf : WellFormed s)
    (enabled : s.step a = some s') {id : String} {b : ConnId} (claimed : (id, b) ∈ s.claims)
    (live : s'.Live id b) : s.Live id b := by
  refine ⟨?_, step_writer enabled b live.writer⟩
  have held := live.held
  obtain ⟨t, conn, acts, rfl⟩ := step_acts enabled
  cases wf.registers acts with
  | unchanged peers => rwa [peers] at held
  | ended _ peers => rwa [peers] at held
  | inserted armed may peers =>
    -- Whoever inserts itself has claimed nothing before.
    have newcomer : b ≠ a.conn := by
      rintro rfl
      simpa [armed] using (wf.claimed id _ claimed).2
    rw [peers] at held
    by_cases self : id = (s.conns a.conn).id
    · subst self
      simp only [holder, AList.lookup_insert, Option.map_some, Option.some.injEq] at held
      exact absurd held.symm newcomer
    · simpa [holder, AList.lookup_insert_ne self] using held
  -- Nobody is registered under the id that was removed.
  | removed leaving own peers =>
    rw [peers] at held
    by_cases self : id = (s.conns a.conn).id
    · subst self
      simp [holder] at held
    · simpa [holder, AList.lookup_erase_ne self] using held

end Zapd
