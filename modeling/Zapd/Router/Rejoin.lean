import Zapd.Router.Progress

/-! No connection waits for another: each can register, and each can leave, by its own steps. -/

namespace Zapd

open Transition Utf8

variable {host : String} {door : ConnId → Bool} {s s' t : Router} {c : ConnId} {conn : Conn}

/-- No step leads back to the first phase. -/
theorem Acts.past_hello {a : Action} (acts : Acts s a t conn) : conn.phase ≠ .hello := by
  intro hello
  cases acts with
  | greeted first waiting =>
    rcases greet_phase s.host (s.conns _) first with
      ⟨_, _, phased, _⟩ | ⟨_, _, phased⟩ | ⟨_, phased⟩ <;>
    rw [phased] at hello <;> cases hello
  | @received c next relaying =>
    have holding := receive_holding (s.conns c) next
    rw [hello] at holding
    cases holding
  | forwarded f forwarding =>
    dsimp only at hello
    split at hello <;> cases hello
  | broke spawned =>
    change (s.conns _).phase = .hello at hello
    rw [hello] at spawned
    cases spawned
  | _ => cases hello

/-- A connection that waits for its HELLO has done nothing yet. -/
theorem RouterReachable.pristine (reached : RouterReachable host door s)
    (hello : (s.conns c).phase = .hello) :
    s.conns c = { takeOver := (s.conns c).takeOver } := by
  refine reached.invariant (P := fun s => (s.conns c).phase = .hello →
    s.conns c = { takeOver := (s.conns c).takeOver }) ?_ ?_ hello
  · intro _
    rfl
  intro s a s' untouched enabled hello
  rcases step_conns enabled c with ⟨rfl, t, acts⟩ | kept
  · exact absurd hello acts.past_hello
  · rw [kept] at hello ⊢
    exact untouched hello

/-- A step past the HELLO touches no entry but that of the own id, and the id stays. -/
theorem WellFormed.own_step (wf : WellFormed s) {a : Action} (enabled : s.step a = some s')
    (past : (s.conns a.conn).phase ≠ .hello) :
    (s'.conns a.conn).id = (s.conns a.conn).id ∧
      ∀ id, id ≠ (s.conns a.conn).id → s'.peers.lookup id = s.peers.lookup id := by
  obtain ⟨t, conn, acts, rfl⟩ := step_acts enabled
  refine ⟨?_, fun id other => ?_⟩
  · simp only [Function.update_self]
    cases acts with
    | greeted first waiting => exact absurd waiting past
    | received next relaying => exact receive_id _ _
    | _ => rfl
  · cases wf.registers acts with
    | unchanged peers => rw [← peers]
    | ended _ peers => rw [← peers]
    | inserted armed may peers =>
      dsimp only
      rw [peers, AList.lookup_insert_ne other]
    | removed leaving own peers =>
      dsimp only
      rw [peers, AList.lookup_erase_ne other]

/-- What a connection computes from its local variables is what its next step leads to. -/
theorem step_advance {next : Conn} (own : s.conns c = conn)
    (acted : advance s c conn = some (t, next)) :
    s.step (.advance c) = some { t with conns := Function.update t.conns c next } := by
  have acts : act s (.advance c) = some (t, next) := by
    rw [← acted, ← own]
    rfl
  rw [Router.step, acts]
  rfl

/-- A good HELLO leads to the insertion, over whatever entry the id has. -/
theorem enters {g : Frame} {id : String} {desc : Descriptor} (hello : (s.conns c).phase = .hello)
    (typ : g.typ = HELLO) (stamped : stamp g.from_ s.host = some id)
    (decoded : decodeHello g.payload = .ok desc)
    (may : (s.conns c).takeOver = true ∨ s.peers.lookup id = none) :
    ∃ t, run Router.step s [.read c (.ok (some g)), .advance c, .advance c] = some t ∧
      t.conns = Function.update s.conns c { s.conns c with
        id, token := s.nextToken, phase := .inserted (s.peers.lookup id) } ∧
      t.peers = s.peers.insert id ⟨c, desc, s.nextToken⟩ ∧ t.queues = s.queues ∧
      t.evictedAt = s.evictedAt := by
  let named : Conn := { s.conns c with id, phase := .stamped desc }
  let armed : Conn := { named with token := s.nextToken, phase := .armed desc }
  let greeted : Router := { s with conns := Function.update s.conns c named }
  let drawn : Router := { greeted with
    nextToken := s.nextToken + 1, conns := Function.update greeted.conns c armed }
  have reads : s.step (.read c (.ok (some g))) = some greeted := by
    simp [Router.step, act, hello, greet, typ, stamped, decoded, greeted, named]
  have draws : greeted.step (.advance c) = some drawn :=
    step_advance (t := { greeted with nextToken := s.nextToken + 1 }) (Function.update_self ..) rfl
  -- The id may be taken, whoever has it.
  have passes : ¬ (!armed.takeOver && (drawn.peers.lookup armed.id).isSome) = true := by
    rcases may with mayTake | free
    · simp [armed, named, mayTake]
    · simp [armed, named, drawn, greeted, free]
  have inserts := step_advance (s := drawn) (c := c) (Function.update_self ..) (if_neg passes)
  refine ⟨_, run_cons_eq_some.mpr ⟨_, reads, run_cons_eq_some.mpr ⟨_, draws,
    run_single inserts⟩⟩, ?_, rfl, rfl, rfl⟩
  simp [drawn, greeted, armed, named]

/-- What a broadcast about an id sends to the one who is registered under it alone. -/
theorem fanOut_own {peers : Peers} {id : String} {typ : UInt8} {payload : Bytes} {origin : Origin}
    (only : ∀ other, other ≠ id → holder peers other ≠ some c) :
    fanOut peers id typ payload origin c = [] := by
  rw [fanOut, List.filterMap_eq_nil_iff]
  rintro ⟨pid, p⟩ member
  refine if_neg fun ⟨own, other⟩ => only pid other ?_
  -- An entry of the map is what a lookup of its id finds.
  rw [holder, AList.mem_lookup_iff.mpr member]
  exact congrArg some own

/-- The one that was replaced is told so. -/
theorem fires {old : Option Peer} (inserted : (s.conns c).phase = .inserted old) :
    ∃ t, s.step (.advance c) = some t ∧
      t.conns = Function.update s.conns c { s.conns c with phase := .welcoming } ∧
      t.peers = s.peers ∧ t.queues = s.queues ∧
      ∀ p, old = some p → (t.evictedAt p.conn).isSome := by
  refine ⟨_, step_advance rfl (by rw [advance, inserted]), ?_, ?_, ?_, ?_⟩
  all_goals cases old <;> simp [fireEvict]

/-- The WELCOME is queued on the own channel. -/
theorem welcomes (welcoming : (s.conns c).phase = .welcoming) (writer : (s.conns c).writer = true) :
    ∃ t, s.step (.advance c) = some t ∧
      t.conns = Function.update s.conns c { s.conns c with phase := .arriving } ∧
      t.peers = s.peers ∧ t.evictedAt = s.evictedAt ∧
      t.queues c = s.queues c ++ [⟨Frame.new WELCOME "zapd" (s.conns c).id [], .welcome c⟩] := by
  refine ⟨_, step_advance rfl (by rw [advance, welcoming]), ?_, ?_, ?_, ?_⟩
  all_goals simp [push_eq, writer]

/-- The arrival is announced to the others. -/
theorem announces (arriving : (s.conns c).phase = .arriving)
    (only : ∀ other, other ≠ (s.conns c).id → holder s.peers other ≠ some c) :
    ∃ t, s.step (.advance c) = some t ∧
      t.conns = Function.update s.conns c { s.conns c with phase := .relaying } ∧
      t.peers = s.peers ∧ t.evictedAt = s.evictedAt ∧ t.queues c = s.queues c := by
  refine ⟨_, step_advance rfl (by rw [advance, arriving]), ?_, ?_, ?_, ?_⟩
  all_goals simp [broadcast, fanOut_own only]

/-- What was inserted is welcomed and announced, and the one it replaced is told. -/
theorem starts {old : Option Peer} (inserted : (s.conns c).phase = .inserted old)
    (writer : (s.conns c).writer = true)
    (only : ∀ other, other ≠ (s.conns c).id → holder s.peers other ≠ some c) :
    ∃ t, run Router.step s [.advance c, .advance c, .advance c] = some t ∧
      t.conns = Function.update s.conns c { s.conns c with phase := .relaying } ∧
      t.peers = s.peers ∧
      t.queues c = s.queues c ++ [⟨Frame.new WELCOME "zapd" (s.conns c).id [], .welcome c⟩] ∧
      ∀ p, old = some p → (t.evictedAt p.conn).isSome := by
  obtain ⟨told, first, conns₁, peers₁, queues₁, signal⟩ := fires inserted
  obtain ⟨queued, second, conns₂, peers₂, signal₂, queues₂⟩ :=
    welcomes (s := told) (c := c) (by simp [conns₁]) (by simpa [conns₁] using writer)
  obtain ⟨joined, third, conns₃, peers₃, signal₃, queues₃⟩ :=
    announces (s := queued) (c := c) (by simp [conns₂])
      (by simpa [conns₂, conns₁, peers₂, peers₁] using only)
  refine ⟨joined, run_cons_eq_some.mpr ⟨_, first, run_cons_eq_some.mpr ⟨_, second,
    run_single third⟩⟩, ?_, ?_, ?_, ?_⟩
  · simp [conns₃, conns₂, conns₁]
  · rw [peers₃, peers₂, peers₁]
  · simp [queues₃, queues₂, queues₁, conns₁]
  · rw [signal₃, signal₂]
    exact signal

/-- A good HELLO of a connection that may have its id registers it, whoever was registered before:
it is welcomed, and the one it replaced is told. -/
theorem registers {g : Frame} {id : String} {desc : Descriptor} (wf : WellFormed s)
    (fresh : s.conns c = { takeOver := (s.conns c).takeOver })
    (typ : g.typ = HELLO) (stamped : stamp g.from_ s.host = some id)
    (decoded : decodeHello g.payload = .ok desc)
    (may : (s.conns c).takeOver = true ∨ s.peers.lookup id = none) :
    ∃ t, run Router.step s (.read c (.ok (some g)) :: List.replicate 5 (.advance c)) = some t ∧
      t.conns = Function.update s.conns c
        { takeOver := (s.conns c).takeOver, phase := .relaying, id, token := s.nextToken } ∧
      t.peers = s.peers.insert id ⟨c, desc, s.nextToken⟩ ∧
      t.queues c = s.queues c ++ [⟨Frame.new WELCOME "zapd" id [], .welcome c⟩] ∧
      ∀ p, s.peers.lookup id = some p → (t.evictedAt p.conn).isSome := by
  have hello : (s.conns c).phase = .hello := by rw [fresh]
  obtain ⟨entered, first, conns₁, peers₁, queues₁, _⟩ := enters hello typ stamped decoded may
  -- Nobody who has just inserted itself is registered under another id.
  have only : ∀ other, other ≠ (entered.conns c).id → holder entered.peers other ≠ some c := by
    intro other differs held
    rw [conns₁, Function.update_self] at differs
    rw [peers₁, holder, AList.lookup_insert_ne differs] at held
    exact wf.holds_nothing (by rw [hello]; rfl) other held
  obtain ⟨joined, second, conns₂, peers₂, queues₂, signal⟩ :=
    starts (s := entered) (c := c) (by rw [conns₁, Function.update_self])
      (by rw [conns₁, Function.update_self]; exact congrArg Conn.writer fresh) only
  refine ⟨joined, ?_, ?_, ?_, ?_, signal⟩
  · show run Router.step s ([.read c (.ok (some g)), .advance c, .advance c] ++
      [.advance c, .advance c, .advance c]) = some joined
    rw [run_append, first]
    exact second
  · rw [conns₂, conns₁, Function.update_idem, Function.update_self, fresh]
  · rw [peers₂, peers₁]
  · simp [queues₂, queues₁, conns₁]

/-- Steps of its own lead a connection to its return. -/
def Router.Ends (s : Router) (c : ConnId) : Prop :=
  Leads (·.conn = c) Router.step s fun t => ∃ result, (t.conns c).phase = .returned result

/-- Going on computes on the own local variables. -/
theorem act_advance : act s (.advance c) = Zapd.advance s c (s.conns c) := rfl

/-- A connection that goes on ends if it does so from the phase it comes to. -/
theorem Router.Ends.next (a : Action) (p : Phase) (own : a.conn = c)
    (acts : (act s a).map (·.2.phase) = some p)
    (later : ∀ s' : Router, (s'.conns c).phase = p → s'.Ends c) : s.Ends c := by
  obtain ⟨⟨t, conn⟩, acted, rfl⟩ := Option.map_eq_some_iff.mp acts
  have enabled : s.step a = some { t with conns := Function.update t.conns a.conn conn } := by
    rw [Router.step, acted]
    rfl
  subst own
  refine Leads.cons rfl enabled (later _ ?_)
  exact congrArg Conn.phase (Function.update_self ..)

/-- A connection that has returned is at its end. -/
theorem ends_returned {result : Except Error Unit}
    (returned : (s.conns c).phase = .returned result) : s.Ends c :=
  Leads.now ⟨result, returned⟩

/-- What was refused is returned once the refusal is written. -/
theorem ends_refusing {reply : Frame} {e : Error}
    (refusing : (s.conns c).phase = .refusing reply e) : s.Ends c :=
  Router.Ends.next (.refuse c (.ok ())) (.returned (.error e)) rfl (by simp [act, refusing])
    fun _ => ends_returned

/-- The departure of the one whose entry was removed is announced. -/
theorem ends_departing {result : Except Error Unit}
    (departing : (s.conns c).phase = .departing result) : s.Ends c :=
  Router.Ends.next (.advance c) (.returned result) rfl (by simp [act, advance, departing])
    fun _ => ends_returned

/-- Who is about to leave removes its own entry, or finds that another has the id. -/
theorem ends_leaving {result : Except Error Unit} (leaving : (s.conns c).phase = .leaving result) :
    s.Ends c := by
  by_cases own : (s.peers.lookup (s.conns c).id).map Peer.token = some (s.conns c).token
  · refine Router.Ends.next (.advance c) (.departing result) rfl ?_ fun _ => ends_departing
    simp only [act_advance, advance, leaving]
    rw [if_pos own]
    rfl
  · refine Router.Ends.next (.advance c) (.returned result) rfl ?_ fun _ => ends_returned
    simp only [act_advance, advance, leaving]
    rw [if_neg own]
    rfl

/-- The stream of a connection that relays may end. -/
theorem ends_relaying (relaying : (s.conns c).phase = .relaying) : s.Ends c :=
  Router.Ends.next (.read c (.ok none)) (.leaving (.ok ())) rfl (by simp [act, relaying, receive])
    fun _ => ends_leaving

/-- Who owes its own node a reply sends it, and relays. -/
theorem ends_replying {q : Queued} (owed : (s.conns c).reply c = some q) : s.Ends c := by
  refine Router.Ends.next (.advance c) .relaying rfl ?_ fun _ => ends_relaying
  unfold Conn.reply at owed
  split at owed
  case h_4 => cases owed
  all_goals simp_all [act, advance]

/-- A frame in hand is delivered, or its sender is told that nobody took it. -/
theorem ends_forwarding {f : Frame} (forwarding : (s.conns c).phase = .forwarding f) :
    s.Ends c := by
  by_cases taken : (sendTo s f.to_ ((s.conns c).stamped c f)).2 = true
  · refine Router.Ends.next (.advance c) .relaying rfl ?_ fun _ => ends_relaying
    simp only [act_advance, advance, forwarding, Option.map_some]
    exact congrArg some (if_pos taken)
  · refine Router.Ends.next (.advance c) (.unrouted f.to_) rfl ?_ fun s' unrouted => ?_
    · simp only [act_advance, advance, forwarding, Option.map_some]
      exact congrArg some (if_neg taken)
    · exact ends_replying (by rw [Conn.reply, unrouted])

/-- A list is taken in the order the map gives it. -/
theorem ends_listing {filter : String} (listing : (s.conns c).phase = .listing filter) :
    s.Ends c := by
  refine Router.Ends.next (.snapshot c (list s.peers filter))
    (.listed filter (list s.peers filter)) rfl (by simp [act, listing]) fun s' listed => ?_
  exact ends_replying (by rw [Conn.reply, listed])

/-- Who was inserted is told so, and announced. -/
theorem ends_arriving (arriving : (s.conns c).phase = .arriving) : s.Ends c :=
  Router.Ends.next (.advance c) .relaying rfl (by simp [act, advance, arriving])
    fun _ => ends_relaying

theorem ends_welcoming (welcoming : (s.conns c).phase = .welcoming) : s.Ends c :=
  Router.Ends.next (.advance c) .arriving rfl (by simp [act, advance, welcoming])
    fun _ => ends_arriving

theorem ends_inserted {old : Option Peer} (inserted : (s.conns c).phase = .inserted old) :
    s.Ends c :=
  Router.Ends.next (.advance c) .welcoming rfl (by simp [act, advance, inserted])
    fun _ => ends_welcoming

/-- Who has drawn its token is inserted, or refused because its id is taken. -/
theorem ends_armed {desc : Descriptor} (armed : (s.conns c).phase = .armed desc) : s.Ends c := by
  by_cases taken : (!(s.conns c).takeOver && (s.peers.lookup (s.conns c).id).isSome) = true
  · refine Router.Ends.next (.advance c) (refusal .addrInUse ("taken:" ++ (s.conns c).id)) rfl ?_
      fun _ => ends_refusing
    simp only [act_advance, advance, armed]
    rw [if_pos taken]
    rfl
  · refine Router.Ends.next (.advance c) (.inserted (s.peers.lookup (s.conns c).id)) rfl ?_
      fun _ => ends_inserted
    simp only [act_advance, advance, armed]
    rw [if_neg taken]
    rfl

/-- From every phase the connection's own steps lead to its return. -/
theorem ends (s : Router) (c : ConnId) : s.Ends c := by
  cases phase : (s.conns c).phase with
  | hello =>
    -- The stream may end before anything was said.
    exact Router.Ends.next (.read c (.ok none)) (.returned (.ok ())) rfl
      (by simp [act, phase, greet]) fun _ => ends_returned
  | refusing reply e => exact ends_refusing phase
  | stamped desc =>
    exact Router.Ends.next (.advance c) (.armed desc) rfl (by simp [act, advance, phase])
      fun _ => ends_armed
  | armed desc => exact ends_armed phase
  | inserted old => exact ends_inserted phase
  | welcoming => exact ends_welcoming phase
  | arriving => exact ends_arriving phase
  | relaying => exact ends_relaying phase
  | forwarding f => exact ends_forwarding phase
  | listing filter => exact ends_listing phase
  | unrouted dest => exact ends_replying (by rw [Conn.reply, phase])
  | listed filter entries => exact ends_replying (by rw [Conn.reply, phase])
  | unknown => exact ends_replying (by rw [Conn.reply, phase])
  | leaving result => exact ends_leaving phase
  | departing result => exact ends_departing phase
  | returned result => exact ends_returned phase

/-- A connection can leave by its own steps, and no entry of another id changes by that. -/
theorem RouterReachable.leaves (reached : RouterReachable host door s) (c : ConnId) :
    Leads (·.conn = c) Router.step s fun t =>
      (∃ result, (t.conns c).phase = .returned result) ∧ (∀ id, holder t.peers id ≠ some c) ∧
        ∀ id, id ≠ (s.conns c).id → t.peers.lookup id = s.peers.lookup id := by
  by_cases hello : (s.conns c).phase = .hello
  · have waits : ∀ id, holder s.peers id ≠ some c :=
      reached.wellFormed.holds_nothing (by rw [hello]; rfl)
    let ended : Conn := { s.conns c with phase := .returned (.ok ()) }
    have enabled : s.step (.read c (.ok none)) =
        some { s with conns := Function.update s.conns c ended } := by
      simp [Router.step, act, hello, greet, ended]
    have returned : (Function.update s.conns c ended c).phase = .returned (.ok ()) := by
      rw [Function.update_self]
    exact Leads.cons rfl enabled (Leads.now ⟨⟨.ok (), returned⟩, waits, fun _ _ => rfl⟩)
  · refine (ends s c).imp fun actions t own ran returned => ?_
    have kept : WellFormed t ∧ (t.conns c).phase ≠ .hello ∧ (t.conns c).id = (s.conns c).id ∧
        ∀ id, id ≠ (s.conns c).id → t.peers.lookup id = s.peers.lookup id := by
      refine run_invariant_kind (P := fun t => WellFormed t ∧
        (t.conns c).phase ≠ .hello ∧ (t.conns c).id = (s.conns c).id ∧
        ∀ id, id ≠ (s.conns c).id → t.peers.lookup id = s.peers.lookup id) ?_
        ⟨reached.wellFormed, hello, rfl, fun _ _ => rfl⟩ own ran
      rintro r a r' rfl ⟨wf, past, named, same⟩ enabled
      obtain ⟨t, acts⟩ := step_moves enabled
      obtain ⟨stays, others⟩ := wf.own_step enabled past
      refine ⟨wf.step enabled, acts.past_hello, stays.trans named, fun id other => ?_⟩
      rw [others id (named ▸ other)]
      exact same id other
    obtain ⟨wf, _, _, same⟩ := kept
    obtain ⟨result, phase⟩ := returned
    exact ⟨⟨result, phase⟩, wf.holds_nothing (by rw [phase]; rfl), same⟩

/-- Steps of its own never bring a connection through the door to an id that another has. -/
theorem WellFormed.door_waits (wf : WellFormed s) {id : String} {p : Peer}
    (mayNot : (s.conns c).takeOver = false) (found : s.peers.lookup id = some p)
    (other : p.conn ≠ c) {actions : List Action} (own : ∀ a ∈ actions, a.conn = c)
    (ran : Transition.run Router.step s actions = some t) : t.peers.lookup id = some p := by
  have kept : WellFormed t ∧ (t.conns c).takeOver = false ∧ t.peers.lookup id = some p := by
    refine run_invariant_kind (P := fun t => WellFormed t ∧
      (t.conns c).takeOver = false ∧ t.peers.lookup id = some p) ?_ ⟨wf, mayNot, found⟩ own ran
    rintro r a r' rfl ⟨wf, mayNot, found⟩ enabled
    exact ⟨wf.step enabled, (step_takeOver enabled _).trans mayNot,
      wf.door_keeps enabled mayNot id p found other⟩
  exact kept.2.2

/-- No connection waits for another, in any state of the router. Each can leave by its own steps,
and no entry of another id changes by that; and one that has yet to say HELLO can register under an
id, be welcomed and have the one before it told, by its own steps, exactly if it may take ids over
or the id is free. -/
theorem no_connection_waits (reached : RouterReachable host door s) (c : ConnId) :
    (Leads (·.conn = c) Router.step s fun t =>
      (∃ result, (t.conns c).phase = .returned result) ∧ (∀ id, holder t.peers id ≠ some c) ∧
        ∀ id, id ≠ (s.conns c).id → t.peers.lookup id = s.peers.lookup id) ∧
    ((s.conns c).phase = .hello → ∀ id, (∃ proposed, stamp proposed s.host = some id) →
      ((Leads (·.conn = c) Router.step s fun t => t.Live id c ∧ (t.conns c).phase = .relaying ∧
        t.queues c = s.queues c ++ [⟨Frame.new WELCOME "zapd" id [], .welcome c⟩] ∧
        ∀ p, s.peers.lookup id = some p → (t.evictedAt p.conn).isSome) ↔
        (s.conns c).takeOver = true ∨ s.peers.lookup id = none)) := by
  have wf := reached.wellFormed
  refine ⟨reached.leaves c, fun hello id ⟨proposed, stamped⟩ => ⟨?_, fun may => ?_⟩⟩
  · rintro ⟨actions, t, own, ran, live, _⟩
    by_contra never
    obtain ⟨mayNot, taken⟩ := not_or.mp never
    obtain ⟨p, found⟩ := Option.ne_none_iff_exists'.mp taken
    -- Who waits for its HELLO has no entry, so the one there is another's, and stays.
    have other : p.conn ≠ c := by
      rintro rfl
      exact wf.holds_nothing (by rw [hello]; rfl) id (by rw [holder, found]; rfl)
    have kept := wf.door_waits (by simpa using mayNot) found other own ran
    have held := live.held
    rw [holder, kept] at held
    exact other (Option.some.inj held)
  · let desc : Descriptor := ⟨1, "", [], []⟩
    have decoded : decodeHello (encodeHello desc) = .ok desc := by decide
    obtain ⟨t, ran, conns, peers, queues, told⟩ :=
      registers (g := Frame.new HELLO proposed "" (encodeHello desc)) wf (reached.pristine hello)
        rfl stamped decoded may
    refine ⟨_, t, ?_, ran, ⟨?_, ?_⟩, ?_, queues, told⟩
    · simp
    · rw [holder, peers, AList.lookup_insert]
      rfl
    · rw [conns, Function.update_self]
    · rw [conns, Function.update_self]

/-- A second local connection can take over an id at once; one through the door cannot have it. -/
theorem no_connection_waits_taken : ∃ s, RouterReachable "dgx" (· = 2) s ∧
    (Leads (·.conn = 1) Router.step s fun t => t.Live "agent/dgx/a" 1 ∧
      (t.conns 1).phase = .relaying ∧
      t.queues 1 = s.queues 1 ++ [⟨Frame.new WELCOME "zapd" "agent/dgx/a" [], .welcome 1⟩] ∧
      ∀ p, s.peers.lookup "agent/dgx/a" = some p → (t.evictedAt p.conn).isSome) ∧
    ¬ Leads (·.conn = 2) Router.step s fun t => t.Live "agent/dgx/a" 2 ∧
      (t.conns 2).phase = .relaying ∧
      t.queues 2 = s.queues 2 ++ [⟨Frame.new WELCOME "zapd" "agent/dgx/a" [], .welcome 2⟩] ∧
      ∀ p, s.peers.lookup "agent/dgx/a" = some p → (t.evictedAt p.conn).isSome := by
  have reached : RouterReachable "dgx" (· = 2) _ := ⟨joins 0 "agent/a", rfl⟩
  have valid : ∃ proposed, stamp proposed "dgx" = some "agent/dgx/a" := ⟨"agent/a", by decide⟩
  refine ⟨_, reached, ?_, ?_⟩
  · exact ((no_connection_waits reached 1).2 rfl _ valid).mpr (.inl rfl)
  · intro leads
    exact absurd (((no_connection_waits reached 2).2 rfl _ valid).mp leads) (by decide)

end Zapd
