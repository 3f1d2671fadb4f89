import Zapd.Base.Permits
import Zapd.Door.Authority
import Zapd.Door.Front
import Zapd.Pair.Agreement

/-! Admission: a bounded number at a time, and nobody is heard that was not checked and proven. -/

namespace Zapd

open Utf8 Symbolic

variable {leaked : Key → Bool} {port : UInt16} {host : String} {door : ConnId → Bool}
  {s s' : Front}

/-- A step of the front, one case for each way it can be taken. -/
inductive FrontMoves (leaked : Key → Bool) (port : UInt16) (s : Front) : FrontAction → Front → Prop
  | turnedAway {c : ConnId} : (s.admissions c).stage = .absent → s.permits = 0 →
      FrontMoves leaked port s (.accept c)
        { s.goOn c { stage := .turnedAway } with accepted := c :: s.accepted }
  | accepted {c : ConnId} {left : Nat} : (s.admissions c).stage = .absent → s.permits = left + 1 →
      FrontMoves leaked port s (.accept c)
        { s.goOn c { stage := .upgrading } with permits := left, accepted := c :: s.accepted }
  | forbidden {c : ConnId} {r : Upgrade} {next : Admission} :
      (s.admissions c).stage = .upgrading → next.stage = .refused →
      FrontMoves leaked port s (.upgrade c r) (s.finish c next)
  | upgraded {c : ConnId} {r : Upgrade} : (s.admissions c).stage = .upgrading →
      check r.origin r.host port = .ok () →
      FrontMoves leaked port s (.upgrade c r)
        (s.goOn c
          { stage := if r.origin.any BLINK.contains then .greeting else .proving,
            request := some r, blink := r.origin.any BLINK.contains })
  | moved {a : ProofAction} {handshake : Handshake} :
      (∀ d, a.session = some d → (s.admissions d).stage = .proving) →
      s.handshake.step leaked a = some handshake →
      FrontMoves leaked port s (.handshake a) { s with handshake }
  | proved {c : ConnId} {key : Key} {nc ns : Symbols} : (s.admissions c).stage = .proving →
      s.handshake.doors c = .proved key nc ns →
      FrontMoves leaked port s (.conclude c)
        (s.goOn c { s.admissions c with stage := .greeting })
  | gaveUp {a : FrontAction} {c : ConnId} : a = .conclude c ∨ a = .expire c →
      (s.admissions c).stage.holds = true →
      FrontMoves leaked port s a (s.finish c { s.admissions c with stage := .refused })
  | ran {a : SystemAction} {system : System} :
      (s.system.router.conns a.conn).takeOver = true ∨ (s.admissions a.conn).stage = .admitted →
      s.system.step a = some system → FrontMoves leaked port s (.system a) { s with system }
  | greeted {c : ConnId} {m : Message} {system : System} : (s.admissions c).stage = .greeting →
      s.system.step (.browser c (.message m)) = some system →
      FrontMoves leaked port s (.system (.browser c (.message m)))
        ({ s with system }.greeted c)

/-- Every enabled step is one of the cases. -/
theorem front_moves {a : FrontAction} (enabled : s.step leaked port a = some s') :
    FrontMoves leaked port s a s' := by
  cases a with
  | accept c =>
    obtain ⟨⟨_, absent⟩, taken⟩ := Option.ite_none_right_eq_some.mp enabled
    split at taken
    · rename_i none_
      cases taken
      exact .turnedAway absent none_
    · rename_i some_
      cases taken
      exact .accepted absent (Nat.succ_pred_eq_of_ne_zero some_).symm
  | upgrade c r =>
    obtain ⟨upgrading, same⟩ := Option.ite_none_right_eq_some.mp enabled
    cases same
    -- The request is forbidden, or the admission goes on with what the origin asks for.
    unfold Front.upgrade
    dsimp only
    split
    · exact .forbidden upgrading rfl
    · rename_i good
      exact .upgraded upgrading good
  | handshake p =>
    obtain ⟨inside, taken⟩ := Option.ite_none_right_eq_some.mp enabled
    obtain ⟨handshake, stepped, rfl⟩ := Option.map_eq_some_iff.mp taken
    refine .moved (fun d session => ?_) stepped
    rw [session] at inside
    simpa using inside
  | conclude c =>
    obtain ⟨proving, taken⟩ := Option.ite_none_right_eq_some.mp enabled
    split at taken
    · cases taken
      exact .proved proving (by assumption)
    · cases taken
      exact .gaveUp (.inl rfl) (by rw [proving]; rfl)
    all_goals cases taken
  | expire c =>
    obtain ⟨holds, same⟩ := Option.ite_none_right_eq_some.mp enabled
    cases same
    exact .gaveUp (.inr rfl) holds
  | system b =>
    simp only [Front.step] at enabled
    split at enabled
    · rename_i may
      obtain ⟨system, stepped, rfl⟩ := Option.map_eq_some_iff.mp enabled
      exact .ran may stepped
    · obtain ⟨⟨greeting, first⟩, taken⟩ := Option.ite_none_right_eq_some.mp enabled
      obtain ⟨system, stepped, rfl⟩ := Option.map_eq_some_iff.mp taken
      -- The one step of an admission itself is the first message.
      split at first
      · exact .greeted greeting stepped
      · cases first

/-- The gate as a stock of permits. -/
def Front.gate (s : Front) : Permits.Stock ConnId :=
  { free := s.permits, members := s.accepted, holds := fun c => (s.admissions c).stage.holds }

/-- Nothing has come through the pipe, and the task behind it waits for its HELLO. -/
def System.Unheard (s : System) (c : ConnId) : Prop :=
  (s.router.conns c).phase = .hello ∧ (s.doors c).parsed = []

/-- The request of an admission passed the check, and its origin is one of the fixed ones or not. -/
def Admission.Checked (port : UInt16) (admission : Admission) : Prop :=
  ∃ r, admission.request = some r ∧ check r.origin r.host port = .ok () ∧
    admission.blink = r.origin.any BLINK.contains

/-- What holds of a connection, as far as its admission has come. -/
structure Front.Vetted (port : UInt16) (s : Front) (c : ConnId) : Prop where
  /-- The router hears nobody who was not admitted. -/
  unheard : (s.system.router.conns c).takeOver = false → (s.admissions c).stage ≠ .admitted →
    s.system.Unheard c
  checked : (s.admissions c).stage ∈ [.proving, .greeting, .admitted] →
    (s.admissions c).Checked port
  /-- Whoever is past the proof proved it, or did not have to. -/
  proved : (s.admissions c).stage ∈ [.greeting, .admitted] →
    (s.admissions c).blink = true ∨ ∃ key nc ns, s.handshake.doors c = .proved key nc ns

/-- The invariant of the front. -/
structure Front.Guarded (port : UInt16) (s : Front) : Prop where
  gate : Permits.Accounted ADMITTING s.gate
  known : ∀ c, (s.admissions c).stage = .absent → c ∉ s.accepted
  vetted : ∀ c, s.Vetted port c

/-- Nobody has connected yet. -/
theorem Front.Guarded.initial : (Front.initial host door).Guarded port where
  gate := .full ADMITTING
  known _ _ := List.not_mem_nil
  vetted _ := ⟨fun _ _ => ⟨rfl, rfl⟩, by simp [Front.initial], by simp [Front.initial]⟩

/-- Where nothing about a connection changes, it stays vetted. -/
theorem Front.Vetted.congr {c : ConnId} (vetted : s.Vetted port c)
    (admission : s'.admissions c = s.admissions c)
    (conn : s'.system.router.conns c = s.system.router.conns c)
    (pipe : s'.system.doors c = s.system.doors c)
    (session : s'.handshake.doors c = s.handshake.doors c) : s'.Vetted port c := by
  obtain ⟨unheard, checked, proved⟩ := vetted
  unfold System.Unheard at unheard
  refine ⟨?_, ?_, ?_⟩
  · unfold System.Unheard
    rwa [admission, conn, pipe]
  · rwa [admission]
  · rwa [admission, session]

@[simp] theorem admission_self (s : Front) (c : ConnId) (next : Admission) :
    (s.goOn c next).admissions c = next :=
  Function.update_self ..

@[simp] theorem admission_other (s : Front) {c d : ConnId} (other : d ≠ c) (next : Admission) :
    (s.goOn c next).admissions d = s.admissions d :=
  Function.update_of_ne other ..

/-- An admission that is not past the check, or over, asks only that nothing was heard. -/
theorem Front.Vetted.early {c : ConnId} (vetted : s.Vetted port c)
    (before : (s.admissions c).stage ≠ .admitted) {next : Admission}
    (early : next.stage ∉ [.proving, .greeting, .admitted]) : (s.goOn c next).Vetted port c := by
  refine ⟨fun browser _ => vetted.unheard browser before, fun late => ?_, fun later => ?_⟩
  · rw [admission_self] at late
    exact absurd late early
  · rw [admission_self] at later
    exact absurd (List.mem_cons_of_mem _ later) early

/-- Everyone else is vetted as before when one admission goes on. -/
theorem Front.Vetted.goOn (vetted : ∀ d, s.Vetted port d) {c : ConnId} {next : Admission}
    (self : (s.goOn c next).Vetted port c) (d : ConnId) : (s.goOn c next).Vetted port d := by
  by_cases same : d = c
  · exact same ▸ self
  · exact (vetted d).congr (admission_other s same next) rfl rfl rfl

/-- Who holds a permit once one admission has gone on. -/
theorem admission_holds (s : Front) (c : ConnId) (next : Admission) :
    (s.goOn c next).gate.holds = Function.update s.gate.holds c next.stage.holds := by
  funext d
  show (Function.update s.admissions c next d).stage.holds = _
  by_cases same : d = c
  · subst same
    rw [Function.update_self, Function.update_self]
  · rw [Function.update_of_ne same, Function.update_of_ne same]
    rfl

/-- Whoever was not accepted is still absent once one admission has gone on to another stage. -/
theorem Front.Guarded.known_goOn (guarded : s.Guarded port) {c : ConnId} {next : Admission}
    (present : next.stage ≠ .absent) (d : ConnId)
    (absent : ((s.goOn c next).admissions d).stage = .absent) : d ≠ c ∧ d ∉ s.accepted := by
  by_cases same : d = c
  · subst same
    rw [admission_self] at absent
    exact absurd absent present
  · rw [admission_other s same] at absent
    exact ⟨same, guarded.known d absent⟩

/-- An admission that keeps its permit goes on. -/
theorem Front.Guarded.goOn (guarded : s.Guarded port) {c : ConnId} {next : Admission}
    (before : (s.admissions c).stage.holds = true) (after : next.stage.holds = true)
    (self : (s.goOn c next).Vetted port c) : (s.goOn c next).Guarded port := by
  refine ⟨?_, fun d absent => (guarded.known_goOn ?_ d absent).2,
    Front.Vetted.goOn guarded.vetted self⟩
  · refine guarded.gate.congr fun d => ?_
    -- Only the connection itself could differ, and it holds its permit as before.
    rw [show ((s.goOn c next).admissions d).stage.holds = (s.goOn c next).gate.holds d from rfl,
      admission_holds, after, ← before]
    exact congrFun (Function.update_eq_self c s.gate.holds) d
  · intro absent
    rw [absent] at after
    cases after

/-- An admission is over, and gives its permit back. -/
theorem Front.Guarded.finish (guarded : s.Guarded port) {c : ConnId} {next : Admission}
    (before : (s.admissions c).stage.holds = true) (after : next.stage.holds = false)
    (present : next.stage ≠ .absent) (self : (s.goOn c next).Vetted port c) :
    (s.finish c next).Guarded port := by
  refine ⟨?_, fun d absent => (guarded.known_goOn present d absent).2, fun d => ?_⟩
  · have released := guarded.gate.release (i := c) before
    rw [← after, ← admission_holds] at released
    exact released
  · exact (Front.Vetted.goOn guarded.vetted self d).congr rfl rfl rfl rfl

/-- A connection is accepted, with a permit or without. -/
theorem Front.Guarded.join (guarded : s.Guarded port) {c : ConnId} {next : Admission} {free : Nat}
    (absent : (s.admissions c).stage = .absent)
    (taken : free + (if next.stage.holds then 1 else 0) = s.permits)
    (early : next.stage ∉ [.absent, .proving, .greeting, .admitted]) :
    ({ s.goOn c next with permits := free, accepted := c :: s.accepted } : Front).Guarded port := by
  refine ⟨?_, fun d still => ?_, fun d => ?_⟩
  · have joined := guarded.gate.join (guarded.known c absent) taken
    rw [← admission_holds] at joined
    exact joined
  · obtain ⟨other, unknown⟩ := guarded.known_goOn (fun same => early (by simp [same])) d still
    exact List.not_mem_cons_of_ne_of_not_mem other unknown
  · have self : (s.goOn c next).Vetted port c :=
      (guarded.vetted c).early (by rw [absent]; decide) fun late =>
        early (List.mem_cons_of_mem _ late)
    exact (Front.Vetted.goOn guarded.vetted self d).congr rfl rfl rfl rfl

/-- A step of the proofs leaves every other session alone. -/
theorem handshake_other {h h' : Handshake} {a : ProofAction} (stepped : h.step leaked a = some h')
    {d : ProofId} (other : a.session ≠ some d) : h'.doors d = h.doors d := by
  have differs : ∀ e, a.session = some e → d ≠ e := by
    intro e session same
    exact other (same ▸ session)
  cases a with
  | prove e key =>
    simp only [Handshake.step] at stepped
    split at stepped <;> cases stepped
    exact Function.update_of_ne (differs e rfl) _ _
  | toDoor e m =>
    obtain ⟨_, heard⟩ := Option.ite_none_right_eq_some.mp stepped
    obtain ⟨next, _, rfl⟩ := Option.map_eq_some_iff.mp heard
    exact Function.update_of_ne (differs e rfl) _ _
  | challenge e ns =>
    simp only [Handshake.step] at stepped
    split at stepped
    · obtain ⟨_, same⟩ := Option.ite_none_right_eq_some.mp stepped
      cases same
      exact Function.update_of_ne (differs e rfl) _ _
    · cases stepped
  | abort e =>
    simp only [Handshake.step] at stepped
    split at stepped <;> cases stepped
    exact Function.update_of_ne (differs e rfl) _ _
  -- A client's step touches no session of a door.
  | hail c key nc =>
    simp only [Handshake.step] at stepped
    split at stepped
    · obtain ⟨_, same⟩ := Option.ite_none_right_eq_some.mp stepped
      cases same
      rfl
    · cases stepped
  | toClient c m =>
    obtain ⟨_, heard⟩ := Option.ite_none_right_eq_some.mp stepped
    obtain ⟨next, _, rfl⟩ := Option.map_eq_some_iff.mp heard
    rfl
  | quit c =>
    simp only [Handshake.step] at stepped
    split at stepped <;> cases stepped
    rfl

/-- A move of a browser's door leaves the router alone. -/
theorem browser_router {s s' : System} {c : ConnId} {a : DoorAction}
    (stepped : s.step (.browser c a) = some s') : s'.router = s.router := by
  cases system_moves stepped
  rfl

/-- A move of a browser's door parses nothing. -/
theorem browser_parsed {s s' : System} {c : ConnId} {a : DoorAction}
    (stepped : s.step (.browser c a) = some s') : (s'.doors c).parsed = (s.doors c).parsed := by
  cases system_moves stepped with
  | moved moved =>
    show (Function.update s.doors c _ c).parsed = _
    rw [Function.update_self]
    exact door_parsed moved

/-- The system goes on, and whoever it goes on for may. -/
theorem Front.Guarded.ran (guarded : s.Guarded port) {a : SystemAction} {system : System}
    (may : (s.system.router.conns a.conn).takeOver = true ∨
      (s.admissions a.conn).stage = .admitted)
    (stepped : s.system.step a = some system) : ({ s with system } : Front).Guarded port := by
  refine ⟨guarded.gate, guarded.known, fun d => ?_⟩
  by_cases self : d = a.conn
  · subst self
    refine ⟨fun browser before => ?_, (guarded.vetted _).checked, (guarded.vetted _).proved⟩
    -- A local connection stays one, and an admission that is over stays over.
    rcases may with isLocal | admitted
    · have kept : (system.router.conns a.conn).takeOver =
          (s.system.router.conns a.conn).takeOver := by
        rcases system_router stepped with same | ⟨r, _, routed⟩
        · rw [same]
        · exact step_takeOver routed _
      rw [kept, isLocal] at browser
      cases browser
    · exact absurd admitted before
  · exact (guarded.vetted d).congr rfl (system_other stepped self) (system_doors stepped self) rfl

/-- Hearing the HELLO changes nothing that the router has heard. -/
theorem Front.Guarded.hearing (guarded : s.Guarded port) {c : ConnId} {m : Message}
    {system : System} (stepped : s.system.step (.browser c (.message m)) = some system) :
    ({ s with system } : Front).Guarded port := by
  refine ⟨guarded.gate, guarded.known, fun d => ?_⟩
  obtain ⟨unheard, checked, proved⟩ := guarded.vetted d
  have router := browser_router stepped
  refine ⟨fun browser before => ?_, checked, proved⟩
  rw [show ({ s with system } : Front).system = system from rfl, router] at browser
  obtain ⟨waiting, silent⟩ := unheard browser before
  refine ⟨by rw [← waiting]; exact congrArg (fun r : Router => (r.conns d).phase) router, ?_⟩
  -- Of the doors only this one has moved, and it has parsed nothing.
  by_cases self : d = c
  · subst self
    exact (browser_parsed stepped).trans silent
  · exact (congrArg Door.parsed (system_doors stepped self)).trans silent

/-- The HELLO of a connection is heard, and its admission is over. -/
theorem Front.Guarded.greeted (guarded : s.Guarded port) {c : ConnId}
    (greeting : (s.admissions c).stage = .greeting) : (s.greeted c).Guarded port := by
  have held : (s.admissions c).stage.holds = true := by
    rw [greeting]
    rfl
  have vetted := guarded.vetted c
  have refused : (s.finish c { s.admissions c with stage := .refused }).Guarded port :=
    guarded.finish held rfl nofun (vetted.early (by simp [greeting]) (by simp))
  unfold Front.greeted
  split
  · -- What was checked and proved for the HELLO is so for the relay loop.
    refine guarded.finish held rfl nofun ⟨fun _ late => ?_, fun _ => ?_, fun _ => ?_⟩
    · rw [admission_self] at late
      exact absurd rfl late
    · rw [admission_self]
      exact vetted.checked (by simp [greeting])
    · rw [admission_self]
      exact vetted.proved (by simp [greeting])
  · exact refused
  · exact refused

/-- Every step keeps the front guarded. -/
theorem Front.Guarded.step (guarded : s.Guarded port) {a : FrontAction}
    (enabled : s.step leaked port a = some s') : s'.Guarded port := by
  cases front_moves enabled with
  | turnedAway absent _ => exact guarded.join absent rfl (by simp)
  | accepted absent some_ => exact guarded.join absent some_.symm (by simp)
  | @forbidden c r next upgrading refused =>
    refine guarded.finish (by rw [upgrading]; rfl) (by rw [refused]; rfl) (by simp [refused]) ?_
    exact (guarded.vetted c).early (by simp [upgrading]) (by rw [refused]; decide)
  | @upgraded c r upgrading good =>
    have vetted := guarded.vetted c
    refine guarded.goOn (by rw [upgrading]; rfl) (by dsimp only; split <;> rfl)
      ⟨fun browser _ => vetted.unheard browser (by simp [upgrading]), fun _ => ?_, fun later => ?_⟩
    · rw [admission_self]
      exact ⟨r, rfl, good, rfl⟩
    · -- Only a fixed origin goes on without a proof.
      rw [admission_self] at later ⊢
      left
      dsimp only at later ⊢
      by_contra other
      rw [if_neg other] at later
      simp at later
  | @moved a handshake inside stepped =>
    refine ⟨guarded.gate, guarded.known, fun d => ?_⟩
    obtain ⟨unheard, checked, proved⟩ := guarded.vetted d
    refine ⟨unheard, checked, fun later => ?_⟩
    -- A session that moves is not past its proof.
    have other : a.session ≠ some d := by
      intro moves
      rw [inside d moves] at later
      simp at later
    rw [handshake_other stepped other]
    exact proved later
  | @proved c key nc ns proving isProved =>
    have vetted := guarded.vetted c
    refine guarded.goOn (by rw [proving]; rfl) rfl
      ⟨fun browser _ => vetted.unheard browser (by simp [proving]), fun _ => ?_, fun _ => ?_⟩
    · rw [admission_self]
      exact vetted.checked (by simp [proving])
    · exact .inr ⟨key, nc, ns, isProved⟩
  | @gaveUp _ c _ held =>
    refine guarded.finish held rfl nofun ((guarded.vetted c).early (fun late => ?_) (by simp))
    rw [late] at held
    cases held
  | ran may stepped => exact guarded.ran may stepped
  | greeted greeting stepped => exact (guarded.hearing stepped).greeted greeting

/-- Every reachable front is guarded. -/
theorem FrontReachable.guarded (reached : FrontReachable leaked port host door s) :
    s.Guarded port := by
  refine reached.invariant .initial ?_
  intro state action next guarded enabled
  exact guarded.step enabled

/-- The permits and the connections being admitted are eight together, so the gate turns a
connection away exactly when eight others are being admitted, and no permit is ever lost. -/
theorem gate_exact (reached : FrontReachable leaked port host door s) :
    (∀ cs : List ConnId, cs.Nodup → (∀ c ∈ cs, (s.admissions c).stage.holds = true) →
      cs.length + s.permits ≤ ADMITTING) ∧
    ((∀ c, (s.admissions c).stage.holds = false) → s.permits = ADMITTING) ∧
    (∀ c s', s.step leaked port (.accept c) = some s' →
      ((s'.admissions c).stage = .turnedAway ↔ ∃ cs : List ConnId, cs.Nodup ∧
        cs.length = ADMITTING ∧ ∀ d ∈ cs, (s.admissions d).stage.holds = true)) := by
  have gate := reached.guarded.gate
  refine ⟨fun cs distinct hold => gate.holders_le distinct hold, gate.idle, ?_⟩
  intro c s' enabled
  have turned : (s'.admissions c).stage = .turnedAway ↔ s.permits = 0 := by
    cases front_moves enabled with
    | turnedAway _ none_ => simp [none_]
    | accepted _ some_ => simp [some_]
    | gaveUp which _ => simp at which
  rw [turned]
  constructor
  · exact gate.exhausted
  · intro ⟨cs, distinct, length, hold⟩
    have bounded := gate.holders_le distinct hold
    -- Eight are admitted already, which leaves no permit.
    show s.permits = 0
    have free : s.gate.free = s.permits := rfl
    omega

/-- Nine connections come at once, and the ninth is turned away. -/
theorem gate_exact_ninth : ∃ s : Front,
    FrontReachable (fun _ => false) 9998 "dgx" (fun c => 0 < c) s ∧
      (∃ cs : List ConnId, cs.Nodup ∧ cs.length = ADMITTING ∧
        ∀ d ∈ cs, (s.admissions d).stage.holds = true) := by
  have ran : ((Transition.run (Front.step (fun _ => false) 9998)
      (Front.initial "dgx" fun c => 0 < c) ((List.range' 1 8).map .accept)).bind fun s =>
        (s.step (fun _ => false) 9998 (.accept 9)).map fun s' =>
          ((s.admissions 9).stage, (s'.admissions 9).stage)) = some (.absent, .turnedAway) := by
    decide +kernel
  obtain ⟨s, reached, moved⟩ := Option.bind_eq_some_iff.mp ran
  obtain ⟨s', enabled, stages⟩ := Option.map_eq_some_iff.mp moved
  exact ⟨s, ⟨_, reached⟩, ((gate_exact ⟨_, reached⟩).2.2 9 s' enabled).mp (Prod.mk.inj stages).2⟩

/-- What an admitted connection has shown: a request for this address, and where its origin is not
one of the fixed ones, a proof that one client with the key has made for it. -/
structure Front.Admits (leaked : Key → Bool) (port : UInt16) (s : Front) (c : ConnId) : Prop where
  request : ∃ r, (s.admissions c).request = some r ∧
    (∃ h ∈ loopback port, r.host = some h) ∧
    ∃ o, r.origin = some o ∧ (o ∈ BLINK ∨ randomOrigin o = true ∧
      ∃ key nc ns, s.handshake.doors c = .proved key nc ns ∧
        (leaked key = false → ∃! e, s.handshake.clients e = .proven key nc ns))

/-- A request that passes the check names this address, and an origin of either kind. -/
theorem check_ok {origin host : Option String} (good : check origin host port = .ok ()) :
    (∃ h ∈ loopback port, host = some h) ∧
      ∃ o, origin = some o ∧ (o ∈ BLINK ∨ randomOrigin o = true) := by
  unfold check at good
  split at good
  · rename_i here
    obtain ⟨h, named, known⟩ := (Option.any_eq_true _ _).mp here
    refine ⟨⟨h, by simpa using known, named⟩, ?_⟩
    split at good
    · rename_i o
      refine ⟨o, rfl, ?_⟩
      split at good
      · rename_i either
        simpa using either
      · cases good
    · cases good
  · cases good

/-- The system behind a reachable front is reachable by itself. -/
theorem FrontReachable.system (reached : FrontReachable leaked port host door s) :
    SystemReachable host door s.system := by
  refine reached.invariant (P := fun s => SystemReachable host door s.system) ?_ ?_
  · exact Transition.Reachable.refl _
  intro state action next before enabled
  cases front_moves enabled with
  | ran _ stepped => exact before.next stepped
  | greeted _ stepped =>
    -- What becomes of the admission does not matter to the system.
    unfold Front.greeted
    split <;> exact before.next stepped
  | turnedAway | accepted | forbidden | upgraded | moved | proved | gaveUp => exact before

/-- The proofs of a reachable front are reachable by themselves. -/
theorem FrontReachable.handshake (reached : FrontReachable leaked port host door s) :
    Transition.Reachable (Handshake.step leaked) Handshake.initial s.handshake := by
  refine reached.invariant
    (P := fun s => Transition.Reachable (Handshake.step leaked) Handshake.initial s.handshake) ?_ ?_
  · exact Transition.Reachable.refl _
  intro state action next before enabled
  cases front_moves enabled with
  | moved _ stepped => exact before.next stepped
  | greeted _ _ =>
    unfold Front.greeted
    split <;> exact before
  | turnedAway | accepted | forbidden | upgraded | ran | proved | gaveUp => exact before

/-- A connection that was admitted has shown what it had to. -/
theorem FrontReachable.admits (reached : FrontReachable leaked port host door s) {c : ConnId}
    (admitted : (s.admissions c).stage = .admitted) : s.Admits leaked port c := by
  have vetted := reached.guarded.vetted c
  obtain ⟨r, requested, good, blink⟩ := vetted.checked (by simp [admitted])
  obtain ⟨named, o, origin, either⟩ := check_ok good
  refine ⟨r, requested, named, o, origin, ?_⟩
  by_cases fixed : o ∈ BLINK
  · exact .inl fixed
  · refine .inr ⟨either.resolve_left fixed, ?_⟩
    -- The origin was not a fixed one, so the proof was asked for.
    have notBlink : (s.admissions c).blink = false := by
      rw [blink, origin]
      simpa using fixed
    have proved := (vetted.proved (by simp [admitted])).resolve_left (by simp [notBlink])
    obtain ⟨key, nc, ns, session⟩ := proved
    refine ⟨key, nc, ns, session, fun secret => ?_⟩
    have agreeing := Handshake.Agreeing.reachable reached.handshake
    obtain ⟨e, proven⟩ := agreeing.proved c key nc ns session secret
    refine ⟨e, proven, fun f also => ?_⟩
    exact agreeing.clients.distinct f e nc (by simp [also, Client.nonce])
      (by simp [proven, Client.nonce])

/-- Nothing of a browser reaches the router, its registry or another node before the browser was
admitted: addressed to this door, of an extension's origin, and proven unless that is fixed. -/
theorem front_admits (reached : FrontReachable leaked port host door s) :
    (∀ c, door c = true → (s.system.router.conns c).phase ≠ .hello → s.Admits leaked port c) ∧
    (∀ id c, (id, c) ∈ s.system.router.claims → door c = true →
      kind id = "browser" ∧ s.Admits leaked port c) ∧
    (∀ b q c n, q ∈ s.system.router.queues b → q.origin = .relayed c n → door c = true →
      kind q.frame.from_ = "browser" ∧ s.Admits leaked port c) := by
  have system := reached.system
  have wf := system.router.wellFormed
  have heard : ∀ c, door c = true → (s.system.router.conns c).phase ≠ .hello →
      s.Admits leaked port c := by
    intro c browser moved
    apply reached.admits
    by_contra early
    exact moved ((reached.guarded.vetted c).unheard (by rw [system.router.takeOver, browser]; rfl)
      early).1
  have claimed : ∀ id c, (id, c) ∈ s.system.router.claims → door c = true →
      kind id = "browser" ∧ s.Admits leaked port c := by
    intro id c claim browser
    obtain ⟨same, entered⟩ := wf.claimed id c claim
    obtain ⟨proposed, stamped⟩ := wf.genuine id c claim
    refine ⟨?_, heard c browser fun waiting => ?_⟩
    · rcases (system.confined browser).browser with empty | plain
      · exact absurd (same.symm.trans empty) (stamp_ne_empty stamped)
      · exact same ▸ plain
    · -- Whoever has claimed an id has been heard.
      rw [waiting] at entered
      simp at entered
  refine ⟨heard, claimed, fun b q c n member relayed browser => ?_⟩
  obtain ⟨f, _, _, claim, built⟩ : Origin.Accounts s.system.router (.relayed c n) q.frame :=
    relayed ▸ (system.router.traced member).accounted
  rw [built]
  exact claimed _ c claim browser

/-- A browser of a random origin proves that it holds the key, and is registered. -/
theorem front_admits_paired : ∃ s : Front,
    FrontReachable (fun _ => false) 9998 "dgx" (fun c => c == 1) s ∧
      ("browser/dgx/b", 1) ∈ s.system.router.claims ∧ s.Admits (fun _ => false) 9998 1 := by
  let nc : Bytes := List.replicate 32 1
  let ns : Bytes := List.replicate 32 2
  let key : Key := Key.all 9
  have ran : (Transition.run (Front.step (fun _ => false) 9998)
      (Front.initial "dgx" fun c => c == 1)
      [.accept 1, .upgrade 1 ⟨some "moz-extension://6c3a", some "127.0.0.1:9998"⟩,
        .handshake (.prove 1 key), .handshake (.hail 7 key nc),
        .handshake (.toDoor 1 (.frame AUTH (plain nc))), .handshake (.challenge 1 ns),
        .handshake (.toClient 7 (.frame AUTH
          (plain ns ++ proof key ROUTER (plain nc) (plain ns)))),
        .handshake (.toDoor 1 (.frame AUTH (proof key CLIENT (plain nc) (plain ns)))),
        .conclude 1,
        .system (.browser 1 (.message (.binary
          (Frame.new HELLO "browser/b" "" (encodeHello ⟨1, "", [], []⟩)).encode))),
        .system (.browser 1 (.write 31)), .system (.take 1 31), .system (.router (.advance 1)),
        .system (.router (.advance 1))]).map
      (fun s => decide (("browser/dgx/b", 1) ∈ s.system.router.claims)) = some true := by
    decide +kernel
  obtain ⟨s, ran, claimed⟩ := Option.map_eq_some_iff.mp ran
  have claimed := of_decide_eq_true claimed
  exact ⟨s, ⟨_, ran⟩, claimed, ((front_admits ⟨_, ran⟩).2.1 _ 1 claimed rfl).2⟩

end Zapd
