import Zapd.Router.Progress

/-! WELCOME is the first frame on a channel, if nobody sends to a connection before it is queued. -/

namespace Zapd

open Utf8

/-- Phases of a connection that has not queued its WELCOME. -/
@[simp] def Phase.unwelcomed : Phase → Bool
  | .hello | .refusing .. | .stamped _ | .armed _ | .inserted _ | .welcoming => true
  | _ => false

/-- A connection that others can find in the registry, and that has not queued its WELCOME. -/
def Unwelcomed (s : Router) (b : ConnId) : Prop :=
  (s.conns b).phase.unwelcomed = true ∧ holder s.peers (s.conns b).id = some b

/--
Nobody sends to a connection between its insertion and its WELCOME.

A broadcast spares only the id it is about; every other frame goes to one id.
-/
def Patient (s : Router) : Action → Prop
  | .advance c => ∀ b, Unwelcomed s b →
    match (s.conns c).phase with
    | .arriving | .departing _ => (s.conns c).id = (s.conns b).id
    | .forwarding f => f.to_ ≠ (s.conns b).id
    | .unrouted _ | .listed .. | .unknown => (s.conns c).id ≠ (s.conns b).id
    | _ => True
  | _ => True

/-- The WELCOME of a connection, addressed to its stamped id. -/
def Conn.welcome (conn : Conn) (b : ConnId) : Queued :=
  ⟨Frame.new WELCOME "zapd" conn.id [], .welcome b⟩

/-- What holds of a connection's channel in every patient run. -/
structure WelcomedFirst (s : Router) (b : ConnId) : Prop where
  before : (s.conns b).phase.unwelcomed = true → s.queues b = []
  first : ∀ q rest, s.queues b = q :: rest →
    q = (s.conns b).welcome b ∧ ∀ later ∈ rest, ∀ c, later.origin ≠ .welcome c
  /-- A connection past its WELCOME whose writer still takes frames was sent it. -/
  arrived : (s.conns b).phase.unwelcomed = false → (s.conns b).phase.spawned = true →
    (s.conns b).writer = true → s.queues b ≠ []

/-- Nothing is queued to anyone at first. -/
theorem welcomedFirst_initial (host : String) (door : ConnId → Bool) (b : ConnId) :
    WelcomedFirst (Router.initial host door) b where
  before _ := rfl
  first q rest queue := by cases queue
  arrived welcomed := by cases welcomed

/-- A connection that is welcomed stays so. -/
theorem Acts.stays_welcomed {s t : Router} {a : Action} {conn : Conn} (acts : Acts s a t conn)
    (welcomed : (s.conns a.conn).phase.unwelcomed = false) : conn.phase.unwelcomed = false := by
  cases acts with
  -- What is read leads to phases behind the WELCOME only.
  | received next relaying =>
    unfold receive dispatch
    repeat' split
    all_goals rfl
  | forwarded f forwarding =>
    dsimp only
    split <;> rfl
  | broke spawned => exact welcomed
  | _ => simp_all

/-- The writer runs on past WELCOME only after the step that queues it. -/
theorem Acts.welcomes {s t : Router} {a : Action} {conn : Conn} (acts : Acts s a t conn)
    (unwelcomed : (s.conns a.conn).phase.unwelcomed = true)
    (welcomed : conn.phase.unwelcomed = false) (spawned : conn.phase.spawned = true) :
    a = .advance a.conn ∧ (s.conns a.conn).phase = .welcoming := by
  cases acts with
  | @greeted c first waiting =>
    -- The first frame is answered before any WELCOME.
    rcases greet_phase s.host (s.conns c) first with
      ⟨desc, proposed, phased, _⟩ | ⟨reply, e, phased⟩ | ⟨result, phased⟩ <;>
      simp [phased] at welcomed spawned
  | welcomed welcoming => exact ⟨rfl, welcoming⟩
  | replied q owed =>
    -- Nobody owes a reply before WELCOME.
    unfold Conn.reply at owed
    split at owed <;> simp_all
  | _ => simp_all [refusal]

/-- Only a registered connection, or one that queues its own WELCOME, is sent anything. -/
theorem WellFormed.holding_of_emitted {s : Router} {a : Action} {b : ConnId} {q : Queued}
    (wf : WellFormed s) (member : q ∈ emitted s a b) :
    (s.conns b).writer = true ∧ (s.conns b).phase.holding = true := by
  obtain ⟨alive, emits⟩ := emits_of_mem member
  refine ⟨alive, ?_⟩
  cases emits with
  | welcomed welcoming => simp [welcoming]
  | announced connected phased held other => exact (wf.holder_id held).2
  | forwarded forwarding held => exact (wf.holder_id held).2
  | replied owed held => exact (wf.holder_id held).2

/-- A patient step sends nothing to a connection before its WELCOME. -/
theorem WellFormed.patient {s : Router} {a : Action} {b : ConnId} (wf : WellFormed s)
    (patient : Patient s a) (unwelcomed : (s.conns b).phase.unwelcomed = true)
    (notOwn : ¬ (a = .advance b ∧ (s.conns b).phase = .welcoming)) : emitted s a b = [] := by
  rw [List.eq_nil_iff_forall_not_mem]
  intro q member
  obtain ⟨_, emits⟩ := emits_of_mem member
  -- Whoever is sent to is found under its own id.
  have found : ∀ {id : String}, holder s.peers id = some b →
      (s.conns b).id = id ∧ Unwelcomed s b := by
    intro id held
    obtain ⟨rfl, _⟩ := wf.holder_id held
    exact ⟨rfl, unwelcomed, held⟩
  cases emits with
  | welcomed welcoming => exact notOwn ⟨rfl, welcoming⟩
  | @announced c pid connected phased held other =>
    obtain ⟨rfl, isUnwelcomed⟩ := found held
    have spared := patient b isUnwelcomed
    -- An announcement spares nobody but its subject.
    cases phase : (s.conns c).phase <;> simp [phase] at phased spared
    all_goals exact other spared.symm
  | @forwarded c f forwarding held =>
    obtain ⟨named, isUnwelcomed⟩ := found held
    have elsewhere := patient b isUnwelcomed
    simp only [forwarding] at elsewhere
    exact elsewhere named.symm
  | @replied c q owed held =>
    obtain ⟨named, isUnwelcomed⟩ := found held
    have elsewhere := patient b isUnwelcomed
    unfold Conn.reply at owed
    split at owed
    case h_4 => cases owed
    all_goals
      rename_i phase
      simp only [phase] at elsewhere
      exact elsewhere named.symm

/-- A connection that is past its WELCOME is not sent another one. -/
theorem emitted_not_welcome {s : Router} {a : Action} {b c : ConnId} {q : Queued}
    (welcomed : (s.conns b).phase.unwelcomed = false) (member : q ∈ emitted s a b) :
    q.origin ≠ .welcome c := by
  obtain ⟨_, emits⟩ := emits_of_mem member
  cases emits with
  | welcomed welcoming => simp [welcoming] at welcomed
  | announced => simp
  | forwarded => simp [Conn.stamped]
  | replied owed held =>
    -- A reply is an answer or a list.
    unfold Conn.reply at owed
    split at owed <;> cases owed <;> simp

/-- A connection that takes a step past its WELCOME still runs. -/
theorem Acts.running {s t : Router} {a : Action} {conn : Conn} (acts : Acts s a t conn)
    (welcomed : (s.conns a.conn).phase.unwelcomed = false) :
    (s.conns a.conn).phase.spawned = true := by
  cases acts with
  | replied q owed =>
    unfold Conn.reply at owed
    split at owed <;> simp_all
  | broke spawned => exact spawned
  | _ => simp_all

/-- A connection past its WELCOME keeps what its WELCOME said, and only a running one goes on. -/
theorem WellFormed.welcomed_step {s s' : Router} {a : Action} (wf : WellFormed s)
    (enabled : s.step a = some s') {b : ConnId} (welcomed : (s.conns b).phase.unwelcomed = false) :
    (s'.conns b).phase.unwelcomed = false ∧ (s'.conns b).welcome b = (s.conns b).welcome b ∧
      ((s'.conns b).phase.spawned = true → (s.conns b).phase.spawned = true) := by
  rcases step_conns enabled b with ⟨rfl, t, acts⟩ | kept
  · have running := acts.running welcomed
    -- Its id was settled when it entered the registry.
    have named := wf.step_id enabled (wf.registered _ (Phase.entered_of_spawned running))
    exact ⟨acts.stays_welcomed welcomed, by rw [Conn.welcome, named, Conn.welcome],
      fun _ => running⟩
  · rw [kept]
    exact ⟨welcomed, rfl, fun running => running⟩

/-- The step by which a connection queues its WELCOME puts it first on the channel. -/
theorem WelcomedFirst.own {s s' : Router} {b : ConnId} (first : WelcomedFirst s b)
    (enabled : s.step (.advance b) = some s') (welcoming : (s.conns b).phase = .welcoming) :
    WelcomedFirst s' b := by
  have queue := step_queues enabled b
  rw [first.before (by simp [welcoming]), List.nil_append] at queue
  have emits : emitted s (.advance b) b =
      if (s.conns b).writer = true then [(s.conns b).welcome b] else [] := by
    simp [emitted, welcoming, Conn.welcome]
  obtain ⟨t, acts⟩ := step_advanced enabled
  generalize moved : s'.conns b = conn at acts
  -- Of the steps, only the WELCOME starts in this phase.
  have next : conn = { s.conns b with phase := .arriving } := by
    cases acts with
    | welcomed _ => rfl
    | replied q owed => simp [Conn.reply, welcoming] at owed
    | _ => simp_all
  rw [emits] at queue
  refine ⟨fun unwelcomed => ?_, fun q rest same => ?_, fun _ _ alive => ?_⟩
  · simp [moved, next] at unwelcomed
  · rw [queue] at same
    split at same
    · cases same
      rw [moved, next]
      exact ⟨rfl, by simp⟩
    · cases same
  · rw [moved, next] at alive
    simp [queue, show (s.conns b).writer = true from alive]

/-- A patient step keeps WELCOME first. -/
theorem WelcomedFirst.step {s s' : Router} {a : Action} {b : ConnId} (first : WelcomedFirst s b)
    (wf : WellFormed s) (patient : Patient s a) (enabled : s.step a = some s') :
    WelcomedFirst s' b := by
  by_cases own : a = .advance b ∧ (s.conns b).phase = .welcoming
  · obtain ⟨rfl, welcoming⟩ := own
    exact first.own enabled welcoming
  have queue := step_queues enabled b
  cases unwelcomed : (s.conns b).phase.unwelcomed with
  | true =>
    -- Nothing was queued, and a patient step queues nothing.
    rw [first.before unwelcomed, wf.patient patient unwelcomed own, List.append_nil] at queue
    refine ⟨fun _ => queue, fun q rest same => ?_, fun welcomed spawned _ => ?_⟩
    · rw [queue] at same
      cases same
    · -- The writer cannot have got past WELCOME without the step that queues it.
      exfalso
      rcases step_conns enabled b with ⟨rfl, t, acts⟩ | kept
      · exact own (acts.welcomes unwelcomed welcomed spawned)
      · rw [kept, unwelcomed] at welcomed
        cases welcomed
  | false =>
    obtain ⟨welcomed, same, running⟩ := wf.welcomed_step enabled unwelcomed
    refine ⟨fun before => ?_, fun q rest grown => ?_, fun _ spawned alive => ?_⟩
    · rw [welcomed] at before
      cases before
    · rw [same]
      rw [queue] at grown
      cases before : s.queues b with
      | nil =>
        -- What is sent to a registered connection comes after its WELCOME.
        rw [before, List.nil_append] at grown
        obtain ⟨alive, holding⟩ := wf.holding_of_emitted (grown ▸ List.mem_cons_self)
        have spawned : (s.conns b).phase.spawned = true := by
          cases phase : (s.conns b).phase <;> simp [phase] at unwelcomed holding ⊢
        exact absurd before (first.arrived unwelcomed spawned alive)
      | cons head tail =>
        rw [before] at grown
        obtain ⟨rfl, rfl⟩ := List.cons.inj grown
        obtain ⟨isWelcome, later⟩ := first.first _ _ before
        refine ⟨isWelcome, fun q member c => ?_⟩
        rcases List.mem_append.mp member with old | new
        · exact later q old c
        · exact emitted_not_welcome unwelcomed new
    · -- What was queued stays.
      have before := first.arrived unwelcomed (running spawned) (step_writer enabled b alive)
      simp [queue, before]

/--
In every patient run WELCOME is the first frame on each channel and is queued there once.

A connection that is past its WELCOME was sent it, unless its writer had stopped.
-/
theorem welcome_first {host : String} {door : ConnId → Bool} {s : Router}
    (reached : Transition.GuardedReachable Patient Router.step (Router.initial host door) s)
    (b : ConnId) :
    (∀ q rest, s.queues b = q :: rest →
      q = ⟨Frame.new WELCOME "zapd" (s.conns b).id [], .welcome b⟩ ∧
        ∀ later ∈ rest, ∀ c, later.origin ≠ .welcome c) ∧
    ((s.conns b).phase.unwelcomed = false → (s.conns b).phase.spawned = true →
      (s.conns b).writer = true → s.queues b ≠ []) := by
  have holds : WelcomedFirst s b := by
    apply reached.induction (welcomedFirst_initial host door b)
    intro s a s' reach patient first enabled
    exact first.step (RouterReachable.wellFormed reach) patient enabled
  exact ⟨holds.first, holds.arrived⟩

/-- While everyone who ever registered is welcomed, any step is patient. -/
theorem WellFormed.patient_of_claims {s : Router} {c : ConnId} (wf : WellFormed s)
    (welcomed : ∀ p ∈ s.claims, (s.conns p.2).phase.unwelcomed = false) :
    Patient s (.advance c) := by
  intro b unwelcomed
  -- Whoever is in the registry has claimed its id.
  have before := unwelcomed.1
  rw [welcomed _ (wf.holder_claimed unwelcomed.2)] at before
  cases before

/-- Two nodes join one after the other, and each is welcomed first. -/
theorem welcome_first_joined : ∃ s, RouterReachable "dgx" (fun _ => false) s ∧
    s.queues 1 = [⟨Frame.new WELCOME "zapd" "agent/dgx/x" [], .welcome 1⟩] ∧ s.queues 0 ≠ [] := by
  have patient : Transition.Guarded Patient Router.step (Router.initial "dgx" fun _ => false)
      (joins 0 "agent/o" ++ joins 1 "agent/x") := by
    -- Only the announcements are asked anything, and everyone registered is welcomed by then.
    refine ⟨trivial, fun _ _ => trivial, fun _ _ => trivial, fun _ _ => trivial,
      fun _ _ => trivial, ?_, ?_⟩
    · have reached : RouterReachable "dgx" (fun _ => false) _ := ⟨(joins 0 "agent/o").take 5, rfl⟩
      exact (RouterReachable.wellFormed reached).patient_of_claims (by decide)
    refine ⟨trivial, fun _ _ => trivial, fun _ _ => trivial, fun _ _ => trivial,
      fun _ _ => trivial, ?_, trivial⟩
    have reached : RouterReachable "dgx" (fun _ => false) _ :=
      ⟨joins 0 "agent/o" ++ (joins 1 "agent/x").take 5, rfl⟩
    exact (RouterReachable.wellFormed reached).patient_of_claims (by decide)
  have reached : RouterReachable "dgx" (fun _ => false) _ :=
    ⟨joins 0 "agent/o" ++ joins 1 "agent/x", rfl⟩
  exact ⟨_, reached, rfl, (@welcome_first _ _ _ ⟨_, patient, rfl⟩ 0).2 rfl rfl rfl⟩

/-- A node that announces itself between another's insertion and its WELCOME is told of first. -/
theorem welcome_overtaken : ∃ s, RouterReachable "dgx" (fun _ => false) s ∧
    s.queues 1 =
      [⟨Frame.new PEER_CONNECTED "zapd" "agent/dgx/x" (encodePeer "agent/dgx/o"),
        .presence 0 "agent/dgx/o" true⟩,
      ⟨Frame.new WELCOME "zapd" "agent/dgx/x" [], .welcome 1⟩] := by
  have reached : RouterReachable "dgx" (fun _ => false) _ :=
    ⟨(joins 0 "agent/o").take 5 ++ (joins 1 "agent/x").take 3 ++ [.advance 0] ++
      [.advance 1, .advance 1], rfl⟩
  exact ⟨_, reached, rfl⟩

end Zapd
