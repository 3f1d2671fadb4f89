import Mathlib.Data.List.Basic

/-! Runs of labelled transition systems, and the rules that carry facts along them. -/

namespace Transition

variable {σ α : Type*}

/-- The state after taking the listed actions in order, when every one of them is enabled. -/
def run (step : σ → α → Option σ) : σ → List α → Option σ
  | state, [] => some state
  | state, action :: rest => (step state action).bind fun next => run step next rest

/-- Every action of a run meets the guard in the state it is taken from. -/
def Guarded (guard : σ → α → Prop) (step : σ → α → Option σ) : σ → List α → Prop
  | _, [] => True
  | state, action :: rest => guard state action ∧
    -- A disabled action ends the run, so nothing is asked of what follows it.
    match step state action with
    | none => True
    | some next => Guarded guard step next rest

instance Guarded.decidable {guard : σ → α → Prop} [∀ state action, Decidable (guard state action)]
    {step : σ → α → Option σ} :
    ∀ (state : σ) (actions : List α), Decidable (Guarded guard step state actions)
  | _, [] => .isTrue trivial
  | state, action :: rest =>
    -- The guard is asked of every state the run passes through, so the run is taken along.
    match enabled : step state action with
    | none => decidable_of_iff (guard state action) (by simp [Guarded, enabled])
    | some next =>
      have later : Decidable (Guarded guard step next rest) := Guarded.decidable next rest
      decidable_of_iff (guard state action ∧ Guarded guard step next rest)
        (by simp [Guarded, enabled])

/-- A state some run reaches. -/
def Reachable (step : σ → α → Option σ) (initial state : σ) : Prop :=
  ∃ actions, run step initial actions = some state

/-- A state reached by a run whose every step meets the guard. -/
def GuardedReachable (guard : σ → α → Prop) (step : σ → α → Option σ) (initial state : σ) : Prop :=
  ∃ actions, Guarded guard step initial actions ∧ run step initial actions = some state

variable {step : σ → α → Option σ} {guard : σ → α → Prop}

@[simp] theorem run_nil (state : σ) : run step state [] = some state := rfl

/-- A nonempty run is one enabled step followed by a run of the remaining actions. -/
theorem run_cons_eq_some {state final : σ} {action : α} {rest : List α} :
    run step state (action :: rest) = some final ↔
      ∃ next, step state action = some next ∧ run step next rest = some final := by
  simp only [run, Option.bind_eq_some_iff]

/-- One enabled step is a run. -/
theorem run_single {state next : σ} {action : α} (enabled : step state action = some next) :
    run step state [action] = some next :=
  run_cons_eq_some.mpr ⟨next, enabled, rfl⟩

/-- Two runs in sequence are one run of the concatenated actions. -/
theorem run_append {state : σ} {first second : List α} :
    run step state (first ++ second) = (run step state first).bind (run step · second) := by
  -- The first list of actions is consumed one step at a time.
  induction first generalizing state with
  | nil => rfl
  | cons action rest ih =>
    cases enabled : step state action with
    | none => simp [run, enabled]
    | some next => simpa [run, enabled] using ih

/-- A property kept by every step that meets the guard is kept by every guarded run. -/
theorem run_invariant_guarded {P : σ → Prop}
    (preserved : ∀ state action next, guard state action → P state →
      step state action = some next → P next)
    {state final : σ} {actions : List α} (holds : P state)
    (met : Guarded guard step state actions)
    (ran : run step state actions = some final) : P final := by
  -- The guard of the first step is at hand, and the remaining run is guarded from its result.
  induction actions generalizing state with
  | nil => simp_all
  | cons action rest ih =>
    obtain ⟨next, enabled, tail⟩ := run_cons_eq_some.mp ran
    simp only [Guarded, enabled] at met
    exact ih (preserved state action next met.1 holds enabled) met.2 tail

/-- A reflexive and transitive relation between the two ends of every step relates every run. -/
theorem run_relation {R : σ → σ → Prop} (refl : ∀ state, R state state)
    (trans : ∀ a b c, R a b → R b c → R a c)
    (stepwise : ∀ state action next, step state action = some next → R state next)
    {state final : σ} {actions : List α} (ran : run step state actions = some final) :
    R state final := by
  -- The relation is composed along the run from its first step.
  induction actions generalizing state with
  | nil => simp_all
  | cons action rest ih =>
    obtain ⟨next, enabled, tail⟩ := run_cons_eq_some.mp ran
    exact trans _ _ _ (stepwise _ _ _ enabled) (ih tail)

/-- A property kept by every step is kept by every run. -/
theorem run_invariant {P : σ → Prop}
    (preserved : ∀ state action next, P state → step state action = some next → P next)
    {state final : σ} {actions : List α} (holds : P state)
    (ran : run step state actions = some final) : P final := by
  -- To keep the property is a relation between the ends of every step.
  have kept : P state → P final := by
    refine run_relation (R := fun a b => P a → P b) (fun _ here => here) ?_ ?_ ran
    · intro a b c first second here
      exact second (first here)
    · intro state action next enabled here
      exact preserved state action next here enabled
  exact kept holds

/-- The initial state is reached by taking no action. -/
theorem Reachable.refl (initial : σ) : Reachable step initial initial := ⟨[], rfl⟩

/-- A run from a reachable state ends in a reachable state. -/
theorem Reachable.run {initial state final : σ} {actions : List α}
    (reached : Reachable step initial state)
    (ran : Transition.run step state actions = some final) : Reachable step initial final := by
  obtain ⟨before, arrived⟩ := reached
  -- The run that reached the first state comes first.
  exact ⟨before ++ actions, by simp [run_append, arrived, ran]⟩

/-- A step from a reachable state ends in a reachable state. -/
theorem Reachable.next {initial state next : σ} {action : α}
    (reached : Reachable step initial state) (enabled : step state action = some next) :
    Reachable step initial next :=
  reached.run (run_single enabled)

/-- An invariant of the steps that holds initially holds in every reachable state. -/
theorem Reachable.invariant {P : σ → Prop} {initial state : σ}
    (reached : Reachable step initial state) (holds : P initial)
    (preserved : ∀ state action next, P state → step state action = some next → P next) :
    P state := by
  obtain ⟨actions, ran⟩ := reached
  exact run_invariant preserved holds ran

/-- An inductive argument may use that the states it passes through are reachable. -/
theorem Reachable.induction {P : σ → Prop} {initial state : σ}
    (reached : Reachable step initial state) (holds : P initial)
    (preserved : ∀ state action next, Reachable step initial state → P state →
      step state action = some next → P next) :
    P state := by
  -- Reachability is carried along as part of the invariant.
  refine (Reachable.invariant (P := fun s => Reachable step initial s ∧ P s) reached
    ⟨Reachable.refl initial, holds⟩ ?_).2
  rintro s action next ⟨reach, inv⟩ enabled
  exact ⟨reach.next enabled, preserved s action next reach inv enabled⟩

/-- A guarded run is a guarded first step and a guarded rest. -/
theorem guarded_cons {state next : σ} {action : α} {rest : List α}
    (enabled : step state action = some next) :
    Guarded guard step state (action :: rest) ↔
      guard state action ∧ Guarded guard step next rest := by
  simp only [Guarded, enabled]

/-- A guarded run reaches a reachable state. -/
theorem GuardedReachable.reachable {initial state : σ}
    (reached : GuardedReachable guard step initial state) : Reachable step initial state := by
  obtain ⟨actions, _, ran⟩ := reached
  exact ⟨actions, ran⟩

/-- An invariant of guarded steps holds in every state a guarded run reaches. -/
theorem GuardedReachable.induction {P : σ → Prop} {initial state : σ}
    (reached : GuardedReachable guard step initial state) (holds : P initial)
    (preserved : ∀ state action next, Reachable step initial state → guard state action →
      P state → step state action = some next → P next) :
    P state := by
  -- As for unguarded runs, the invariant is strengthened by reachability.
  obtain ⟨actions, met, ran⟩ := reached
  refine (run_invariant_guarded (P := fun s => Reachable step initial s ∧ P s)
    ?_ ⟨Reachable.refl initial, holds⟩ met ran).2
  rintro s action next meets ⟨reach, inv⟩ enabled
  exact ⟨reach.next enabled, preserved s action next reach meets inv enabled⟩

/-- Some run of actions of one kind leads to a state with the property. -/
def Leads (kind : α → Prop) (step : σ → α → Option σ) (state : σ) (P : σ → Prop) : Prop :=
  ∃ actions final, (∀ action ∈ actions, kind action) ∧ run step state actions = some final ∧ P final

variable {kind : α → Prop} {state next : σ} {P Q : σ → Prop}

/-- Nothing needs to be done where the property holds. -/
theorem Leads.now (holds : P state) : Leads kind step state P :=
  ⟨[], state, nofun, rfl, holds⟩

/-- One enabled action comes before all that the next state leads by. -/
theorem Leads.cons {action : α} (allowed : kind action) (enabled : step state action = some next)
    (later : Leads kind step next P) : Leads kind step state P := by
  obtain ⟨actions, final, kinds, ran, holds⟩ := later
  refine ⟨action :: actions, final, ?_, run_cons_eq_some.mpr ⟨next, enabled, ran⟩, holds⟩
  exact List.forall_mem_cons.mpr ⟨allowed, kinds⟩

/-- What a state leads to may be weakened, where the run that leads there is known. -/
theorem Leads.imp (leads : Leads kind step state P)
    (weaker : ∀ actions final, (∀ action ∈ actions, kind action) →
      run step state actions = some final → P final → Q final) :
    Leads kind step state Q := by
  obtain ⟨actions, final, kinds, ran, holds⟩ := leads
  exact ⟨actions, final, kinds, ran, weaker actions final kinds ran holds⟩

/-- What leads to a state from which more is reached leads there too. -/
theorem Leads.trans (leads : Leads kind step state P)
    (later : ∀ middle, P middle → Leads kind step middle Q) : Leads kind step state Q := by
  obtain ⟨actions, middle, kinds, ran, holds⟩ := leads
  obtain ⟨more, final, others, tail, reached⟩ := later middle holds
  refine ⟨actions ++ more, final, ?_, by rw [run_append, ran]; exact tail, reached⟩
  intro action member
  rcases List.mem_append.mp member with first | second
  · exact kinds action first
  · exact others action second

/-- Where more kinds of actions may be taken, as much is reached. -/
theorem Leads.kinds {wider : α → Prop} (leads : Leads kind step state P)
    (allows : ∀ action, kind action → wider action) : Leads wider step state P := by
  obtain ⟨actions, final, narrow, ran, holds⟩ := leads
  exact ⟨actions, final, fun action member => allows action (narrow action member), ran, holds⟩

/-- What is reached unless an action of the kind gets nearer to it is reached. -/
theorem Leads.descends (inv : σ → Prop) (left : σ → Nat)
    (goes : ∀ state, inv state → P state ∨ ∃ action next, kind action ∧
      step state action = some next ∧ inv next ∧ left next < left state)
    (holds : inv state) : Leads kind step state P := by
  -- The induction is on how much is left to do.
  induction bound : left state using Nat.strongRecOn generalizing state with
  | ind bound ih =>
    subst bound
    rcases goes state holds with there | ⟨action, next, allowed, enabled, kept, nearer⟩
    · exact Leads.now there
    · exact Leads.cons allowed enabled (ih _ nearer kept rfl)

/-- The run of a part is a run of the whole whose other parts stay as they are. -/
theorem run_lift {τ β : Type*} {whole : τ → β → Option τ} (act : α → β) (embed : σ → τ)
    {actions : List α}
    (lifts : ∀ state, ∀ action ∈ actions,
      whole (embed state) (act action) = (step state action).map embed) (state : σ) :
    run whole (embed state) (actions.map act) = (run step state actions).map embed := by
  induction actions generalizing state with
  | nil => rfl
  | cons action rest ih =>
    have later := ih fun state action member => lifts state action (List.mem_cons_of_mem _ member)
    rw [List.map_cons, run, lifts state action List.mem_cons_self]
    -- The whole takes the step exactly if the part does.
    cases enabled : step state action with
    | none => simp [run, enabled]
    | some next => simpa [run, enabled] using later next

/-- A property kept by every step of one kind is kept by every run of such steps. -/
theorem run_invariant_kind {final : σ} {actions : List α}
    (preserved : ∀ state action next, kind action → P state → step state action = some next →
      P next)
    (holds : P state) (kinds : ∀ action ∈ actions, kind action)
    (ran : run step state actions = some final) : P final := by
  -- The kind of each action is found along the run from its first step.
  induction actions generalizing state with
  | nil => simp_all
  | cons action rest ih =>
    obtain ⟨next, enabled, tail⟩ := run_cons_eq_some.mp ran
    obtain ⟨first, later⟩ := List.forall_mem_cons.mp kinds
    exact ih (preserved state action next first holds enabled) later tail

/-- A guarded run from a state that a guarded run reached is one guarded run. -/
theorem GuardedReachable.run {initial final : σ} {actions : List α}
    (reached : GuardedReachable guard step initial state)
    (met : ∀ state, ∀ action ∈ actions, guard state action)
    (ran : Transition.run step state actions = some final) :
    GuardedReachable guard step initial final := by
  obtain ⟨before, guarded, arrived⟩ := reached
  refine ⟨before ++ actions, ?_, by simp [run_append, arrived, ran]⟩
  -- The guard is met along the first run, and then by every action whatever the state.
  have always : ∀ state, Guarded guard step state actions := by
    clear ran arrived
    induction actions with
    | nil => exact fun _ => trivial
    | cons action rest ih =>
      intro state
      refine ⟨met state action List.mem_cons_self, ?_⟩
      cases step state action with
      | none => trivial
      | some next => exact ih (fun s a member => met s a (List.mem_cons_of_mem _ member)) next
  clear ran
  induction before generalizing initial with
  | nil => exact always initial
  | cons action rest ih =>
    obtain ⟨next, enabled, tail⟩ := run_cons_eq_some.mp arrived
    obtain ⟨first, later⟩ := (guarded_cons enabled).mp guarded
    exact (guarded_cons enabled).mpr ⟨first, ih later tail⟩

/-- What is reached under a guard is reached under a weaker one. -/
theorem GuardedReachable.mono {guard' : σ → α → Prop} {initial : σ}
    (reached : GuardedReachable guard step initial state)
    (weaker : ∀ state action, guard state action → guard' state action) :
    GuardedReachable guard' step initial state := by
  obtain ⟨actions, guarded, ran⟩ := reached
  refine ⟨actions, ?_, ran⟩
  clear ran
  induction actions generalizing initial with
  | nil => trivial
  | cons action rest ih =>
    obtain ⟨met, later⟩ := guarded
    refine ⟨weaker _ _ met, ?_⟩
    cases enabled : step initial action with
    | none => trivial
    | some next =>
      rw [enabled] at later
      exact ih later

end Transition
