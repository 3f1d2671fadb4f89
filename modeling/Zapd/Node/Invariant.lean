import Zapd.Node.Steps

/-! The invariant of a node: one ask has the turn, and the slot is for an ask without an answer. -/

namespace Zapd

/-- Phases in which an ask has the turn. -/
def AskPhase.holds : AskPhase → Bool
  | .turned | .opened | .stored | .unsent | .awaiting => true
  | .idle | .queued | .returned _ | .dropped => false

/-- Phases before an ask puts its sender into the slot. -/
def AskPhase.early : AskPhase → Bool
  | .idle | .queued | .turned | .opened => true
  | .stored | .unsent | .awaiting | .returned _ | .dropped => false

/-- Phases in which the slot can hold an ask's sender. -/
def AskPhase.waits : AskPhase → Bool
  | .stored | .unsent | .awaiting | .dropped => true
  | .idle | .queued | .turned | .opened | .returned _ => false

variable {τ : Type} {n n' : Node τ}

/-- What every step of a node preserves. -/
structure Node.Coherent (n : Node τ) : Prop where
  turn : ∀ k, (n.asks k).phase.holds = true → n.turn = some k
  fresh : ∀ k, (n.asks k).phase.early = true → (n.asks k).reply = .empty
  slot : ∀ who k, n.waiting = some (who, k) → who = (n.asks k).request.answerer ∧
    (n.asks k).phase.waits = true ∧ (n.asks k).reply = .empty
  /-- Between setting the slot and sending, an ask shares it with no other. -/
  own : ∀ k, (n.asks k).phase = .stored → ∀ who j, n.waiting = some (who, j) → j = k
  /-- An ask returns what its reply was sent, or that the router changed. -/
  settled : ∀ k result, (n.asks k).phase = .returned result →
    result = .error routerChanged ∨ ∃ origin, (n.asks k).reply = .sent result origin

/-- A node that has just joined is coherent. -/
theorem Node.Coherent.join (id : String) : (Node.join id : Node τ).Coherent where
  turn k holds := by cases holds
  fresh k _ := rfl
  slot who k taken := by cases taken
  own k stored := by cases stored
  settled k result returned := by cases returned

/-- Only the asks, the slot and the turn matter. -/
theorem Node.Coherent.congr (coherent : n.Coherent) (asks : n'.asks = n.asks)
    (waiting : n'.waiting = n.waiting) (turn : n'.turn = n.turn) : n'.Coherent := by
  -- Each clause speaks of these three fields at most.
  constructor
  · rw [asks, turn]
    exact coherent.turn
  · rw [asks]
    exact coherent.fresh
  · rw [asks, waiting]
    exact coherent.slot
  · rw [asks, waiting]
    exact coherent.own
  · rw [asks]
    exact coherent.settled

/-- Emptying the slot keeps a node coherent. -/
theorem Node.Coherent.vacate (coherent : n.Coherent) (reply : Reply τ) :
    (n.vacate reply).Coherent := by
  refine ⟨fun k holds => ?_, fun k early => ?_, fun who k taken => ?_, fun k _ who j taken => ?_,
    fun k result returned => ?_⟩
  -- The phases and the turn are as they were.
  · rw [vacate_phase] at holds
    rw [vacate_turn]
    exact coherent.turn k holds
  · rw [vacate_phase] at early
    rcases vacate_asks reply k with same | ⟨⟨who, taken⟩, _⟩
    · rw [same]
      exact coherent.fresh k early
    · -- The ask in the slot is past its early phases.
      have waits := (coherent.slot who k taken).2.1
      cases phase : (n.asks k).phase <;> simp [phase, AskPhase.early, AskPhase.waits] at early waits
  · -- Nobody is in an empty slot.
    simp at taken
  · simp at taken
  · rw [vacate_phase] at returned
    rcases vacate_asks reply k with same | ⟨⟨who, taken⟩, _⟩
    · rw [same]
      exact coherent.settled k result returned
    · -- The ask in the slot has not returned.
      have waits := (coherent.slot who k taken).2.1
      simp [returned, AskPhase.waits] at waits

/-- An ask that goes on to a phase of its own keeps a node coherent. -/
theorem Node.Coherent.moves (coherent : n.Coherent) (k : AskId) (phase : AskPhase)
    (session : Option SessionId) (turn : Option AskId) (outbox : List Sent)
    (holds : phase.holds = true → turn = some k)
    (others : turn = n.turn ∨ ∀ j, j ≠ k → (n.asks j).phase.holds = false)
    (early : phase.early = true → (n.asks k).phase.early = true)
    (waits : ∀ who, n.waiting = some (who, k) → phase.waits = true)
    (notStored : phase ≠ .stored)
    (settled : ∀ result, phase = .returned result →
      result = .error routerChanged ∨ ∃ origin, (n.asks k).reply = .sent result origin) :
    ({ n.setAsk k { n.asks k with phase, session } with turn, outbox } : Node τ).Coherent := by
  -- The ask itself is what the hypotheses are about; of the others nothing has changed.
  refine ⟨?_, ?_, fun who => ?_, ?_, ?_⟩
  · refine forall_setAsk (P := fun j ask => ask.phase.holds = true → turn = some j) holds ?_
    intro j other isHolding
    rcases others with same | none_
    · exact same.trans (coherent.turn j isHolding)
    · rw [none_ j other] at isHolding
      cases isHolding
  -- An ask has no reply as long as it has not stored its sender.
  · refine forall_setAsk (P := fun _ ask => ask.phase.early = true → ask.reply = .empty) ?_ ?_
    · intro isEarly
      exact coherent.fresh k (early isEarly)
    · intro j _
      exact coherent.fresh j
  · refine forall_setAsk (P := fun j ask => n.waiting = some (who, j) →
      who = ask.request.answerer ∧ ask.phase.waits = true ∧ ask.reply = .empty) ?_ ?_
    · intro taken
      obtain ⟨named, _, empty⟩ := coherent.slot who k taken
      exact ⟨named, waits who taken, empty⟩
    · intro j _
      exact coherent.slot who j
  -- It is not between storing and sending, so the slot need not be its own.
  · refine forall_setAsk (P := fun j ask => ask.phase = .stored →
      ∀ who i, n.waiting = some (who, i) → i = j) ?_ ?_
    · intro isStored
      exact absurd isStored notStored
    · intro j _
      exact coherent.own j
  · refine forall_setAsk (P := fun _ ask => ∀ result, ask.phase = .returned result →
      result = .error routerChanged ∨ ∃ origin, ask.reply = .sent result origin) settled ?_
    intro j _
    exact coherent.settled j

/-- Nobody but the ask that has the turn is in a phase that needs it. -/
theorem Node.Coherent.alone (coherent : n.Coherent) {k : AskId}
    (holds : (n.asks k).phase.holds = true) (j : AskId) (other : j ≠ k) :
    (n.asks j).phase.holds = false := by
  rw [Bool.eq_false_iff]
  intro alsoHolds
  -- Two would both have the turn.
  have same := (coherent.turn k holds).symm.trans (coherent.turn j alsoHolds)
  cases same
  exact other rfl

/-- An ask that puts its sender into the slot keeps a node coherent. -/
theorem Node.Coherent.store (coherent : n.Coherent) {k : AskId}
    (opened : (n.asks k).phase = .opened) :
    ({ (n.vacate .closed).goOn k .stored with
      waiting := some ((n.asks k).request.answerer, k) } : Node τ).Coherent := by
  have vacated := coherent.vacate .closed
  -- The ask that stores has no reply yet.
  have empty : ((n.vacate .closed).asks k).reply = .empty :=
    vacated.fresh k (by rw [vacate_phase, opened]; rfl)
  have alone := coherent.alone (k := k) (by rw [opened]; rfl)
  have self : (((n.vacate .closed).goOn k .stored).asks k).phase = .stored := by rw [goOn_self]
  refine ⟨fun j isHolding => ?_, fun j isEarly => ?_, fun who j taken => ?_,
    fun j isStored who i taken => ?_, fun j result returned => ?_⟩
  -- The turn is with the ask that stores.
  · by_cases same : j = k
    · subst same
      rw [goOn_turn, vacate_turn]
      exact coherent.turn j (by rw [opened]; rfl)
    · simp only [goOn_ne _ same, vacate_phase] at isHolding
      rw [alone j same] at isHolding
      cases isHolding
  · by_cases same : j = k
    · subst same
      simp [self, AskPhase.early] at isEarly
    · simp only [goOn_ne _ same] at isEarly ⊢
      exact vacated.fresh j isEarly
  · -- The slot is for this ask now, which waits for its own answerer.
    cases taken
    simp only [goOn_self, vacate_request, empty, true_and, and_true]
    rfl
  · -- The ask that stores has the turn, so no other is between storing and sending.
    by_cases same : j = k
    · cases taken
      exact same.symm
    · simp only [goOn_ne _ same, vacate_phase] at isStored
      have notHolding := alone j same
      rw [isStored] at notHolding
      cases notHolding
  · by_cases same : j = k
    · subst same
      simp [self] at returned
    · simp only [goOn_ne _ same] at returned ⊢
      exact vacated.settled j result returned

/-- An ask that begins keeps a node coherent. -/
theorem Node.Coherent.begins (coherent : n.Coherent) {k : AskId} (request : Request)
    (idle : (n.asks k).phase = .idle) : (n.setAsk k { request, phase := .queued }).Coherent := by
  -- The new ask waits for its turn, without a reply.
  refine ⟨?_, ?_, fun who => ?_, ?_, ?_⟩
  · refine forall_setAsk (P := fun j ask => ask.phase.holds = true → n.turn = some j) nofun ?_
    intro j _
    exact coherent.turn j
  · refine forall_setAsk (P := fun _ ask => ask.phase.early = true → ask.reply = .empty) ?_ ?_
    · intro _
      rfl
    · intro j _
      exact coherent.fresh j
  · refine forall_setAsk (P := fun j ask => n.waiting = some (who, j) →
      who = ask.request.answerer ∧ ask.phase.waits = true ∧ ask.reply = .empty) ?_ ?_
    · -- An ask that is idle is not in the slot.
      intro taken
      have waits := (coherent.slot who k taken).2.1
      simp [idle, AskPhase.waits] at waits
    · intro j _
      exact coherent.slot who j
  · refine forall_setAsk (P := fun j ask => ask.phase = .stored →
      ∀ who i, n.waiting = some (who, i) → i = j) nofun ?_
    intro j _
    exact coherent.own j
  · refine forall_setAsk (P := fun _ ask => ∀ result, ask.phase = .returned result →
      result = .error routerChanged ∨ ∃ origin, ask.reply = .sent result origin) nofun ?_
    intro j _
    exact coherent.settled j

/-- A frame that a session reads keeps a node coherent. -/
theorem Node.Coherent.dispatch {f : Frame} {origin : Option τ} (coherent : n.Coherent)
    (dispatched : Dispatched n f origin n') : n'.Coherent := by
  cases dispatched with
  | welcome _ => exact coherent.congr rfl rfl rfl
  | settled _ _ => exact coherent.vacate _
  | ignored => exact coherent

/-- The slot is not for an ask that cannot be waiting. -/
theorem Node.Coherent.absent (coherent : n.Coherent) {k : AskId} {who : String} {P : Prop}
    (phase : (n.asks k).phase.waits = false) (taken : n.waiting = some (who, k)) : P := by
  -- Whoever is in the slot waits.
  have waits := (coherent.slot who k taken).2.1
  rw [phase] at waits
  cases waits

/-- The slot is not for an ask whose reply has been decided. -/
theorem Node.Coherent.decided (coherent : n.Coherent) {k : AskId} {who : String} {P : Prop}
    (reply : (n.asks k).reply ≠ .empty) (taken : n.waiting = some (who, k)) : P :=
  absurd (coherent.slot who k taken).2.2 reply

/-- Every step keeps a node coherent. -/
theorem Node.Coherent.step (coherent : n.Coherent) {a : NodeAction τ}
    (enabled : n.step a = some n') : n'.Coherent := by
  cases node_moves enabled with
  | asked idle => exact coherent.begins _ idle
  | @turned k queued free =>
    -- While the turn is free, nobody is in a phase that needs it.
    have nobody : ∀ j, j ≠ k → (n.asks j).phase.holds = false := by
      intro j _
      rw [Bool.eq_false_iff]
      intro holds
      have taken := coherent.turn j holds
      rw [free] at taken
      cases taken
    exact coherent.moves k .turned _ (some k) n.outbox (fun _ => rfl) (.inr nobody)
      (fun _ => by rw [queued]; rfl) (fun _ taken => coherent.absent (by rw [queued]; rfl) taken)
      (by simp) (by simp)
  -- The turn stays with the ask from one of its phases to the next.
  | @saw k turned isUp =>
    have holds : n.turn = some k := coherent.turn k (by rw [turned]; rfl)
    exact coherent.moves k .opened _ n.turn n.outbox (fun _ => holds) (.inl rfl)
      (fun _ => by rw [turned]; rfl) (fun _ taken => coherent.absent (by rw [turned]; rfl) taken)
      (by simp) (by simp)
  | stored opened => exact coherent.store opened
  | @sent k session stored _ _ =>
    have holds : n.turn = some k := coherent.turn k (by rw [stored]; rfl)
    exact coherent.moves k .awaiting (some session) n.turn _ (fun _ => holds) (.inl rfl) nofun
      (fun _ _ => rfl) (by simp) (by simp)
  | @missed k stored =>
    have holds : n.turn = some k := coherent.turn k (by rw [stored]; rfl)
    exact coherent.moves k .unsent _ n.turn n.outbox (fun _ => holds) (.inl rfl) nofun
      (fun _ _ => rfl) (by simp) (by simp)
  | @cleared k unsent =>
    -- The ask returns, whatever was in the slot.
    have vacated := coherent.vacate .closed
    have alone : ∀ j, j ≠ k → ((n.vacate .closed).asks j).phase.holds = false := by
      intro j other
      rw [vacate_phase]
      exact coherent.alone (by rw [unsent]; rfl) j other
    exact vacated.moves k (.returned (.error routerChanged)) _ none (n.vacate .closed).outbox nofun
      (.inr alone) nofun (fun _ taken => by simp at taken) (by simp) (by simp)
  | @finished k result origin awaiting answered =>
    have alone := coherent.alone (k := k) (by rw [awaiting]; rfl)
    refine coherent.moves k (.returned result) _ none n.outbox nofun (.inr alone) nofun
      (fun _ taken => coherent.decided (by simp [answered]) taken) (by simp) ?_
    -- It returns what its reply was sent.
    rintro _ ⟨⟩
    exact .inr ⟨origin, answered⟩
  -- A sender that was dropped leaves nobody in the slot for this ask.
  | @orphaned k awaiting closed =>
    have alone := coherent.alone (k := k) (by rw [awaiting]; rfl)
    exact coherent.moves k (.returned (.error routerChanged)) _ none n.outbox nofun (.inr alone)
      nofun (fun _ taken => coherent.decided (by simp [closed]) taken) (by simp) (by simp)
  -- An ask that is dropped gives up what it has, and its sender may stay in the slot.
  | @left k queued =>
    exact coherent.moves k .dropped _ n.turn n.outbox nofun (.inl rfl) nofun (fun _ _ => rfl)
      (by simp) (by simp)
  | @dropped k phase =>
    have alone := coherent.alone (k := k) (by rcases phase with same | same <;> rw [same] <;> rfl)
    exact coherent.moves k .dropped _ none n.outbox nofun (.inr alone) nofun (fun _ _ => rfl)
      (by simp) (by simp)
  | received _ dispatched => exact coherent.dispatch dispatched
  | failed _ => exact (coherent.vacate _).congr rfl rfl rfl
  -- What is left concerns the connection alone.
  | _ => exact coherent.congr rfl rfl rfl

end Zapd
