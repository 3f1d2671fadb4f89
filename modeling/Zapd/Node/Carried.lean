import Zapd.Node.Invariant

/-! A call on its way is always in the slot, and its session has yet to fail it. -/

namespace Zapd

open Transition

/-- Phases of the connection task in which its session's writer can be the one that takes frames. -/
def Link.serves : Link → Bool
  | .reading | .naming | .raising | .ended => true
  | .dialing | .lowering | .failing => false

/-- Phases of an ask that has neither returned nor been dropped. -/
def AskPhase.live : AskPhase → Bool
  | .idle | .queued | .turned | .opened | .stored | .unsent | .awaiting => true
  | .returned _ | .dropped => false

/-- The ask whose step it is, unless it is a step of the connection. -/
def NodeAction.asker {τ : Type} : NodeAction τ → Option AskId
  | .ask k _ | .turn k | .see k | .store k | .send k | .clear k | .finish k | .drop k => some k
  | .dial | .receive .. | .proceed | .hangUp | .writerFails => none

variable {τ : Type} {n n' : Node τ}

/-- What every step of a node preserves about the frames its sessions carry. -/
structure Node.Carried (n : Node τ) : Prop where
  /-- Only the current session takes frames, before its cleanup takes `tx`. -/
  writer : ∀ session, n.tx = some session → session = n.session ∧ n.link.serves = true
  stored : ∀ k, (n.asks k).phase = .stored → (n.asks k).reply = .empty →
    n.waiting = some ((n.asks k).request.answerer, k)
  queued : ∀ k, (n.asks k).phase = .awaiting → ∃ session, (n.asks k).session = some session
  /-- The slot is for the ask that waits, and its session has not finished its cleanup. -/
  carried : ∀ k, (n.asks k).phase = .awaiting → (n.asks k).reply = .empty →
    n.waiting = some ((n.asks k).request.answerer, k) ∧
      (n.asks k).session = some n.session ∧ n.link ≠ .dialing

/-- A node that has just joined carries nothing. -/
theorem Node.Carried.join (id : String) : (Node.join id : Node τ).Carried where
  writer session taken := by cases taken
  stored k stored := by cases stored
  queued k awaiting := by cases awaiting
  carried k awaiting := by cases awaiting

/-- Emptying the slot decides the reply of the ask in it. -/
theorem vacate_self {who : String} {k : AskId} (reply : Reply τ)
    (taken : n.waiting = some (who, k)) : ((n.vacate reply).asks k).reply = reply := by
  simp [Node.vacate, taken]

/-- Emptying the slot changes neither the sessions nor the connection. -/
theorem vacate_session (reply : Reply τ) : (n.vacate reply).tx = n.tx ∧
    (n.vacate reply).link = n.link ∧ (n.vacate reply).session = n.session ∧
    ∀ k, ((n.vacate reply).asks k).session = (n.asks k).session := by
  refine ⟨?_, ?_, ?_, fun k => ?_⟩
  · unfold Node.vacate
    split <;> rfl
  · unfold Node.vacate
    split <;> rfl
  · unfold Node.vacate
    split <;> rfl
  · -- An ask gets a reply at most.
    rcases vacate_asks reply k with same | ⟨_, same⟩ <;> rw [same]

/-- With a reply for whoever is in the slot, no ask that relies on the slot is left without one. -/
theorem Node.Carried.none_left (carried : n.Carried) {reply : Reply τ} (decided : reply ≠ .empty)
    {k : AskId} (phase : (n.asks k).phase = .stored ∨ (n.asks k).phase = .awaiting) :
    ((n.vacate reply).asks k).reply ≠ .empty := by
  intro empty
  rcases vacate_asks reply k with same | ⟨_, same⟩
  · -- Without a reply before, the ask was in the slot, so it got this one.
    rw [same] at empty
    have taken : ∃ who, n.waiting = some (who, k) := by
      rcases phase with stored | awaiting
      · exact ⟨_, carried.stored k stored empty⟩
      · exact ⟨_, (carried.carried k awaiting empty).1⟩
    obtain ⟨who, taken⟩ := taken
    have replied := vacate_self reply taken
    rw [same, empty] at replied
    exact decided replied.symm
  · rw [same] at empty
    exact decided empty

/-- Emptying the slot with a reply strands no call. -/
theorem Node.Carried.vacate (carried : n.Carried) {reply : Reply τ} (decided : reply ≠ .empty) :
    (n.vacate reply).Carried := by
  -- The connection is as it was, and so is where every ask stands.
  obtain ⟨tx, link, current, sessions⟩ := vacate_session (n := n) reply
  refine ⟨fun session taken => ?_, fun k stored empty => ?_, fun k awaiting => ?_,
    fun k awaiting empty => ?_⟩
  · rw [tx] at taken
    rw [link, current]
    exact carried.writer session taken
  · -- Whoever relied on the slot has the reply now.
    rw [vacate_phase] at stored
    exact absurd empty (carried.none_left decided (.inl stored))
  · rw [vacate_phase] at awaiting
    rw [sessions]
    exact carried.queued k awaiting
  · rw [vacate_phase] at awaiting
    exact absurd empty (carried.none_left decided (.inr awaiting))

/-- An ask that is neither about to send nor awaiting an answer relies on nothing. -/
theorem Node.Carried.moves (carried : n.Carried) (k : AskId) (a : Ask τ) (turn : Option AskId)
    (notStored : a.phase ≠ .stored) (notAwaiting : a.phase ≠ .awaiting) :
    ({ n.setAsk k a with turn } : Node τ).Carried := by
  -- The other asks, the slot and the connection are as they were.
  refine ⟨carried.writer, ?_, ?_, ?_⟩
  -- Each clause asks of the ask that moves only what it is not in.
  · refine forall_setAsk (P := fun j ask => ask.phase = .stored → ask.reply = .empty →
      n.waiting = some (ask.request.answerer, j)) ?_ ?_
    · intro stored
      exact absurd stored notStored
    · intro j _
      exact carried.stored j
  · refine forall_setAsk (P := fun _ ask => ask.phase = .awaiting →
      ∃ session, ask.session = some session) ?_ ?_
    · intro awaiting
      exact absurd awaiting notAwaiting
    · intro j _
      exact carried.queued j
  · refine forall_setAsk (P := fun j ask => ask.phase = .awaiting → ask.reply = .empty →
      n.waiting = some (ask.request.answerer, j) ∧ ask.session = some n.session ∧
        n.link ≠ .dialing) ?_ ?_
    · intro awaiting
      exact absurd awaiting notAwaiting
    · intro j _
      exact carried.carried j

/-- The connection can go on while calls are carried, as long as their session stays. -/
theorem Node.Carried.connection (carried : n.Carried) (asks : n'.asks = n.asks)
    (waiting : n'.waiting = n.waiting) (session : n'.session = n.session)
    (link : n.link ≠ .dialing → n'.link ≠ .dialing)
    (writer : ∀ s, n'.tx = some s → s = n.session ∧ n'.link.serves = true) : n'.Carried where
  -- Who is in the slot, and for which session, has not changed.
  writer s taken := by
    rw [session]
    exact writer s taken
  stored := by
    rw [asks, waiting]
    exact carried.stored
  queued := by
    rw [asks]
    exact carried.queued
  carried k awaiting empty := by
    rw [asks] at awaiting empty ⊢
    obtain ⟨taken, current, busy⟩ := carried.carried k awaiting empty
    -- The same session still has the call in its slot.
    rw [waiting, session]
    exact ⟨taken, current, link busy⟩

/-- An ask that stores its sender overwrites nobody who waits. -/
theorem Node.Carried.store (carried : n.Carried) (coherent : n.Coherent) {k : AskId}
    (opened : (n.asks k).phase = .opened) :
    ({ (n.vacate .closed).goOn k .stored with
      waiting := some ((n.asks k).request.answerer, k) } : Node τ).Carried := by
  have vacated : (n.vacate .closed).Carried := carried.vacate (by simp)
  have alone := coherent.alone (k := k) (by rw [opened]; rfl)
  -- Whoever else relied on the slot would hold the turn that this ask has.
  have others : ∀ j, j ≠ k → (n.asks j).phase ≠ .stored ∧ (n.asks j).phase ≠ .awaiting := by
    intro j other
    have idle := alone j other
    exact ⟨fun stored => by simp [stored, AskPhase.holds] at idle,
      fun awaiting => by simp [awaiting, AskPhase.holds] at idle⟩
  refine ⟨fun session taken => vacated.writer session taken, fun j stored empty => ?_,
    fun j awaiting => ?_, fun j awaiting empty => ?_⟩
  all_goals by_cases self : j = k
  · -- The slot is this ask's now.
    subst self
    simp
  · simp only [goOn_ne _ self, vacate_phase] at stored
    exact absurd stored (others j self).1
  · subst self
    simp [goOn_self] at awaiting
  · simp only [goOn_ne _ self, vacate_phase] at awaiting
    exact absurd awaiting (others j self).2
  · subst self
    simp [goOn_self] at awaiting
  · simp only [goOn_ne _ self, vacate_phase] at awaiting
    exact absurd awaiting (others j self).2

/-- An ask whose frame is queued is in the slot, for the session that took the frame. -/
theorem Node.Carried.send (carried : n.Carried) {k : AskId} {session : SessionId}
    {outbox : List Sent} (stored : (n.asks k).phase = .stored) (taken : n.tx = some session) :
    ({ n.setAsk k { n.asks k with phase := .awaiting, session := some session } with
      outbox } : Node τ).Carried := by
  obtain ⟨rfl, serves⟩ := carried.writer session taken
  refine ⟨carried.writer, ?_, ?_, ?_⟩
  · refine forall_setAsk (P := fun j ask => ask.phase = .stored → ask.reply = .empty →
      n.waiting = some (ask.request.answerer, j)) nofun ?_
    intro j _
    exact carried.stored j
  -- The ask remembers the session that took its frame.
  · refine forall_setAsk (P := fun _ ask => ask.phase = .awaiting →
      ∃ session, ask.session = some session) ?_ ?_
    · intro _
      exact ⟨_, rfl⟩
    · intro j _
      exact carried.queued j
  · refine forall_setAsk (P := fun j ask => ask.phase = .awaiting → ask.reply = .empty →
      n.waiting = some (ask.request.answerer, j) ∧ ask.session = some n.session ∧
        n.link ≠ .dialing) ?_ ?_
    · -- The slot was set before the send, and the session whose writer took the frame is current.
      intro _ empty
      refine ⟨carried.stored k stored empty, rfl, fun dialing => ?_⟩
      rw [dialing] at serves
      cases serves
    · intro j _
      exact carried.carried j

/-- Between sessions no call waits, so a new one strands nobody. -/
theorem Node.Carried.dial (carried : n.Carried) (dialing : n.link = .dialing) :
    ({ n with link := .reading, session := n.session + 1, writer := true } : Node τ).Carried where
  writer session taken := by
    -- The cleanup has taken `tx`.
    have serves := (carried.writer session taken).2
    rw [dialing] at serves
    cases serves
  stored := carried.stored
  queued := carried.queued
  carried k awaiting empty := absurd dialing (carried.carried k awaiting empty).2.2

/-- Every step keeps each call that is carried in the slot. -/
theorem Node.Carried.step (carried : n.Carried) (coherent : n.Coherent) {a : NodeAction τ}
    (enabled : n.step a = some n') : n'.Carried := by
  cases node_moves enabled with
  -- None of these comes to the two phases that rely on the slot.
  | asked _ => exact carried.moves _ _ n.turn (by simp) (by simp)
  | turned _ _ => exact carried.moves _ _ _ (by simp) (by simp)
  | saw _ _ => exact carried.moves _ _ n.turn (by simp) (by simp)
  | stored opened => exact carried.store coherent opened
  | sent stored taken _ => exact carried.send stored taken
  | missed _ => exact carried.moves _ _ n.turn (by simp) (by simp)
  -- A clear empties the slot first, with a reply for whoever is in it.
  | cleared _ => exact (carried.vacate (by simp)).moves _ _ _ (by simp) (by simp)
  | finished _ _ => exact carried.moves _ _ _ (by simp) (by simp)
  | orphaned _ _ => exact carried.moves _ _ _ (by simp) (by simp)
  | left _ => exact carried.moves _ _ n.turn (by simp) (by simp)
  | dropped _ => exact carried.moves _ _ _ (by simp) (by simp)
  | dialed dialing => exact carried.dial dialing
  | received _ dispatched =>
    cases dispatched with
    | welcome _ =>
      -- A welcome moves the connection on, and no call.
      exact carried.connection rfl rfl rfl nofun fun s taken => ⟨(carried.writer s taken).1, rfl⟩
    -- The answer is the reply of the ask in the slot.
    | settled _ _ => exact carried.vacate (by simp)
    | ignored => exact carried
  | named _ =>
    refine carried.connection rfl rfl rfl nofun ?_
    -- The session that was welcomed is the current one.
    rintro s ⟨⟩
    exact ⟨rfl, rfl⟩
  -- The session stays the current one until it is cleaned up after.
  | raised _ =>
    exact carried.connection rfl rfl rfl nofun fun s taken => ⟨(carried.writer s taken).1, rfl⟩
  -- With the channel gone nobody sends, and the call is still in the slot.
  | taken _ => exact carried.connection rfl rfl rfl nofun nofun
  | lowered lowering =>
    refine carried.connection rfl rfl rfl nofun fun s taken => ?_
    -- Before `up` was cleared, `tx` had been taken.
    have serves := (carried.writer s taken).2
    rw [lowering] at serves
    cases serves
  | failed failing =>
    have vacated : (n.vacate (.sent (.error routerChanged) none)).Carried :=
      carried.vacate (by simp)
    refine ⟨fun s taken => ?_, vacated.stored, vacated.queued, fun k awaiting empty => ?_⟩
    · obtain ⟨_, link, _⟩ := vacate_session (n := n) (.sent (.error routerChanged) none)
      have serves := (vacated.writer s taken).2
      rw [link, failing] at serves
      cases serves
    · -- Whoever was in the slot has failed, so nobody relies on this session any more.
      simp only [vacate_phase] at awaiting
      exact absurd empty (carried.none_left (by simp) (.inr awaiting))
  | hungUp _ =>
    exact carried.connection rfl rfl rfl nofun fun s taken => ⟨(carried.writer s taken).1, rfl⟩
  -- A writer task that fails leaves the session as it is.
  | writerFailed => exact carried.connection rfl rfl rfl (fun busy => busy) carried.writer

/-- Every reachable node carries its calls. -/
theorem Node.Carried.reachable {id : String} (reached : Reachable Node.step (Node.join id) n) :
    n.Carried ∧ n.Coherent := by
  refine reached.invariant (P := fun n => n.Carried ∧ n.Coherent)
    ⟨Node.Carried.join id, Node.Coherent.join id⟩ ?_
  intro state a next holds enabled
  obtain ⟨carried, coherent⟩ := holds
  exact ⟨carried.step coherent enabled, coherent.step enabled⟩

/-- A live ask in the slot has the turn, so no other ask is where it could touch the slot. -/
theorem Node.Coherent.kept (coherent : n.Coherent) {a : NodeAction τ} {j k : AskId} {who : String}
    (asker : a.asker = some k) (other : j ≠ k) (taken : n.waiting = some (who, j))
    (live : (n.asks j).phase.live = true) (enabled : n.step a = some n') :
    n'.waiting = n.waiting := by
  -- A live ask that waits has the turn.
  have waits := (coherent.slot who j taken).2.1
  have holds : (n.asks j).phase.holds = true := by
    cases phase : (n.asks j).phase <;>
      simp [phase, AskPhase.waits, AskPhase.live, AskPhase.holds] at waits live ⊢
  have alone := coherent.alone holds k other.symm
  cases node_moves enabled with
  | stored opened =>
    -- To store or to clear, another ask would need the turn.
    cases asker
    simp [opened, AskPhase.holds] at alone
  | cleared unsent =>
    cases asker
    simp [unsent, AskPhase.holds] at alone
  | received _ _ => cases asker
  | failed _ => cases asker
  -- No other step touches the slot.
  | _ => rfl

/-- The three cleanup steps of a session that is over fail the call it carried. -/
theorem Node.Carried.cleanup (carried : n.Carried) (ended : n.link = .ended) :
    ∃ n', run Node.step n [.proceed, .proceed, .proceed] = some n' ∧ n'.link = .dialing ∧
      ∀ k, (n.asks k).phase = .awaiting → (n.asks k).reply = .empty →
        (n'.asks k).reply = .sent (.error routerChanged) none := by
  -- The first two steps take the channel and `up`, and the third one empties the slot.
  let lowered : Node τ := { n with tx := none, up := false, link := .failing }
  refine ⟨{ lowered.vacate (.sent (.error routerChanged) none) with link := .dialing }, ?_, rfl,
    fun k awaiting empty => ?_⟩
  · simp [run, Node.step, ended, lowered]
  · -- The call is in the slot until the last of the steps takes it.
    obtain ⟨taken, _⟩ := carried.carried k awaiting empty
    exact vacate_self (n := lowered) (.sent (.error routerChanged) none) taken

/--
No call is stranded: until it is settled it is in the slot, and its session is the current one.

The end of a session fails the call it carried, and no ask touches the slot of another live one.
-/
theorem no_call_stranded {id : String} (reached : Reachable Node.step (Node.join id) n) :
    (∀ k, (n.asks k).phase = .awaiting → ∃ session, (n.asks k).session = some session ∧
      ((n.asks k).reply = .empty →
        n.waiting = some ((n.asks k).request.answerer, k) ∧
          session = n.session ∧ n.link ≠ .dialing)) ∧
    (n.link = .ended →
      ∃ n', run Node.step n [.proceed, .proceed, .proceed] = some n' ∧ n'.link = .dialing ∧
        ∀ k, (n.asks k).phase = .awaiting → (n.asks k).reply = .empty →
          (n'.asks k).reply = .sent (.error routerChanged) none) ∧
    (∀ (a : NodeAction τ) (j k : AskId) (who : String) (n' : Node τ), a.asker = some k → j ≠ k →
      n.waiting = some (who, j) → (n.asks j).phase.live = true → n.step a = some n' →
        n'.waiting = n.waiting) := by
  obtain ⟨carried, coherent⟩ := Node.Carried.reachable reached
  refine ⟨fun k awaiting => ?_, carried.cleanup, ?_⟩
  · obtain ⟨session, queued⟩ := carried.queued k awaiting
    refine ⟨session, queued, fun empty => ?_⟩
    obtain ⟨taken, current, busy⟩ := carried.carried k awaiting empty
    -- The session that took the frame is the one that is current.
    rw [queued] at current
    exact ⟨taken, Option.some.inj current, busy⟩
  -- Whoever is live in the slot has the turn, and keeps it.
  · intro a j k who n' asker other taken live enabled
    exact coherent.kept asker other taken live enabled

/-- A call whose frame is queued on the first session is in the slot. -/
theorem no_call_stranded_first :
    ∃ n : Node Unit, (n.asks 0).phase = .awaiting ∧ n.session = 1 ∧
      n.waiting = some ("agent/h/a", 0) := by
  have ran : (run Node.step (Node.join "cli/me" : Node Unit)
      [.ask 0 (.call "agent/h/a" []), .turn 0, .dial,
        .receive (Frame.new WELCOME "zapd" "cli/h/me" []) none, .proceed, .proceed,
        .see 0, .store 0, .send 0]).map
        (fun n => ((n.asks 0).phase, (n.asks 0).reply, (n.asks 0).request, n.session)) =
      some (.awaiting, .empty, .call "agent/h/a" [], 1) := by
    decide +kernel
  obtain ⟨n, reached, facts⟩ := Option.map_eq_some_iff.mp ran
  simp only [Prod.mk.injEq] at facts
  obtain ⟨phase, empty, request, current⟩ := facts
  obtain ⟨session, _, settled⟩ := (no_call_stranded ⟨_, reached⟩).1 0 phase
  -- Nothing has settled the call yet.
  obtain ⟨taken, _⟩ := settled empty
  rw [request] at taken
  exact ⟨n, phase, current, taken⟩

end Zapd
