import Zapd.Node.Model

/-! What each step of a node can do, and the rules of the slot and of leading texts. -/

namespace Zapd

open Utf8

variable {τ : Type} {n n' : Node τ} {k j : AskId}

section

variable (a : Ask τ) (phase : AskPhase) (reply : Reply τ)

@[simp] theorem setAsk_self : (n.setAsk k a).asks k = a := Function.update_self ..

@[simp] theorem setAsk_ne (other : j ≠ k) : (n.setAsk k a).asks j = n.asks j :=
  Function.update_of_ne other ..

@[simp] theorem setAsk_waiting : (n.setAsk k a).waiting = n.waiting := rfl
@[simp] theorem setAsk_outbox : (n.setAsk k a).outbox = n.outbox := rfl

@[simp] theorem goOn_waiting : (n.goOn k phase).waiting = n.waiting := rfl
@[simp] theorem goOn_turn : (n.goOn k phase).turn = n.turn := rfl
@[simp] theorem goOn_outbox : (n.goOn k phase).outbox = n.outbox := rfl

/-- Going on changes an ask's phase only. -/
theorem goOn_self : (n.goOn k phase).asks k = { n.asks k with phase } := Function.update_self ..

@[simp] theorem goOn_ne (other : j ≠ k) : (n.goOn k phase).asks j = n.asks j :=
  Function.update_of_ne other ..

@[simp] theorem vacate_waiting : (n.vacate reply).waiting = none := by
  unfold Node.vacate
  split
  · assumption
  · rfl

@[simp] theorem vacate_turn : (n.vacate reply).turn = n.turn := by
  unfold Node.vacate
  split <;> rfl

@[simp] theorem vacate_outbox : (n.vacate reply).outbox = n.outbox := by
  unfold Node.vacate
  split <;> rfl

/-- Emptying the slot changes the reply of the ask in it, and nothing else of any ask. -/
theorem vacate_asks (j : AskId) : (n.vacate reply).asks j = n.asks j ∨
    ((∃ who, n.waiting = some (who, j)) ∧
      (n.vacate reply).asks j = { n.asks j with reply }) := by
  unfold Node.vacate
  split
  · exact .inl rfl
  · rename_i who k taken
    -- Only the ask in the slot gets the reply.
    by_cases self : j = k
    · subst self
      exact .inr ⟨⟨who, taken⟩, Function.update_self ..⟩
    · exact .inl (Function.update_of_ne self ..)

/-- Emptying the slot changes no ask's phase. -/
@[simp] theorem vacate_phase (j : AskId) :
    ((n.vacate reply).asks j).phase = (n.asks j).phase := by
  rcases vacate_asks reply j with same | ⟨_, same⟩ <;> rw [same]

/-- Emptying the slot changes no ask's request. -/
@[simp] theorem vacate_request (j : AskId) :
    ((n.vacate reply).asks j).request = (n.asks j).request := by
  rcases vacate_asks reply j with same | ⟨_, same⟩ <;> rw [same]

end

/-- What holds of the changed ask, and of the others as they were, holds of every ask. -/
theorem forall_setAsk {a : Ask τ} {P : AskId → Ask τ → Prop} (own : P k a)
    (others : ∀ j, j ≠ k → P j (n.asks j)) (j : AskId) : P j ((n.setAsk k a).asks j) := by
  -- Only one ask has changed.
  by_cases self : j = k
  · rw [self, setAsk_self]
    exact own
  · rw [setAsk_ne _ self]
    exact others j self

/-- An answer empties the slot if the slot is for its sender, and is discarded otherwise. -/
theorem settle_spec (n : Node τ) (from_ : String) (answer : Except Error Frame)
    (origin : Option τ) :
    (∃ k, n.waiting = some (from_, k) ∧
      settle n from_ answer origin = n.vacate (.sent answer origin)) ∨
    settle n from_ answer origin = n := by
  unfold settle
  -- An empty slot leaves nobody to answer.
  split
  · exact .inr rfl
  · rename_i who k taken
    split
    · -- The slot is for the sender, so its ask is answered.
      rename_i same
      subst same
      exact .inl ⟨k, taken, rfl⟩
    · exact .inr rfl

/-- Stripping a leading text is undoing an append. -/
theorem stripPrefix_eq_some {text lead rest : String} :
    stripPrefix text lead = some rest ↔ text = lead ++ rest := by
  unfold stripPrefix
  constructor
  · intro stripped
    obtain ⟨⟨more, whole⟩, same⟩ := Option.ite_none_right_eq_some.mp stripped
    cases same
    -- What is left of the characters follows the leading ones.
    apply String.toList_inj.mp
    rw [String.toList_append, String.toList_ofList, ← whole, List.drop_left]
  · intro whole
    subst whole
    rw [String.toList_append, if_pos (List.prefix_append _ _), List.drop_left,
      String.ofList_toList]

/-- A frame that can settle an ask of this answerer, and what it settles it with. -/
inductive Settles (f : Frame) : String → Except Error Frame → Prop
  | providers : f.typ = PROVIDERS → Settles f "zapd" (.ok f)
  | response : f.typ = RESPONSE → Settles f f.from_ (.ok f)
  | noRoute {dest : String} : f.typ = ERROR → noRoute f.payload = some dest →
      Settles f dest (.error ⟨.notFound, fromUtf8Lossy f.payload⟩)

/-- What can come of a frame that a session reads. -/
inductive Dispatched (n : Node τ) (f : Frame) (origin : Option τ) : Node τ → Prop
  | welcome : f.typ = WELCOME → Dispatched n f origin { n with id := f.to_, link := .naming }
  | settled {who : String} {k : AskId} {result : Except Error Frame} : Settles f who result →
      n.waiting = some (who, k) → Dispatched n f origin (n.vacate (.sent result origin))
  | ignored : Dispatched n f origin n

/-- A frame that can settle something is handed to the outstanding call or discarded. -/
theorem settle_dispatched {f : Frame} {from_ : String} {answer : Except Error Frame}
    (settles : Settles f from_ answer) (n : Node τ) (origin : Option τ) :
    Dispatched n f origin (settle n from_ answer origin) := by
  -- Either the slot is for its sender, or nothing comes of it.
  rcases settle_spec n from_ answer origin with ⟨k, taken, same⟩ | same
  · rw [same]
    exact .settled settles taken
  · rw [same]
    exact .ignored

/-- Every frame a session reads is dispatched in one of these ways. -/
theorem receive_dispatched (n : Node τ) (f : Frame) (origin : Option τ) :
    Dispatched n f origin (n.receive f origin) := by
  unfold Node.receive
  split
  · -- The types are told apart in the order of the source.
    exact .welcome (by assumption)
  · split
    · exact settle_dispatched (.providers (by assumption)) n origin
    · split
      · exact settle_dispatched (.response (by assumption)) n origin
      · split
        · split
          · exact settle_dispatched (.noRoute (by assumption) (by assumption)) n origin
          · exact .ignored
        · exact .ignored

/-- A step of a node, one case for each way it can be taken. -/
inductive NodeMoves (n : Node τ) : NodeAction τ → Node τ → Prop
  | asked {k : AskId} {request : Request} : (n.asks k).phase = .idle →
      NodeMoves n (.ask k request) (n.setAsk k { request, phase := .queued })
  | turned {k : AskId} : (n.asks k).phase = .queued → n.turn = none →
      NodeMoves n (.turn k) { n.goOn k .turned with turn := some k }
  | saw {k : AskId} : (n.asks k).phase = .turned → n.up = true →
      NodeMoves n (.see k) (n.goOn k .opened)
  | stored {k : AskId} : (n.asks k).phase = .opened →
      NodeMoves n (.store k) { (n.vacate .closed).goOn k .stored with
        waiting := some ((n.asks k).request.answerer, k) }
  | sent {k : AskId} {session : SessionId} : (n.asks k).phase = .stored →
      n.tx = some session → n.writer = true →
      NodeMoves n (.send k)
        { n.setAsk k { n.asks k with phase := .awaiting, session := some session } with
          outbox := n.outbox ++ [⟨session, k, (n.asks k).request.frame⟩] }
  | missed {k : AskId} : (n.asks k).phase = .stored → NodeMoves n (.send k) (n.goOn k .unsent)
  | cleared {k : AskId} : (n.asks k).phase = .unsent →
      NodeMoves n (.clear k)
        { (n.vacate .closed).goOn k (.returned (.error routerChanged)) with turn := none }
  | finished {k : AskId} {result : Except Error Frame} {origin : Option τ} :
      (n.asks k).phase = .awaiting → (n.asks k).reply = .sent result origin →
      NodeMoves n (.finish k) { n.goOn k (.returned result) with turn := none }
  | orphaned {k : AskId} : (n.asks k).phase = .awaiting → (n.asks k).reply = .closed →
      NodeMoves n (.finish k) { n.goOn k (.returned (.error routerChanged)) with turn := none }
  | left {k : AskId} : (n.asks k).phase = .queued → NodeMoves n (.drop k) (n.goOn k .dropped)
  | dropped {k : AskId} : (n.asks k).phase = .turned ∨ (n.asks k).phase = .awaiting →
      NodeMoves n (.drop k) { n.goOn k .dropped with turn := none }
  | dialed : n.link = .dialing →
      NodeMoves n .dial { n with link := .reading, session := n.session + 1, writer := true }
  | received {f : Frame} {origin : Option τ} {n' : Node τ} : n.link = .reading →
      Dispatched n f origin n' → NodeMoves n (.receive f origin) n'
  | named : n.link = .naming →
      NodeMoves n .proceed { n with tx := some n.session, link := .raising }
  | raised : n.link = .raising → NodeMoves n .proceed { n with up := true, link := .reading }
  | taken : n.link = .ended → NodeMoves n .proceed { n with tx := none, link := .lowering }
  | lowered : n.link = .lowering → NodeMoves n .proceed { n with up := false, link := .failing }
  | failed : n.link = .failing →
      NodeMoves n .proceed
        { n.vacate (.sent (.error routerChanged) none) with link := .dialing }
  | hungUp : n.link = .reading → NodeMoves n .hangUp { n with link := .ended }
  | writerFailed : NodeMoves n .writerFails { n with writer := false }

/-- Every enabled step is one of the cases. -/
theorem node_moves {a : NodeAction τ} (enabled : n.step a = some n') : NodeMoves n a n' := by
  -- Each action is enabled in the phases that its own branch of the step names.
  cases a with
  | ask k request =>
    simp only [Node.step] at enabled
    split at enabled <;> cases enabled
    exact .asked (by assumption)
  | turn k =>
    simp only [Node.step] at enabled
    split at enabled <;> cases enabled
    exact .turned (by assumption) (by assumption)
  -- The wait for `up` is over once some session was welcomed.
  | see k =>
    simp only [Node.step] at enabled
    split at enabled
    · obtain ⟨isUp, same⟩ := Option.ite_none_right_eq_some.mp enabled
      cases same
      exact .saw (by assumption) isUp
    · cases enabled
  | store k =>
    simp only [Node.step] at enabled
    split at enabled <;> cases enabled
    exact .stored (by assumption)
  -- The send is to the session's writer, or to nobody.
  | send k =>
    simp only [Node.step] at enabled
    split at enabled
    · split at enabled <;> cases enabled
      · exact .sent (by assumption) (by assumption) (by assumption)
      · exact .missed (by assumption)
    · cases enabled
      exact .missed (by assumption)
    · cases enabled
  | clear k =>
    simp only [Node.step] at enabled
    split at enabled <;> cases enabled
    exact .cleared (by assumption)
  -- An answer is taken, or the sender was dropped.
  | finish k =>
    simp only [Node.step] at enabled
    split at enabled <;> cases enabled
    · exact .finished (by assumption) (by assumption)
    · exact .orphaned (by assumption) (by assumption)
  -- An ask can be dropped where it waits.
  | drop k =>
    simp only [Node.step] at enabled
    split at enabled <;> cases enabled
    · exact .left (by assumption)
    · exact .dropped (.inl (by assumption))
    · exact .dropped (.inr (by assumption))
  | dial =>
    simp only [Node.step] at enabled
    split at enabled <;> cases enabled
    exact .dialed (by assumption)
  -- What is read is dispatched by its type.
  | receive f origin =>
    simp only [Node.step] at enabled
    split at enabled <;> cases enabled
    exact .received (by assumption) (receive_dispatched n f origin)
  -- Each place of the connection task has one way on.
  | proceed =>
    simp only [Node.step] at enabled
    split at enabled <;> cases enabled
    · exact .named (by assumption)
    · exact .raised (by assumption)
    · exact .taken (by assumption)
    · exact .lowered (by assumption)
    · exact .failed (by assumption)
  | hangUp =>
    simp only [Node.step] at enabled
    split at enabled <;> cases enabled
    exact .hungUp (by assumption)
  | writerFails =>
    cases enabled
    exact .writerFailed

/-- Changing an ask but not its request changes nobody's request. -/
theorem setAsk_request {a : Ask τ} (same : a.request = (n.asks k).request) (j : AskId) :
    ((n.setAsk k a).asks j).request = (n.asks j).request := by
  -- The changed ask has the request that it had, and the others are as they were.
  refine forall_setAsk (P := fun j ask => ask.request = (n.asks j).request) same ?_ j
  intro i _
  rfl

/-- Changing an ask but not its reply changes nobody's reply. -/
theorem setAsk_reply {a : Ask τ} (same : a.reply = (n.asks k).reply) (j : AskId) :
    ((n.setAsk k a).asks j).reply = (n.asks j).reply := by
  -- The changed ask has the reply that it had, and the others are as they were.
  refine forall_setAsk (P := fun j ask => ask.reply = (n.asks j).reply) same ?_ j
  intro i _
  rfl

@[simp] theorem goOn_request (phase : AskPhase) (j : AskId) :
    ((n.goOn k phase).asks j).request = (n.asks j).request :=
  setAsk_request (a := { n.asks k with phase }) rfl j

@[simp] theorem goOn_reply (phase : AskPhase) (j : AskId) :
    ((n.goOn k phase).asks j).reply = (n.asks j).reply :=
  setAsk_reply (a := { n.asks k with phase }) rfl j

/-- An ask's request is the one it began with. -/
theorem node_asked {a : NodeAction τ} (enabled : n.step a = some n') (j : AskId) :
    (n'.asks j).request = (n.asks j).request ∨
      ((n.asks j).phase = .idle ∧ a = .ask j (n'.asks j).request) := by
  cases node_moves enabled with
  | @asked k request idle =>
    by_cases self : j = k
    · subst self
      -- The ask begins with its request.
      rw [setAsk_self]
      exact .inr ⟨idle, rfl⟩
    · rw [setAsk_ne _ self]
      exact .inl rfl
  -- A send changes the phase, and the session it went out in.
  | @sent k session _ _ _ =>
    exact .inl (setAsk_request
      (a := { n.asks k with phase := .awaiting, session := some session }) rfl j)
  | received _ dispatched => cases dispatched <;> simp
  | _ => simp

/-- An ask keeps its request from its beginning on. -/
theorem node_request {a : NodeAction τ} (enabled : n.step a = some n') {j : AskId}
    (begun : (n.asks j).phase ≠ .idle) : (n'.asks j).request = (n.asks j).request :=
  (node_asked enabled j).resolve_right fun asked => begun asked.1

/-- Phases after an ask's frame can have been sent. -/
def AskPhase.gone : AskPhase → Bool
  | .awaiting | .returned _ | .dropped => true
  | .idle | .queued | .turned | .opened | .stored | .unsent => false

/-- Going on from a phase after sending is possible to another such phase only. -/
theorem goOn_gone {phase : AskPhase} (later : (n.asks k).phase.gone = true → phase.gone = true)
    (gone : (n.asks j).phase.gone = true) : ((n.goOn k phase).asks j).phase.gone = true := by
  refine forall_setAsk (P := fun i ask => (n.asks i).phase.gone = true → ask.phase.gone = true)
    later ?_ j gone
  intro i _ before
  exact before

/-- An ask that may have sent its frame never gets back to where it had not. -/
theorem node_gone {a : NodeAction τ} (enabled : n.step a = some n') {j : AskId}
    (gone : (n.asks j).phase.gone = true) : (n'.asks j).phase.gone = true := by
  cases node_moves enabled with
  | @asked k request idle =>
    -- An ask that has sent its frame does not begin again.
    have other : j ≠ k := by
      intro same
      subst same
      rw [idle] at gone
      cases gone
    rw [setAsk_ne _ other]
    exact gone
  -- The ask that sends is past its send from here on.
  | @sent k session stored _ _ =>
    by_cases self : j = k
    · subst self
      simp only [setAsk_self]
      rfl
    · simp only [setAsk_ne _ self]
      exact gone
  -- These go on from a phase before the send.
  | turned queued _ => exact goOn_gone (by rw [queued]; nofun) gone
  | saw turned _ => exact goOn_gone (by rw [turned]; nofun) gone
  | stored opened => exact goOn_gone (by rw [vacate_phase, opened]; nofun) (by rwa [vacate_phase])
  | missed stored => exact goOn_gone (by rw [stored]; nofun) gone
  -- And these come to an end, from whatever phase.
  | cleared _ => exact goOn_gone (fun _ => rfl) (by rwa [vacate_phase])
  | finished _ _ => exact goOn_gone (fun _ => rfl) gone
  | orphaned _ _ => exact goOn_gone (fun _ => rfl) gone
  | left _ => exact goOn_gone (fun _ => rfl) gone
  | dropped _ => exact goOn_gone (fun _ => rfl) gone
  | received _ dispatched => cases dispatched <;> simpa
  | failed _ => simpa
  | _ => exact gone

/-- Frames are queued by sends only, each with its ask's request. -/
theorem node_outbox {a : NodeAction τ} (enabled : n.step a = some n') :
    n'.outbox = n.outbox ∨ ∃ k session, a = .send k ∧ (n.asks k).phase = .stored ∧
      (n'.asks k).phase = .awaiting ∧
      n'.outbox = n.outbox ++ [⟨session, k, (n.asks k).request.frame⟩] := by
  cases node_moves enabled with
  | @sent k session stored _ _ =>
    exact .inr ⟨k, session, rfl, stored, by simp only [setAsk_self], rfl⟩
  | received _ dispatched => cases dispatched <;> simp
  | _ => simp

/-- The slot is emptied, left alone, or set for the ask that stores. -/
theorem node_waiting {a : NodeAction τ} (enabled : n.step a = some n') :
    n'.waiting = none ∨ n'.waiting = n.waiting ∨
      ∃ k, a = .store k ∧ (n.asks k).phase = .opened ∧
        n'.waiting = some ((n.asks k).request.answerer, k) := by
  cases node_moves enabled with
  | @stored k opened => exact .inr (.inr ⟨k, rfl, opened, rfl⟩)
  | received _ dispatched => cases dispatched <;> simp
  | _ => simp

/-- What emptying the slot does to a reply. -/
theorem vacate_reply {reply : Reply τ} {j : AskId} {result : Except Error Frame}
    {origin : Option τ} (replied : ((n.vacate reply).asks j).reply = .sent result origin) :
    (n.asks j).reply = .sent result origin ∨
      ((∃ who, n.waiting = some (who, j)) ∧ reply = .sent result origin) := by
  -- The ask that was in the slot has the reply it was emptied with.
  rcases vacate_asks reply j with same | ⟨taken, same⟩
  · rw [same] at replied
    exact .inl replied
  · rw [same] at replied
    exact .inr ⟨taken, replied⟩

/-- Why an ask has the reply it has: it had it, a frame settled it, or its session was lost. -/
theorem node_reply {a : NodeAction τ} (enabled : n.step a = some n') {j : AskId}
    {result : Except Error Frame} {origin : Option τ}
    (replied : (n'.asks j).reply = .sent result origin) :
    (n.asks j).reply = .sent result origin ∨
    (∃ f who, a = .receive f origin ∧ n.waiting = some (who, j) ∧ Settles f who result) ∨
    (result = .error routerChanged ∧ origin = none) := by
  cases node_moves enabled with
  | @asked k request idle =>
    by_cases self : j = k
    · subst self
      -- A new ask has no reply.
      simp at replied
    · rw [setAsk_ne _ self] at replied
      exact .inl replied
  -- A send leaves the replies as they are.
  | @sent k session _ _ _ =>
    have same := setAsk_reply
      (a := { n.asks k with phase := .awaiting, session := some session }) rfl j
    exact .inl (same.symm.trans replied)
  -- Whoever was in the slot is not told a result by a store, nor by a clear.
  | @stored k opened =>
    simp only [goOn_reply] at replied
    rcases vacate_reply replied with same | ⟨_, closed⟩
    · exact .inl same
    · cases closed
  | @cleared k unsent =>
    simp only [goOn_reply] at replied
    rcases vacate_reply replied with same | ⟨_, closed⟩
    · exact .inl same
    · cases closed
  | @received f origin' _ _ dispatched =>
    cases dispatched with
    | welcome _ => exact .inl replied
    | @settled who k answer settles taken =>
      rcases vacate_reply replied with same | ⟨⟨who', taken'⟩, sent⟩
      · exact .inl same
      · cases sent
        -- The answer went to the ask that was in the slot.
        rw [taken] at taken'
        cases taken'
        exact .inr (.inl ⟨f, who, rfl, taken, settles⟩)
    | ignored => exact .inl replied
  -- The loss of the session fails the ask that it carried.
  | failed _ =>
    rcases vacate_reply replied with same | ⟨_, sent⟩
    · exact .inl same
    · cases sent
      exact .inr (.inr ⟨rfl, rfl⟩)
  | _ => exact .inl (by simpa using replied)

end Zapd
