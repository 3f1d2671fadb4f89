import Mathlib.Data.List.Nodup
import Mathlib.Data.List.Perm.Basic
import Zapd.Node.Invariant

/-! Which request an answer is to, when answers are told apart only by who sends them. -/

namespace Zapd

open Utf8

/--
What the party that a request is addressed to answers, if it answers at all.

The router answers a list; every other party answers with a RESPONSE, stamped with its id.
-/
def answerTo (request : Frame) (to_ : String) (flags : UInt16) (payload : Bytes) : Option Frame :=
  if request.to_ = "" then
    if request.typ = PROVIDERS_LIST then some (Frame.new PROVIDERS "zapd" to_ payload) else none
  else some { typ := RESPONSE, flags, from_ := request.to_, to_, payload }

/-- A node, the parties that answer it, and everything that is on its way between them. -/
structure World where
  node : Node AskId
  /-- Requests that reached the party they are addressed to, in the order received. -/
  inbox : List Sent := []
  /-- Answers on their way, each with the ask whose request it answers. -/
  answers : List (AskId × Frame) := []
  /-- Every answer that was ever given. -/
  answered : List (AskId × Frame) := []

/-- A node that has just joined, and nobody has been asked anything. -/
def World.initial (id : String) : World := { node := Node.join id }

/-- A step of the node, of a party that answers, or of the network between them. -/
inductive WorldAction
  | node (a : NodeAction AskId)
  /-- A request reaches the party it is addressed to. -/
  | deliver (i : Nat)
  /-- A request reaches nobody. -/
  | lose (i : Nat)
  /-- A party answers the first request it has not answered yet. -/
  | answer (i : Nat) (flags : UInt16) (payload : Bytes)
  | loseAnswer (i : Nat)
  /-- An answer reaches the node, and the session reads it. -/
  | arrive (i : Nat)

/-- An answer that no party gave, which the node does not read. -/
def NodeAction.madeUp : NodeAction AskId → Bool
  | .receive f origin => f.typ = PROVIDERS || f.typ = RESPONSE || origin.isSome
  | _ => false

/-- One step, if it is enabled. -/
def World.step (w : World) : WorldAction → Option World
  | .node a =>
    if a.madeUp then none else (w.node.step a).map fun node => { w with node }
  -- Requests on their way may overtake each other, be lost, or be answered late.
  | .deliver i =>
    w.node.outbox[i]?.map fun s =>
      { w with node := { w.node with outbox := w.node.outbox.eraseIdx i }, inbox := w.inbox ++ [s] }
  | .lose i =>
    w.node.outbox[i]?.map fun _ =>
      { w with node := { w.node with outbox := w.node.outbox.eraseIdx i } }
  | .answer i flags payload =>
    w.inbox[i]?.bind fun s =>
      -- Each party answers in the order received.
      if (w.inbox.take i).any (·.frame.to_ = s.frame.to_) then none
      else
        (answerTo s.frame w.node.id flags payload).map fun f =>
          { w with
            inbox := w.inbox.eraseIdx i
            answers := w.answers ++ [(s.ask, f)]
            answered := w.answered ++ [(s.ask, f)] }
  | .loseAnswer i => w.answers[i]?.map fun _ => { w with answers := w.answers.eraseIdx i }
  | .arrive i =>
    w.answers[i]?.bind fun p =>
      (w.node.step (.receive p.2 (some p.1))).map fun node =>
        { w with node, answers := w.answers.eraseIdx i }

/-- The requests that are not answered yet. -/
def World.requests (w : World) : List Sent := w.node.outbox ++ w.inbox

/-- The asks of which a request or its answer is still on the way. -/
def World.afoot (w : World) : List AskId := w.requests.map Sent.ask ++ w.answers.map Prod.fst

/-- An ask takes the slot only when nothing from its answerer to an earlier ask can come. -/
def Distinguishable (w : World) : WorldAction → Prop
  | .node (.store k) => ∀ j ∈ w.afoot,
    (w.node.asks j).request.answerer ≠ (w.node.asks k).request.answerer
  | _ => True

instance (w : World) (a : WorldAction) : Decidable (Distinguishable w a) := by
  unfold Distinguishable
  split <;> infer_instance

/-- The invariant of the world: only the ask in the slot can still get an answer of its answerer. -/
structure World.Matched (w : World) : Prop where
  coherent : w.node.Coherent
  /-- Every ask is on the way once, and is answered once. -/
  once : (w.requests.map Sent.ask ++ w.answered.map Prod.fst).Nodup
  late : ∀ k ∈ w.requests.map Sent.ask ++ w.answered.map Prod.fst,
    (w.node.asks k).phase.gone = true
  asked : ∀ s ∈ w.requests, s.frame = (w.node.asks s.ask).request.frame
  given : w.answers ⊆ w.answered
  /-- Every answer is one to the request of its ask. -/
  fits : ∀ p ∈ w.answered, ∃ to_ flags payload,
    answerTo (w.node.asks p.1).request.frame to_ flags payload = some p.2
  slot : ∀ who k, w.node.waiting = some (who, k) → ∀ j ∈ w.afoot,
    (w.node.asks j).request.answerer = who → j = k
  replied : ∀ k f origin, (w.node.asks k).reply = .sent (.ok f) origin →
    origin = some k ∧ (k, f) ∈ w.answered

/-- Nobody has been asked anything yet. -/
theorem World.Matched.initial (id : String) : (World.initial id).Matched where
  coherent := Node.Coherent.join id
  once := List.nodup_nil
  late := nofun
  asked := nofun
  given := nofun
  fits := nofun
  slot _ _ taken := by cases taken
  replied _ _ _ replied := by cases replied

/-- An answer settles an ask of the party that gave it, as the answer it is. -/
theorem answerTo_settles {request : Request} {to_ : String} {flags : UInt16} {payload : Bytes}
    {f : Frame} (answers : answerTo request.frame to_ flags payload = some f) {who : String}
    {result : Except Error Frame} (settles : Settles f who result) : who = request.answerer := by
  unfold answerTo at answers
  -- A call is answered by its callee, and a list by the router.
  cases request with
  | call dest body =>
    split at answers
    · -- A call is not a request for the list.
      simp [Request.frame, Frame.new, ROUTE, PROVIDERS_LIST] at answers
    · cases answers
      cases settles with
      | providers typ => cases typ
      | response _ => rfl
      | noRoute typ _ => cases typ
  | nodes =>
    simp only [Request.frame, Frame.new, if_true] at answers
    cases answers
    cases settles with
    | providers _ => rfl
    | response typ => cases typ
    | noRoute typ _ => cases typ

/-- An ask that may have sent its frame has begun. -/
theorem AskPhase.gone_ne_idle {phase : AskPhase} (gone : phase.gone = true) : phase ≠ .idle := by
  rintro rfl
  cases gone

/-- What an ask may have sent for has been asked, and stays so. -/
theorem World.Matched.request_kept {w : World} (matched : w.Matched) {a : NodeAction AskId}
    {n : Node AskId} (stepped : w.node.step a = some n) {k : AskId}
    (sent : k ∈ w.requests.map Sent.ask ++ w.answered.map Prod.fst) :
    (n.asks k).request = (w.node.asks k).request :=
  -- An ask that is past sending has begun.
  node_request stepped (AskPhase.gone_ne_idle (matched.late k sent))

/-- What is on the way was sent for. -/
theorem World.Matched.afoot_sent {w : World} (matched : w.Matched) {k : AskId}
    (afoot : k ∈ w.afoot) : k ∈ w.requests.map Sent.ask ++ w.answered.map Prod.fst := by
  -- An answer on the way was given.
  rcases List.mem_append.mp afoot with request | answer
  · exact List.mem_append_left _ request
  · obtain ⟨p, member, rfl⟩ := List.mem_map.mp answer
    exact List.mem_append_right _ (List.mem_map_of_mem (matched.given member))

/-- What the node has queued after a step: nothing new, or the request of the ask that sends. -/
theorem World.Matched.queued {w : World} (matched : w.Matched) {a : NodeAction AskId}
    {n : Node AskId} (stepped : w.node.step a = some n) :
    n.outbox = w.node.outbox ∨ ∃ s : Sent, n.outbox = w.node.outbox ++ [s] ∧
      a = .send s.ask ∧ (w.node.asks s.ask).phase = .stored ∧ (n.asks s.ask).phase.gone = true ∧
      s.frame = (n.asks s.ask).request.frame ∧
      s.ask ∉ w.requests.map Sent.ask ++ w.answered.map Prod.fst := by
  -- Only a send queues anything.
  rcases node_outbox stepped with same | ⟨k, session, sends, stored, awaiting, more⟩
  · exact .inl same
  · refine .inr ⟨_, more, sends, stored, by simp only [awaiting]; rfl, ?_, fun sent => ?_⟩
    · -- The frame is the request the ask began with.
      rw [node_request stepped (by simp [stored])]
    · -- What was sent before is of an ask that is past sending.
      have gone := matched.late k sent
      rw [stored] at gone
      cases gone

/-- A step of the node keeps the invariant, if what it reads is an answer to the ask in the slot. -/
theorem World.Matched.stepped {w : World} (matched : w.Matched) {a : NodeAction AskId}
    {n : Node AskId} (stepped : w.node.step a = some n) {answers : List (AskId × Frame)}
    (fewer : answers ⊆ w.answers)
    (distinguishable : ∀ k, a = .store k → ∀ j ∈ w.afoot,
      (w.node.asks j).request.answerer ≠ (w.node.asks k).request.answerer)
    (own : ∀ f origin who j, a = .receive f origin → w.node.waiting = some (who, j) →
      Settles f who (.ok f) → origin = some j ∧ (j, f) ∈ w.answered) :
    World.Matched { w with node := n, answers } := by
  have queued := matched.queued stepped
  -- Whatever is on the way now was on the way before, or is the request just sent.
  have before : ∀ j ∈ World.afoot { w with node := n, answers },
      j ∈ w.afoot ∨ (a = .send j ∧ (w.node.asks j).phase = .stored) := by
    intro j afoot
    simp only [World.afoot, World.requests, List.map_append, List.mem_append] at afoot ⊢
    rcases afoot with (outbox | inbox) | answer
    · rcases queued with same | ⟨s, more, sends, stored, _⟩
      · rw [same] at outbox
        exact .inl (.inl (.inl outbox))
      · rw [more, List.map_append, List.mem_append] at outbox
        rcases outbox with old | new
        · exact .inl (.inl (.inl old))
        · obtain rfl := List.mem_singleton.mp new
          exact .inr ⟨sends, stored⟩
    · exact .inl (.inl (.inr inbox))
    · exact .inl (.inr (List.map_subset _ fewer answer))
  refine ⟨matched.coherent.step stepped, ?_, ?_, ?_, List.Subset.trans fewer matched.given, ?_, ?_,
    ?_⟩
  · -- The request that is sent now is the first of its ask.
    rcases queued with same | ⟨s, more, _, _, _, _, fresh⟩
    · simp only [World.requests, same]
      exact matched.once
    · simp only [World.requests, more]
      have perm : ((w.node.outbox ++ [s] ++ w.inbox).map Sent.ask ++ w.answered.map Prod.fst).Perm
          (s.ask :: (w.requests.map Sent.ask ++ w.answered.map Prod.fst)) := by
        simp only [World.requests, List.map_append, List.append_assoc, List.map_cons, List.map_nil]
        exact List.perm_middle
      rw [perm.nodup_iff]
      exact List.nodup_cons.mpr ⟨fresh, matched.once⟩
  · -- Whatever was sent is of an ask that stays past sending.
    intro k sent
    rcases queued with same | ⟨s, more, _, _, gone, _⟩
    · simp only [World.requests, same] at sent
      exact node_gone stepped (matched.late k sent)
    · by_cases self : k = s.ask
      · rw [self]
        exact gone
      · have old : k ∈ w.requests.map Sent.ask ++ w.answered.map Prod.fst := by
          simp only [World.requests, more, List.map_append, List.mem_append, List.map_cons,
            List.map_nil, List.mem_singleton, self, or_false] at sent ⊢
          exact sent
        exact node_gone stepped (matched.late k old)
  · -- Every request carries what its ask asked for.
    intro r member
    have old : ∀ r ∈ w.requests, r.frame = (n.asks r.ask).request.frame := by
      intro r member
      rw [matched.request_kept stepped (List.mem_append_left _ (List.mem_map_of_mem member))]
      exact matched.asked r member
    rcases queued with same | ⟨s, more, _, _, _, framed, _⟩
    · simp only [World.requests, same] at member
      exact old r member
    · simp only [World.requests, more, List.mem_append, List.mem_singleton] at member
      rcases member with (outbox | rfl) | inbox
      · exact old r (List.mem_append_left _ outbox)
      · exact framed
      · exact old r (List.mem_append_right _ inbox)
  · -- The answers are to requests that have not changed.
    intro p member
    rw [matched.request_kept stepped (List.mem_append_right _ (List.mem_map_of_mem member))]
    exact matched.fits p member
  · -- The slot is cleared, or kept, or taken by an ask that may.
    intro who k taken j afoot same
    rcases node_waiting stepped with empty | kept | ⟨i, stores, opened, set⟩
    · rw [empty] at taken
      cases taken
    · rw [kept] at taken
      rcases before j afoot with old | ⟨_, stored⟩
      · rw [matched.request_kept stepped (matched.afoot_sent old)] at same
        exact matched.slot who k taken j old same
      · -- The ask that sends has the slot to itself.
        exact (matched.coherent.own j stored who k taken).symm
    · rw [set] at taken
      cases taken
      rcases before j afoot with old | ⟨sends, _⟩
      · rw [matched.request_kept stepped (matched.afoot_sent old)] at same
        exact absurd same (distinguishable k stores j old)
      · rw [stores] at sends
        cases sends
  · -- A new reply is the frame that was read for the ask in the slot.
    intro k f origin replied
    rcases node_reply stepped replied with old | ⟨g, who, reads, taken, settles⟩ | ⟨failed, _⟩
    · exact matched.replied k f origin old
    · have whole : f = g := by cases settles <;> rfl
      subst whole
      exact own f origin who k reads taken settles
    · cases failed

/-- A step of the network or of a party that answers keeps the invariant, if it invents nothing. -/
theorem World.Matched.network {w w' : World} (matched : w.Matched)
    (node : ∃ outbox, w'.node = { w.node with outbox })
    (sent : (w'.requests.map Sent.ask ++ w'.answered.map Prod.fst).Subperm
      (w.requests.map Sent.ask ++ w.answered.map Prod.fst))
    (requests : w'.requests ⊆ w.requests) (afoot : w'.afoot ⊆ w.afoot)
    (answered : w.answered ⊆ w'.answered)
    (given : w'.answers ⊆ w'.answered)
    (fits : ∀ p ∈ w'.answered, p ∈ w.answered ∨ ∃ to_ flags payload,
      answerTo (w.node.asks p.1).request.frame to_ flags payload = some p.2) : w'.Matched := by
  obtain ⟨outbox, same⟩ := node
  -- The node's asks and slot do not change.
  have asks : w'.node.asks = w.node.asks := by rw [same]
  have waiting : w'.node.waiting = w.node.waiting := by rw [same]
  refine ⟨matched.coherent.congr asks waiting (by rw [same]), ?_, ?_, ?_, given, ?_, ?_, ?_⟩
  · -- What is left of the requests and answers is still free of repetitions.
    obtain ⟨list, perm, sublist⟩ := sent
    rw [← perm.nodup_iff]
    exact sublist.nodup matched.once
  · intro k member
    rw [asks]
    exact matched.late k (sent.subset member)
  · intro s member
    rw [asks]
    exact matched.asked s (requests member)
  · intro p member
    rw [asks]
    -- A new answer fits the request it was given to.
    rcases fits p member with old | new
    · exact matched.fits p old
    · exact new
  · intro who k taken j member
    rw [waiting] at taken
    rw [asks]
    exact matched.slot who k taken j (afoot member)
  -- The node was told nothing new.
  · intro k f origin replied
    rw [asks] at replied
    obtain ⟨own, member⟩ := matched.replied k f origin replied
    exact ⟨own, answered member⟩

/-- What is taken out of a list and what is left are the list. -/
theorem perm_eraseIdx {α : Type} {items : List α} {i : Nat} {item : α}
    (found : items[i]? = some item) : (item :: items.eraseIdx i).Perm items := by
  obtain ⟨inside, rfl⟩ := List.getElem?_eq_some_iff.mp found
  exact List.getElem_cons_eraseIdx_perm inside

/-- A request that reaches its party is on the way as it was. -/
theorem World.Matched.deliver {w : World} (matched : w.Matched) {i : Nat} {s : Sent}
    (found : w.node.outbox[i]? = some s) :
    World.Matched { w with
      node := { w.node with outbox := w.node.outbox.eraseIdx i }, inbox := w.inbox ++ [s] } := by
  -- The request moves from the outbox to the inbox of its party.
  have perm : (w.node.outbox.eraseIdx i ++ (w.inbox ++ [s])).Perm w.requests := by
    have front : (w.node.outbox.eraseIdx i ++ (w.inbox ++ [s])).Perm
        (s :: (w.node.outbox.eraseIdx i ++ w.inbox)) := by
      rw [← List.append_assoc]
      exact List.perm_append_singleton _ _
    exact front.trans ((perm_eraseIdx found).append_right w.inbox)
  refine matched.network ⟨_, rfl⟩ ((perm.map _).append_right _).subperm perm.subset ?_
    (List.Subset.refl _) matched.given fun p member => .inl member
  exact ((perm.map _).append_right _).subset

/-- A request that is lost is no longer on the way. -/
theorem World.Matched.lose {w : World} (matched : w.Matched) (i : Nat) :
    World.Matched { w with node := { w.node with outbox := w.node.outbox.eraseIdx i } } := by
  -- Less is on the way, and nothing new.
  have fewer : (w.node.outbox.eraseIdx i ++ w.inbox).Sublist w.requests :=
    (List.eraseIdx_sublist _ _).append_right _
  refine matched.network ⟨_, rfl⟩ ((fewer.map _).append_right _).subperm fewer.subset ?_
    (List.Subset.refl _) matched.given fun p member => .inl member
  exact ((fewer.map _).append_right _).subset

/-- An answer that is lost is no longer on the way. -/
theorem World.Matched.loseAnswer {w : World} (matched : w.Matched) (i : Nat) :
    World.Matched { w with answers := w.answers.eraseIdx i } := by
  -- Less is on the way, and what was given was given.
  refine matched.network ⟨_, rfl⟩ (List.Subperm.refl _) (List.Subset.refl _) ?_
    (List.Subset.refl _) (List.Subset.trans List.eraseIdx_subset matched.given)
    fun p member => .inl member
  exact (((List.eraseIdx_sublist _ _).map _).append_left _).subset

/-- A party that answers a request turns it into an answer on the way. -/
theorem World.Matched.answer {w : World} (matched : w.Matched) {i : Nat} {s : Sent}
    {to_ : String} {flags : UInt16} {payload : Bytes} {f : Frame}
    (found : w.inbox[i]? = some s) (answers : answerTo s.frame to_ flags payload = some f) :
    World.Matched { w with
      inbox := w.inbox.eraseIdx i
      answers := w.answers ++ [(s.ask, f)]
      answered := w.answered ++ [(s.ask, f)] } := by
  -- The request is one of those on the way, and is taken off them.
  have member : s ∈ w.requests := List.mem_append_right _ (List.mem_of_getElem? found)
  have fewer : (w.node.outbox ++ w.inbox.eraseIdx i).Sublist w.requests :=
    (List.eraseIdx_sublist _ _).append_left _
  -- The request is answered once.
  have perm : (s :: (w.node.outbox ++ w.inbox.eraseIdx i)).Perm w.requests :=
    List.perm_middle.symm.trans ((perm_eraseIdx found).append_left _)
  refine matched.network ⟨_, rfl⟩ (List.Perm.subperm ?_) fewer.subset ?_
    (List.subset_append_left _ _) ?_ fun p answered => ?_
  · -- The ask moves from the requests to the answers.
    have moved := (perm.map Sent.ask).append_right (w.answered.map Prod.fst)
    refine List.Perm.trans ?_ moved
    simp only [World.requests, List.map_append, List.map_cons, List.map_nil, ← List.append_assoc]
    exact List.perm_append_singleton _ _
  · -- Its answer is on the way in its place.
    intro k afoot
    simp only [World.afoot, World.requests, List.map_append, List.mem_append, List.map_cons,
      List.map_nil, List.mem_singleton] at afoot ⊢
    have here : s.ask ∈ w.inbox.map Sent.ask :=
      List.mem_map_of_mem (List.mem_of_getElem? found)
    have less : (w.inbox.eraseIdx i).map Sent.ask ⊆ w.inbox.map Sent.ask :=
      List.map_subset _ List.eraseIdx_subset
    rcases afoot with (outbox | inbox) | old | rfl
    · exact .inl (.inl outbox)
    · exact .inl (.inr (less inbox))
    · exact .inr old
    · exact .inl (.inr here)
  -- The new answer is among those that were ever given.
  · intro p given
    rcases List.mem_append.mp given with old | new
    · exact List.mem_append_left _ (matched.given old)
    · exact List.mem_append_right _ new
  -- It fits the request that it was given to, and the others fit theirs.
  · rcases List.mem_append.mp answered with old | new
    · exact .inl old
    · obtain rfl := List.mem_singleton.mp new
      rw [matched.asked s member] at answers
      exact .inr ⟨_, _, _, answers⟩

/-- An answer that reaches the node is for the ask in the slot, if it is for the slot at all. -/
theorem World.Matched.arrive {w : World} (matched : w.Matched) {i : Nat} {k : AskId} {f : Frame}
    {n : Node AskId} (found : w.answers[i]? = some (k, f))
    (stepped : w.node.step (.receive f (some k)) = some n) :
    World.Matched { w with node := n, answers := w.answers.eraseIdx i } := by
  have member := List.mem_of_getElem? found
  refine matched.stepped stepped List.eraseIdx_subset nofun ?_
  intro g origin who j reads taken settles
  cases reads
  -- Of the asks of this answerer, only the one in the slot has anything on the way.
  obtain ⟨to_, flags, payload, answers⟩ := matched.fits _ (matched.given member)
  have named := answerTo_settles answers settles
  have afoot : k ∈ w.afoot := List.mem_append_right _ (List.mem_map_of_mem member)
  have same := matched.slot who j taken k afoot named.symm
  exact same ▸ ⟨rfl, matched.given member⟩

/-- Every step that keeps answers distinguishable keeps the invariant. -/
theorem World.Matched.step {w w' : World} {a : WorldAction} (matched : w.Matched)
    (distinguishable : Distinguishable w a) (enabled : w.step a = some w') : w'.Matched := by
  cases a with
  | node a =>
    obtain ⟨genuine, moved⟩ := Option.ite_none_left_eq_some.mp enabled
    obtain ⟨n, stepped, rfl⟩ := Option.map_eq_some_iff.mp moved
    refine matched.stepped stepped (List.Subset.refl _) (fun k stores => ?_) ?_
    · subst stores
      exact distinguishable
    · -- What the node reads here is not an answer.
      intro f origin who j reads taken settles
      subst reads
      cases settles with
      | providers typ => simp [NodeAction.madeUp, typ] at genuine
      | response typ => simp [NodeAction.madeUp, typ] at genuine
  -- The network moves what is on its way, and invents nothing.
  | deliver i =>
    obtain ⟨s, found, rfl⟩ := Option.map_eq_some_iff.mp enabled
    exact matched.deliver found
  | lose i =>
    obtain ⟨s, found, rfl⟩ := Option.map_eq_some_iff.mp enabled
    exact matched.lose i
  | answer i flags payload =>
    obtain ⟨s, found, moved⟩ := Option.bind_eq_some_iff.mp enabled
    obtain ⟨_, moved⟩ := Option.ite_none_left_eq_some.mp moved
    obtain ⟨f, answers, rfl⟩ := Option.map_eq_some_iff.mp moved
    exact matched.answer found answers
  | loseAnswer i =>
    obtain ⟨p, found, rfl⟩ := Option.map_eq_some_iff.mp enabled
    exact matched.loseAnswer i
  -- An answer comes to the node by this step only.
  | arrive i =>
    obtain ⟨⟨k, f⟩, found, moved⟩ := Option.bind_eq_some_iff.mp enabled
    obtain ⟨n, stepped, rfl⟩ := Option.map_eq_some_iff.mp moved
    exact matched.arrive found stepped

/-- A call that returns a payload returns the one answer that was given to its own request. -/
def World.Correlated (w : World) : Prop :=
  ∀ k to_ body payload, (w.node.asks k).request = .call to_ body →
    (w.node.asks k).called = some (.ok payload) →
    ∃ f, f.payload = payload ∧ (w.node.asks k).reply = .sent (.ok f) (some k) ∧
      (∀ g, (k, g) ∈ w.answered ↔ g = f) ∧
      ∃ flags at_, answerTo (Request.call to_ body).frame at_ flags payload = some f

/-- Of the answers given, each ask has one. -/
theorem World.Matched.unique {w : World} (matched : w.Matched) {k : AskId} {f g : Frame}
    (first : (k, f) ∈ w.answered) (second : (k, g) ∈ w.answered) : g = f := by
  have nodup := (List.nodup_append.mp matched.once).2.1
  -- Two answers to one ask would repeat it.
  have same := List.inj_on_of_nodup_map nodup second first rfl
  cases same
  rfl

/-- If an ask takes the slot only when no other of its answerer is afoot, answers are correlated. -/
theorem calls_correlated {id : String} {w : World}
    (reached : Transition.GuardedReachable Distinguishable World.step (World.initial id) w) :
    w.Correlated := by
  have matched : w.Matched := by
    refine reached.induction (World.Matched.initial id) ?_
    intro state action next _ distinguishable matched enabled
    exact matched.step distinguishable enabled
  intro k to_ body payload called ok
  -- The call returned what its reply was sent.
  have returned : ∃ f, (w.node.asks k).phase = .returned (.ok f) ∧ f.payload = payload := by
    unfold Ask.called at ok
    split at ok
    · rename_i result phase
      cases result with
      | error e => cases ok
      | ok f =>
        cases ok
        exact ⟨f, phase, rfl⟩
    · cases ok
    · cases ok
  obtain ⟨f, phase, same⟩ := returned
  -- It was not the error of a lost session, so a frame settled it.
  obtain ⟨origin, replied⟩ := (matched.coherent.settled k (.ok f) phase).resolve_left nofun
  obtain ⟨rfl, member⟩ := matched.replied k f origin replied
  -- The frame is the answer its party gave to its own request.
  obtain ⟨at_, flags, body', answers⟩ := matched.fits _ member
  rw [called] at answers
  refine ⟨f, same, replied, fun g => ⟨matched.unique member, fun is_ => is_ ▸ member⟩, flags,
    at_, ?_⟩
  -- An answer to a call carries its payload.
  have own : body' = payload := by
    unfold answerTo at answers
    split at answers
    · simp [Request.frame, Frame.new, ROUTE, PROVIDERS_LIST] at answers
    · cases answers
      exact same
  rw [← own]
  exact answers

/-- The steps by which a node gets a session and learns its id. -/
def welcomed (id : String) : List WorldAction :=
  [.node .dial, .node (.receive (Frame.new WELCOME "zapd" id []) none), .node .proceed,
    .node .proceed]

/-- The steps by which an ask gets its frame onto the writer's channel. -/
def asking (k : AskId) (request : Request) : List WorldAction :=
  [.node (.ask k request), .node (.turn k), .node (.see k), .node (.store k), .node (.send k)]

/-- Two calls to one party, the second after the answer to the first has come. -/
theorem calls_correlated_twice : ∃ w, Transition.run World.step (World.initial "cli/n")
      (welcomed "cli/dgx/n" ++ asking 0 (.call "agent/dgx/a" [1]) ++
        [.deliver 0, .answer 0 0 [8], .arrive 0, .node (.finish 0)] ++
        asking 1 (.call "agent/dgx/a" [2]) ++
        [.deliver 0, .answer 0 0 [9], .arrive 0, .node (.finish 1)]) = some w ∧
    (w.node.asks 1).called = some (.ok [9]) ∧ w.Correlated := by
  have distinguishable : Transition.Guarded Distinguishable World.step (World.initial "cli/n")
      (welcomed "cli/dgx/n" ++ asking 0 (.call "agent/dgx/a" [1]) ++
        [.deliver 0, .answer 0 0 [8], .arrive 0, .node (.finish 0)] ++
        asking 1 (.call "agent/dgx/a" [2]) ++
        [.deliver 0, .answer 0 0 [9], .arrive 0, .node (.finish 1)]) := by decide +kernel
  exact ⟨_, rfl, by decide, calls_correlated ⟨_, distinguishable, rfl⟩⟩

/--
A call times out after its request reached the party, and another call to the party is begun.

The answer to the first is returned by the second.
-/
theorem calls_confused : ∃ w, Transition.Reachable World.step (World.initial "cli/n") w ∧
    (w.node.asks 0).called = some (.error (Request.call "agent/dgx/a" [1]).timedOut) ∧
    (w.node.asks 1).request = .call "agent/dgx/a" [2] ∧
    (w.node.asks 1).called = some (.ok [8]) ∧
    w.answered = [(0, { typ := RESPONSE, flags := 0, from_ := "agent/dgx/a", to_ := "cli/dgx/n",
                        payload := [8] })] ∧
    ¬ w.Correlated := by
  have reached : Transition.Reachable World.step (World.initial "cli/n") _ :=
    ⟨welcomed "cli/dgx/n" ++ asking 0 (.call "agent/dgx/a" [1]) ++
      [.deliver 0, .node (.drop 0)] ++ asking 1 (.call "agent/dgx/a" [2]) ++
      [.answer 0 0 [8], .arrive 0, .node (.finish 1)], rfl⟩
  refine ⟨_, reached, by decide, by decide, by decide, by decide, fun correlated => ?_⟩
  obtain ⟨f, _, _, unique, _⟩ := correlated 1 "agent/dgx/a" [2] [8] (by decide) (by decide)
  -- No answer was given to the second request.
  have given := (unique f).mpr rfl
  revert given
  simp [World.initial]

end Zapd
