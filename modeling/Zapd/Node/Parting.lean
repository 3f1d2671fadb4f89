import Zapd.Node.Network

/-! A session that is over is read to its end, and cleaned up after. -/

namespace Zapd

open Transition

/-- The connection task has no session, or cleans up after one. -/
def Link.over : Link → Bool
  | .dialing | .ended | .lowering | .failing => true
  | .reading | .naming | .raising => false

/-- How far the connection task is from dialing again, if its session reads nothing more. -/
def Link.rank : Link → Nat
  | .naming => 6
  | .raising => 5
  | .reading => 4
  | .ended => 3
  | .lowering => 2
  | .failing => 1
  | .dialing => 0

section

variable {τ : Type} {n n' m : Node τ}

/-- A node in which the asks have come as far, and in which nothing more was sent. -/
structure Node.Alike (n n' : Node τ) : Prop where
  turn : n'.turn = n.turn
  outbox : n'.outbox = n.outbox
  session : n'.session = n.session
  phases : ∀ k, (n'.asks k).phase = (n.asks k).phase

/-- A node is like itself. -/
theorem Node.Alike.refl (n : Node τ) : n.Alike n := ⟨rfl, rfl, rfl, fun _ => rfl⟩

/-- What is alike to a node like this one is like this one. -/
theorem Node.Alike.trans (first : n.Alike n') (second : n'.Alike m) : n.Alike m :=
  ⟨second.turn.trans first.turn, second.outbox.trans first.outbox,
    second.session.trans first.session, fun k => (second.phases k).trans (first.phases k)⟩

/-- Emptying the slot leaves the asks where they are. -/
theorem vacate_alike (reply : Reply τ) : n.Alike (n.vacate reply) := by
  -- The slot and the reply in it belong to neither the turn nor the sessions.
  refine ⟨vacate_turn _, vacate_outbox _, ?_, vacate_phase _⟩
  unfold Node.vacate
  split <;> rfl

/-- What a session reads leaves the asks where they are, and the session as it is or welcomed. -/
theorem receive_alike (f : Frame) (origin : Option τ) : n.Alike (n.receive f origin) := by
  have dispatched := receive_dispatched n f origin
  generalize n.receive f origin = m at dispatched ⊢
  cases dispatched with
  -- A WELCOME renames the node, and an answer empties the slot.
  | welcome _ => exact ⟨rfl, rfl, rfl, fun _ => rfl⟩
  | settled _ _ => exact vacate_alike _
  | ignored => exact .refl n

/-- What the connection task does next leaves the asks where they are. -/
theorem proceed_alike (moved : n.step .proceed = some n') : n.Alike n' := by
  cases node_moves moved with
  | named | raised | taken | lowered => exact ⟨rfl, rfl, rfl, fun _ => rfl⟩
  -- Whoever waits is told, and stays where it is.
  | failed _ =>
    have alike := vacate_alike (n := n) (.sent (.error routerChanged) none)
    exact ⟨alike.turn, alike.outbox, alike.session, alike.phases⟩

/-- The end of a session goes on. -/
theorem proceed_over (moved : n.step .proceed = some n') (closed : n.link.over = true) :
    n'.link.over = true := by
  -- After its end a session is only cleaned up after.
  cases node_moves moved with
  | taken | lowered | failed => rfl
  -- A session that was welcomed is not over.
  | named link | raised link =>
    rw [link] at closed
    cases closed

/-- A connection task that neither dials nor reads goes on by itself, and nearer to dialing. -/
theorem proceeds_nearer (undialed : n.link ≠ .dialing) (unread : n.link ≠ .reading) :
    ∃ n', n.step .proceed = some n' ∧ n'.link.rank < n.link.rank := by
  cases link : n.link with
  | dialing => exact absurd link undialed
  | reading => exact absurd link unread
  -- Each of these takes one step down, and waits for nobody.
  | naming | raising | ended | lowering | failing =>
    simp only [Node.step, link]
    exact ⟨_, rfl, by simp [Link.rank]⟩

/-- Where a session that reads comes nearer to the end of its stream or is at it, and nothing else
is waited for, the connection task comes to dial again. -/
theorem leads_dialing {σ α : Type} (kind : α → Prop) (step : σ → α → Option σ) (start : σ)
    (node : σ → Node τ) (unread : σ → Nat) (inv : σ → Prop)
    (reads : ∀ s, inv s → (node s).link = .reading → ∃ a t, kind a ∧ step s a = some t ∧ inv t ∧
      (unread t < unread s ∨ unread t = unread s ∧ (node t).link = .ended))
    (proceeds : ∀ s n, inv s → (node s).step .proceed = some n →
      ∃ a t, kind a ∧ step s a = some t ∧ inv t ∧ node t = n ∧ unread t = unread s)
    (holds : inv start) : Leads kind step start fun t => inv t ∧ (node t).link = .dialing := by
  -- A frame that is read may be a WELCOME, which is two steps from reading again.
  refine Leads.descends inv (fun s => 3 * unread s + (node s).link.rank) ?_ holds
  intro s here
  -- The task dials, reads, or has something of its own to do.
  by_cases dialing : (node s).link = .dialing
  · exact .inl ⟨here, dialing⟩
  right
  by_cases reading : (node s).link = .reading
  · obtain ⟨a, t, allowed, enabled, there, nearer⟩ := reads s here reading
    refine ⟨a, t, allowed, enabled, there, ?_⟩
    have four : (node s).link.rank = 4 := by rw [reading]; rfl
    rcases nearer with fewer | ⟨same, ended⟩
    -- Three for the frame outweighs what a WELCOME adds.
    · have far : (node t).link.rank ≤ 6 := by cases (node t).link <;> simp [Link.rank]
      omega
    -- At the end of the stream the session ends.
    · have three : (node t).link.rank = 3 := by rw [ended]; rfl
      omega
  · obtain ⟨n, moved, nearer⟩ := proceeds_nearer dialing reading
    obtain ⟨a, t, allowed, enabled, there, same, kept⟩ := proceeds s n here moved
    refine ⟨a, t, allowed, enabled, there, ?_⟩
    rw [same, kept]
    omega

end

/-- What is a step of the node itself, and neither of its streams nor of their other ends. -/
def NodeAction.inner {τ : Type} : NodeAction τ → Prop
  | .dial | .receive .. | .hangUp | .writerFails => False
  | _ => True

/-- Steps of the node, of one connection to the router, and of the streams between them. -/
def NetworkAction.By (c : ConnId) : NetworkAction → Prop
  | .node a => a.inner
  | .carry _ | .write | .hear | .close => True
  | .dial d | .greet d => d = c
  | .router a => a = .advance c
  | .hearRefusal _ => False

/-- The node has no session, or one that is over: the router is done with its connection. -/
def Network.Parted (s : Network) : Prop :=
  s.node.link.over = true ∨ ∃ c, s.seat = some c ∧ (s.router.conns c).phase.isReturned = true

/-- The router and the sessions of the network are as they were, and the asks have come as far. -/
structure Network.Alike (s t : Network) : Prop where
  router : t.router = s.router
  seats : t.seats = s.seats
  node : s.node.Alike t.node

variable {hello : Frame} {s t : Network} {c : ConnId} {q : Queued}

/-- A network whose node alone went on, without a session begun. -/
theorem Network.Alike.goes {node : Node Queued} {heard : Nat} (alike : s.Alike t)
    (moved : t.node.Alike node) : s.Alike { t with node, heard } :=
  ⟨alike.router, alike.seats, alike.node.trans moved⟩

/-- What is read next is the first of what has not been read. -/
theorem unread_cons {node : Node Queued} (next : s.next = some q)
    (session : node.session = s.node.session) :
    s.unread = q :: Network.unread { s with node, heard := s.heard + 1 } := by
  -- The session reads on at the same seat.
  obtain ⟨c, seat, _⟩ := next_mem next
  have same : Network.seat { s with node, heard := s.heard + 1 } = some c := by
    rw [Network.seat, session]
    exact seat
  obtain ⟨rest, unread⟩ := List.head?_eq_some_iff.mp next
  rw [unread]
  congr 1
  -- What is dropped next is the first of what is left.
  simp only [Network.unread, seat, same] at unread ⊢
  rw [← List.tail_drop, unread, List.tail_cons]

/-- A session that reads goes on with a whole frame, and ends otherwise. -/
theorem sessionRead_reading (read : Except Error (Option Frame)) (origin : Option Queued)
    (reading : s.node.link = .reading) : s.sessionRead read origin = some
      (match read with
      | .ok (some f) => s.node.receive f origin
      | .ok none | .error _ => { s.node with link := .ended }) := by
  -- The two kinds of step are possible wherever the session reads.
  unfold Network.sessionRead
  split <;> simp only [Node.step, reading]

/-- A session that reads can read what comes next, and leaves the asks where they are. -/
theorem hears (hello : Frame) (reading : s.node.link = .reading) (next : s.next = some q) :
    ∃ node, s.step hello .hear = some { s with node, heard := s.heard + 1 } ∧
      s.sessionRead q.frame.reread (some q) = some node ∧ s.node.Alike node := by
  have moved := sessionRead_reading q.frame.reread (some q) reading
  refine ⟨_, ?_, moved, ?_⟩
  · simp only [Network.step, next, Option.bind_some, moved, Option.map_some]
  -- A frame is dispatched, and anything else ends the session.
  · split
    · exact receive_alike _ _
    · exact ⟨rfl, rfl, rfl, fun _ => rfl⟩
    · exact ⟨rfl, rfl, rfl, fun _ => rfl⟩

/-- A session that has read all there was to read ends once the router is done with it. -/
theorem closes (hello : Frame) (reading : s.node.link = .reading) (seat : s.seat = some c)
    (returned : (s.router.conns c).phase.isReturned = true) (next : s.next = none) :
    s.step hello .close = some { s with node := { s.node with link := .ended } } := by
  -- `handle` is over and nothing is left unread, so the end of the stream is next.
  simp [Network.step, seat, returned, next, Node.step, reading]

/-- Once the router is done with a session, the node comes to dial again. -/
theorem Network.Parted.leads (parted : s.Parted) :
    Leads (NetworkAction.By c) (Network.step hello) s fun t =>
      s.Alike t ∧ t.node.link = .dialing := by
  -- Until it dials, the node reads what is left, ends, and cleans up.
  have dials := leads_dialing (NetworkAction.By c) (Network.step hello) s
    Network.node (fun t => t.unread.length) (fun t => s.Alike t ∧ t.Parted) ?_ ?_
    ⟨⟨rfl, rfl, .refl _⟩, parted⟩
  · exact dials.imp fun _ t _ _ ⟨⟨alike, _⟩, dialing⟩ => ⟨alike, dialing⟩
  · intro t ⟨alike, parted⟩ reading
    -- A session that reads is not over by itself, so its connection is.
    obtain ⟨d, seat, returned⟩ := parted.resolve_left (by rw [reading]; decide)
    cases next : t.next with
    -- What the router wrote before it was done is still read.
    | some q =>
      obtain ⟨node, enabled, _, moved⟩ := hears hello reading next
      have still : Network.seat { t with node, heard := t.heard + 1 } = some d := by
        rw [Network.seat, moved.session]
        exact seat
      have shorter := congrArg List.length (unread_cons next moved.session)
      refine ⟨.hear, _, trivial, enabled, ⟨alike.goes moved, .inr ⟨d, still, returned⟩⟩, .inl ?_⟩
      rw [shorter]
      exact Nat.lt_succ_self _
    -- Behind it comes the end of the stream.
    | none =>
      refine ⟨.close, _, trivial, closes hello reading seat returned next,
        ⟨alike.goes ⟨rfl, rfl, rfl, fun _ => rfl⟩, .inl rfl⟩, .inr ⟨rfl, rfl⟩⟩
  · intro t n ⟨alike, parted⟩ moved
    -- Cleaning up is the node's own step, and reads nothing.
    have enabled : Network.step hello t (.node .proceed) = some { t with node := n } := by
      simp [Network.step, NodeAction.external, moved]
    have next := proceed_alike moved
    have still : Network.seat { t with node := n } = t.seat := by
      rw [Network.seat, next.session]
      rfl
    refine ⟨.node .proceed, _, trivial, enabled, ⟨alike.goes next, ?_⟩, rfl, ?_⟩
    · -- The end of a session goes on, and a connection that returned stays so.
      rcases parted with closed | ⟨d, seat, returned⟩
      · exact .inl (proceed_over moved closed)
      · exact .inr ⟨d, still.trans seat, returned⟩
    · simp only [Network.unread, still]

end Zapd
