import Zapd.Node.Rejoin

/-! How an ask returns: by the first frame its session reads that decides it. -/

namespace Zapd

open Transition Utf8

/-- Whom a frame that a session reads answers, and how. -/
def Frame.answers (f : Frame) : Option (String × Except Error Frame) :=
  if f.typ = PROVIDERS then some ("zapd", .ok f)
  else if f.typ = RESPONSE then some (f.from_, .ok f)
  else if f.typ = ERROR then
    (noRoute f.payload).map fun dest => (dest, .error ⟨.notFound, fromUtf8Lossy f.payload⟩)
  else none

/-- What a frame makes of an ask that waits for this answerer. -/
def Frame.answersTo (f : Frame) (who : String) : Option (Except Error Frame) :=
  f.answers.bind fun (from_, answer) => if who = from_ then some answer else none

/-- What the first of these frames that decides an ask decides: an answer to it, or one that cannot
be read, which ends the session. -/
def verdict (who : String) : List Queued → Option (Except Error Frame)
  | [] => none
  | q :: rest =>
    match q.frame.reread with
    | .ok (some f) => (f.answersTo who).or (verdict who rest)
    | .ok none | .error _ => some (.error routerChanged)

/-- The frames that the session comes to read when nothing more is queued: those on its stream, and
while the writer task runs those that it has yet to write. -/
def Network.unheard (s : Network) : List Queued :=
  match s.seat with
  | none => []
  | some c =>
    if (s.router.conns c).writes then (s.router.queues c).drop s.heard else s.unread

/-- The router is done with the connection of the session. -/
def Network.returned (s : Network) : Bool :=
  match s.seat with
  | none => false
  | some c => (s.router.conns c).phase.isReturned

/-- The session is over, and what it carried has yet to be failed. -/
def Link.spent : Link → Bool
  | .ended | .lowering | .failing => true
  | .dialing | .reading | .naming | .raising => false

/-- What a session that ends fails its ask with, if it does end. -/
def Network.ends (s : Network) : Option (Except Error Frame) :=
  if s.returned then some (.error routerChanged) else none

/-- What an ask that awaits its answer comes to return when nothing more is queued for it. -/
def Network.outcome (s : Network) (k : AskId) : Option (Except Error Frame) :=
  match (s.node.asks k).phase with
  | .returned result => some result
  | .awaiting =>
    match (s.node.asks k).reply with
    | .sent result _ => some result
    | .closed => some (.error routerChanged)
    | .empty =>
      if s.node.link.spent then some (.error routerChanged)
      else (verdict (s.node.asks k).request.answerer s.unheard).or s.ends
  | _ => none

/-- What was queued is written and read to its end, the connection task goes on, or the ask takes
its answer. -/
def NetworkAction.reads (k : AskId) : NetworkAction → Prop
  | .write | .hear | .close | .node .proceed => True
  | .node (.finish j) => j = k
  | _ => False

/-- What is left to do before an ask returns is for the node and its stream to do. -/
theorem NetworkAction.reads.by {k : AskId} {c : ConnId} {a : NetworkAction} (reads : a.reads k) :
    a.By c := by
  cases a with
  | node m => cases m <;> first | exact trivial | exact absurd reads id
  | write | hear | close => exact trivial
  | _ => exact absurd reads id

section

variable {τ : Type} {n : Node τ} {k : AskId} {who : String} {f : Frame} {origin : Option τ}

/-- A session settles what the frame answers, and goes by its new id after a WELCOME. -/
theorem receive_eq : n.receive f origin =
    if f.typ = WELCOME then { n with id := f.to_, link := .naming }
    else match f.answers with
      | some (from_, answer) => settle n from_ answer origin
      | none => n := by
  unfold Node.receive Frame.answers
  by_cases welcome : f.typ = WELCOME
  · rw [if_pos welcome, if_pos welcome]
  rw [if_neg welcome, if_neg welcome]
  -- The types are told apart in the order of the source.
  split
  · rfl
  split
  · rfl
  split
  · cases noRoute f.payload <;> rfl
  · rfl

/-- An answer to the ask in the slot empties the slot, and any other frame leaves all asks alone. -/
theorem receive_slot (reading : n.link = .reading) (taken : n.waiting = some (who, k)) :
    (∃ result, f.answersTo who = some result ∧
      n.receive f origin = n.vacate (.sent result origin)) ∨
    (f.answersTo who = none ∧ (n.receive f origin).asks = n.asks ∧
      ((n.receive f origin).link = .reading ∨ (n.receive f origin).link = .naming)) := by
  rw [receive_eq]
  split
  · -- A WELCOME answers nobody.
    rename_i welcome
    refine .inr ⟨?_, rfl, .inr rfl⟩
    rw [Frame.answersTo, Frame.answers, welcome]
    rfl
  · unfold Frame.answersTo
    cases f.answers with
    -- Only a frame that answers somebody touches the slot.
    | none => exact .inr ⟨rfl, rfl, .inl reading⟩
    | some answer =>
      obtain ⟨from_, answer⟩ := answer
      -- The slot is settled if the answer is from whom it asks.
      simp only [settle, taken, Option.bind_some]
      split
      · exact .inl ⟨_, rfl, rfl⟩
      · exact .inr ⟨rfl, rfl, .inl reading⟩

end

variable {hello : Frame} {host : String} {door : ConnId → Bool} {id who : String}
  {s s' t : Network} {c : ConnId} {k : AskId} {q : Queued} {node : Node Queued}
  {result : Except Error Frame}

/-- What becomes of a session's stream is settled by the router, its seats and what it has read. -/
theorem unheard_congr {node : Node Queued} (session : node.session = s.node.session) :
    Network.unheard { s with node } = s.unheard ∧ Network.ends { s with node } = s.ends := by
  -- The session is the same, and so is its connection.
  have seat : Network.seat { s with node } = s.seat := by
    rw [Network.seat, session]
    rfl
  constructor
  · simp only [Network.unheard, Network.unread, seat]
  · rw [Network.ends, Network.returned, seat]
    rfl

/-- What the session reads next is the first of what it comes to read. -/
theorem unheard_cons (next : s.next = some q) (session : node.session = s.node.session) :
    s.unheard = q :: Network.unheard { s with node, heard := s.heard + 1 } ∧
      Network.ends { s with node, heard := s.heard + 1 } = s.ends := by
  have later := unread_cons next session
  obtain ⟨c, seat, _⟩ := next_mem next
  have same : Network.seat { s with node, heard := s.heard + 1 } = some c := by
    rw [Network.seat, session]
    exact seat
  refine ⟨?_, by simp only [Network.ends, Network.returned, seat, same]⟩
  simp only [Network.unheard, seat, same]
  split
  · -- What is on the stream comes before what has yet to be written.
    simp only [Network.next, Network.unread, seat, List.head?_drop, List.getElem?_take] at next
    obtain ⟨_, found⟩ := Option.ite_none_right_eq_some.mp next
    obtain ⟨bound, at_⟩ := List.getElem?_eq_some_iff.mp found
    rw [List.drop_eq_getElem_cons bound, at_]
  · exact later

/-- Only the ask itself, whether the session is over and what it has yet to read matter. -/
theorem outcome_congr (ask : t.node.asks k = s.node.asks k)
    (spent : t.node.link.spent = s.node.link.spent)
    (stream : t.unheard = s.unheard ∧ t.ends = s.ends) :
    t.outcome k = s.outcome k := by
  unfold Network.outcome
  rw [ask, spent, stream.1, stream.2]

/-- Emptying the slot leaves an ask alone that has its reply. -/
theorem Node.Coherent.vacate_decided {τ : Type} {n : Node τ} (coherent : n.Coherent)
    (decided : (n.asks k).reply ≠ .empty) (reply : Reply τ) :
    (n.vacate reply).asks k = n.asks k := by
  -- An ask that has its reply is not in the slot.
  rcases vacate_asks reply k with same | ⟨⟨who, taken⟩, _⟩
  · exact same
  · exact coherent.decided decided taken

/-- The ask that the slot is for is settled with what empties the slot. -/
theorem outcome_settled {origin : Option Queued} (awaiting : (s.node.asks k).phase = .awaiting)
    (taken : s.node.waiting = some (who, k))
    (asks : t.node.asks = (s.node.vacate (.sent result origin)).asks) :
    t.outcome k = some result := by
  have phase : (t.node.asks k).phase = .awaiting := by rw [asks, vacate_phase, awaiting]
  have reply : (t.node.asks k).reply = .sent result origin := by
    rw [asks]
    exact vacate_self _ taken
  simp only [Network.outcome, phase, reply]

/-- What becomes of the connection matters only to an ask that awaits its reply. -/
theorem outcome_decided (phase : (t.node.asks k).phase = (s.node.asks k).phase)
    (kept : (s.node.asks k).reply ≠ .empty → t.node.asks k = s.node.asks k)
    (decided : (s.node.asks k).phase = .awaiting → (s.node.asks k).reply ≠ .empty) :
    t.outcome k = s.outcome k := by
  unfold Network.outcome
  rw [phase]
  -- Only one that awaits its reply looks at the stream.
  cases stands : (s.node.asks k).phase with
  | awaiting =>
    have has := decided stands
    rw [kept has]
    cases reply : (s.node.asks k).reply with
    | empty => exact absurd reply has
    | sent | closed => rfl
  | _ => rfl

/-- An ask that awaits its reply is the one that the slot is for. -/
theorem Node.Carried.slot {τ : Type} {n : Node τ} (carried : n.Carried)
    (awaiting : (n.asks k).phase = .awaiting) (empty : (n.asks k).reply = .empty) :
    n.waiting = some ((n.asks k).request.answerer, k) :=
  (carried.carried k awaiting empty).1

/-- The outcome of an ask that awaits its reply. -/
theorem outcome_empty (awaiting : (s.node.asks k).phase = .awaiting)
    (empty : (s.node.asks k).reply = .empty) : s.outcome k =
      if s.node.link.spent then some (.error routerChanged)
      else (verdict (s.node.asks k).request.answerer s.unheard).or s.ends := by
  simp only [Network.outcome, awaiting, empty]

/-- What the connection task does next leaves the outcome of every ask as it is. -/
theorem outcome_proceed (sane : s.Sane) (moved : s.node.step .proceed = some node) :
    Network.outcome { s with node } k = s.outcome k := by
  have stream := unheard_congr (s := s) (proceed_alike moved).session
  cases node_moves moved with
  -- Neither a WELCOME nor the clean-up moves any ask.
  | named link | raised link | taken link | lowered link =>
    refine outcome_congr rfl ?_ stream
    rw [link]
    rfl
  | failed link =>
    by_cases open_ : (s.node.asks k).phase = .awaiting ∧ (s.node.asks k).reply = .empty
    · -- The call that the session carried is failed.
      rw [outcome_empty open_.1 open_.2, link]
      exact outcome_settled open_.1 (sane.carried.slot open_.1 open_.2) rfl
    · exact outcome_decided (vacate_phase _ k) (sane.coherent.vacate_decided · _)
        fun awaiting empty => open_ ⟨awaiting, empty⟩

/-- Only a session that reads takes what there is to read. -/
theorem sessionRead_link {read : Except Error (Option Frame)} {origin : Option Queued}
    (moved : s.sessionRead read origin = some node) : s.node.link = .reading := by
  -- Both what it dispatches and its end are steps of a session that reads.
  rcases sessionRead_spec moved with ⟨f, _, stepped⟩ | ended
  · cases node_moves stepped with
    | received reading _ => exact reading
  · cases node_moves ended with
    | hungUp reading => exact reading

/-- What a session reads leaves the asks where they are, and the session the current one. -/
theorem sessionRead_alike {read : Except Error (Option Frame)} {origin : Option Queued}
    (moved : s.sessionRead read origin = some node) : s.node.Alike node := by
  rcases sessionRead_spec moved with ⟨f, _, stepped⟩ | ended
  · simp only [Node.step, sessionRead_link moved, Option.some.injEq] at stepped
    rw [← stepped]
    exact receive_alike f origin
  · cases node_moves ended with
    | hungUp _ => exact ⟨rfl, rfl, rfl, fun _ => rfl⟩

/-- What a session reads decides the ask that awaits its reply as its verdict says. -/
theorem outcome_read (awaiting : (s.node.asks k).phase = .awaiting)
    (empty : (s.node.asks k).reply = .empty)
    (taken : s.node.waiting = some ((s.node.asks k).request.answerer, k)) (next : s.next = some q)
    (moved : s.sessionRead q.frame.reread (some q) = some node) :
    Network.outcome { s with node, heard := s.heard + 1 } k =
      (verdict (s.node.asks k).request.answerer s.unheard).or s.ends := by
  have reading := sessionRead_link moved
  obtain ⟨first, ends⟩ := unheard_cons next (sessionRead_alike moved).session
  rw [first, ← ends, verdict]
  rw [sessionRead_reading _ _ reading] at moved
  cases read : q.frame.reread with
  | ok whole =>
    cases whole with
    | some f =>
      rw [read] at moved
      cases moved
      rcases receive_slot reading taken with ⟨result, decides, emptied⟩ | ⟨silent, asks, link⟩
      · -- The first answer is what it returns.
        rw [outcome_settled awaiting taken (congrArg Node.asks emptied)]
        simp only [decides, Option.some_or]
      · -- A frame that does not answer it leaves the rest to decide.
        have spent : (s.node.receive f (some q)).link.spent = false := by
          rcases link with link | link <;> rw [link] <;> rfl
        rw [outcome_empty (by rw [asks]; exact awaiting) (by rw [asks]; exact empty), spent, asks]
        simp only [silent, Option.none_or]
        rfl
    -- What cannot be read ends the session, and the ask fails with it.
    | none =>
      rw [read] at moved
      cases moved
      exact outcome_empty awaiting empty
  | error e =>
    rw [read] at moved
    cases moved
    exact outcome_empty awaiting empty

/-- What a session reads leaves the outcome of every ask as it is. -/
theorem outcome_hear (sane : s.Sane) (next : s.next = some q)
    (moved : s.sessionRead q.frame.reread (some q) = some node) :
    Network.outcome { s with node, heard := s.heard + 1 } k = s.outcome k := by
  by_cases open_ : (s.node.asks k).phase = .awaiting ∧ (s.node.asks k).reply = .empty
  -- The ask that waits is decided by this frame, or by those behind it.
  · obtain ⟨awaiting, empty⟩ := open_
    rw [outcome_read awaiting empty (sane.carried.slot awaiting empty) next moved,
      outcome_empty awaiting empty, sessionRead_link moved]
    rfl
  -- Any other ask has what it returns, or waits for nothing yet.
  · have decided : (s.node.asks k).phase = .awaiting → (s.node.asks k).reply ≠ .empty :=
      fun awaiting empty => open_ ⟨awaiting, empty⟩
    rcases sessionRead_spec moved with ⟨f, _, stepped⟩ | ended
    · cases node_moves stepped with
      | received _ dispatched =>
        cases dispatched with
        | welcome | ignored => exact outcome_decided rfl (fun _ => rfl) decided
        | settled =>
          exact outcome_decided (vacate_phase _ k) (sane.coherent.vacate_decided · _) decided
    · cases node_moves ended with
      | hungUp _ => exact outcome_decided rfl (fun _ => rfl) decided

/-- An ask takes the answer that it was given. -/
theorem outcome_finish (moved : s.node.step (.finish k) = some node) :
    Network.outcome { s with node } k = s.outcome k := by
  -- What it returns is what it was given, or the failure of a sender that was dropped.
  cases node_moves moved with
  | finished awaiting answered =>
    simp only [Network.outcome, goOn_self, awaiting, answered]
  | orphaned awaiting closed =>
    simp only [Network.outcome, goOn_self, awaiting, closed]

/-- What the writer task writes it would have come to write. -/
theorem outcome_write (seat : s.seat = some c) (writes : (s.router.conns c).writes = true) :
    Network.outcome { s with written := s.written + 1 } k = s.outcome k := by
  -- A frame moves from the channel to the stream, and both are yet to be read.
  refine outcome_congr rfl rfl ⟨?_, rfl⟩
  have same : Network.seat { s with written := s.written + 1 } = some c := seat
  simp only [Network.unheard, seat, same, writes, if_true]

/-- A connection that the router is done with writes nothing more. -/
theorem returned_writes {conn : Conn} (returned : conn.phase.isReturned = true) :
    conn.writes = false := by
  -- `handle` aborts the writer task as it returns.
  unfold Conn.writes
  cases phase : conn.phase <;> simp [phase, Phase.isReturned] at returned ⊢

/-- The end of a session's stream is what its ask fails for, if nothing came before. -/
theorem outcome_close (seat : s.seat = some c)
    (returned : (s.router.conns c).phase.isReturned = true) (next : s.next = none)
    (moved : s.node.step .hangUp = some node) :
    Network.outcome { s with node } k = s.outcome k := by
  cases node_moves moved with
  | hungUp reading =>
    by_cases open_ : (s.node.asks k).phase = .awaiting ∧ (s.node.asks k).reply = .empty
    · -- Nothing is on the stream, and nothing more comes to be.
      have unheard : s.unheard = [] := by
        simp only [Network.unheard, seat, returned_writes returned]
        exact List.head?_eq_none_iff.mp next
      have ends : s.ends = some (.error routerChanged) := by
        simp only [Network.ends, Network.returned, seat, returned, if_true]
      rw [outcome_empty open_.1 open_.2, reading, unheard, ends]
      exact outcome_empty (s := { s with node := { s.node with link := .ended } }) open_.1 open_.2
    · exact outcome_decided rfl (fun _ => rfl) fun awaiting empty => open_ ⟨awaiting, empty⟩

/-- While nothing else happens, an ask's outcome stays the same. -/
theorem outcome_kept {a : NetworkAction} (sane : s.Sane) (reads : a.reads k)
    (enabled : s.step hello a = some t) : t.outcome k = s.outcome k := by
  cases a with
  | write =>
    obtain ⟨c, seat, moved⟩ := Option.bind_eq_some_iff.mp enabled
    obtain ⟨⟨writes, _⟩, moved⟩ := Option.ite_none_right_eq_some.mp moved
    cases moved
    exact outcome_write seat writes
  | hear =>
    obtain ⟨q, next, moved⟩ := Option.bind_eq_some_iff.mp enabled
    obtain ⟨node, read, rfl⟩ := Option.map_eq_some_iff.mp moved
    exact outcome_hear sane next read
  | close =>
    obtain ⟨c, seat, moved⟩ := Option.bind_eq_some_iff.mp enabled
    obtain ⟨⟨returned, next⟩, moved⟩ := Option.ite_none_right_eq_some.mp moved
    obtain ⟨node, ended, rfl⟩ := Option.map_eq_some_iff.mp moved
    exact outcome_close seat returned next ended
  -- Of the node's own steps only two are counted.
  | node m =>
    obtain ⟨_, moved⟩ := Option.ite_none_left_eq_some.mp enabled
    obtain ⟨node, stepped, rfl⟩ := Option.map_eq_some_iff.mp moved
    cases m with
    | proceed => exact outcome_proceed sane stepped
    | finish j =>
      cases reads
      exact outcome_finish stepped
    | _ => exact absurd reads id
  | _ => exact absurd reads id

/-- Whether an ask has yet to take its answer. -/
def AskPhase.left : AskPhase → Nat
  | .awaiting => 1
  | _ => 0

/-- How many frames of its connection's channel are not on the session's stream. -/
def Network.unwritten (s : Network) : Nat :=
  match s.seat with
  | none => 0
  | some c => (s.router.queues c).length - s.written

/-- How much is left to do before an ask returns: what to write, to read, to go on with and to
take. -/
def Network.left (s : Network) (k : AskId) : Nat :=
  3 * s.unheard.length + s.unwritten + s.node.link.rank + (s.node.asks k).phase.left

/-- A node that goes on leaves as much to write as there was. -/
theorem unwritten_congr (heard : Nat) (session : node.session = s.node.session) :
    Network.unwritten { s with node, heard } = s.unwritten := by
  simp only [Network.unwritten, Network.seat, session]

/-- The connection task that waits for nobody goes on. -/
theorem proceeds (hello : Frame) (undialed : s.node.link ≠ .dialing)
    (unread : s.node.link ≠ .reading) :
    ∃ t, s.step hello (.node .proceed) = some t ∧ t.left k < s.left k := by
  -- The task comes nearer to dialing, and nothing else changes.
  obtain ⟨node, moved, nearer⟩ := proceeds_nearer undialed unread
  have alike := proceed_alike moved
  refine ⟨{ s with node }, by simp [Network.step, NodeAction.external, moved], ?_⟩
  have unwritten := unwritten_congr s.heard alike.session
  simp only [Network.left, (unheard_congr alike.session).1, unwritten, alike.phases]
  omega

/-- A session that has something to read reads it. -/
theorem hears_nearer (hello : Frame) (reading : s.node.link = .reading)
    (next : s.next = some q) :
    ∃ t, s.step hello .hear = some t ∧ t.left k < s.left k := by
  obtain ⟨node, enabled, _, alike⟩ := hears hello reading next
  refine ⟨_, enabled, ?_⟩
  -- A WELCOME takes the connection task two steps from reading again, and a frame counts for three.
  have shorter := congrArg List.length (unheard_cons next alike.session).1
  have far : node.link.rank ≤ 6 := by cases node.link <;> simp [Link.rank]
  have four : s.node.link.rank = 4 := by rw [reading]; rfl
  have unwritten := unwritten_congr (s.heard + 1) alike.session
  simp only [Network.left, unwritten, alike.phases, List.length_cons] at shorter ⊢
  omega

/-- A writer task that has something to write writes it. -/
theorem writes_nearer (hello : Frame) (seat : s.seat = some c)
    (writes : (s.router.conns c).writes = true)
    (more : s.written < (s.router.queues c).length) :
    ∃ t, s.step hello .write = some t ∧ t.left k < s.left k := by
  -- There is one frame less to write, and as many to read as before.
  refine ⟨{ s with written := s.written + 1 }, ?_, ?_⟩
  · rw [Network.step, seat, Option.bind_some, if_pos ⟨writes, more⟩]
  · have same : Network.seat { s with written := s.written + 1 } = some c := seat
    simp only [Network.left, Network.unheard, Network.unwritten, seat, same, writes, if_true]
    omega

/-- A session that the router is done with, and that has read all there was, ends. -/
theorem closes_nearer (hello : Frame) (reading : s.node.link = .reading)
    (seat : s.seat = some c)
    (returned : (s.router.conns c).phase.isReturned = true) (next : s.next = none) :
    ∃ t, s.step hello .close = some t ∧ t.left k < s.left k := by
  -- The session has ended, which is one step nearer to dialing.
  refine ⟨_, closes hello reading seat returned next, ?_⟩
  have four : s.node.link.rank = 4 := by rw [reading]; rfl
  have three : Link.rank .ended = 3 := rfl
  have session : Node.session { s.node with link := .ended } = s.node.session := rfl
  have unheard := (unheard_congr session).1
  have unwritten := unwritten_congr s.heard session
  simp only [Network.left, unheard, unwritten, three, four]
  omega

/-- An ask that has its reply takes it. -/
theorem finishes (hello : Frame) (awaiting : (s.node.asks k).phase = .awaiting)
    (replied : (s.node.asks k).reply ≠ .empty) :
    ∃ t, s.step hello (.node (.finish k)) = some t ∧ t.left k < s.left k := by
  obtain ⟨node, moved⟩ : ∃ node, s.node.step (.finish k) = some node := by
    cases reply : (s.node.asks k).reply <;> simp [Node.step, awaiting, reply] at replied ⊢
  -- Taking the reply touches neither the session nor the slot.
  have nearer : node.session = s.node.session ∧ node.link = s.node.link ∧
      (node.asks k).phase.left = 0 := by
    cases node_moves moved with
    | finished | orphaned => exact ⟨rfl, rfl, by simp only [goOn_self, AskPhase.left]⟩
  obtain ⟨session, link, phase⟩ := nearer
  refine ⟨{ s with node }, by simp [Network.step, NodeAction.external, moved], ?_⟩
  have one : (s.node.asks k).phase.left = 1 := by
    rw [awaiting]
    rfl
  have unwritten := unwritten_congr s.heard session
  simp only [Network.left, (unheard_congr session).1, unwritten, link, phase, one]
  omega

/-- What a session comes to read is on its stream, or is written there next. -/
theorem unheard_next (unread : s.next = none) (first : s.unheard ≠ []) :
    ∃ c, s.seat = some c ∧ (s.router.conns c).writes = true ∧
      s.written < (s.router.queues c).length := by
  have nothing : s.unread = [] := List.head?_eq_none_iff.mp unread
  unfold Network.unheard at first
  -- Without a connection there is nothing to read.
  cases seat : s.seat with
  | none => exact absurd (by rw [seat]) first
  | some c =>
    rw [seat] at first
    dsimp only at first
    split at first
    · rename_i writes
      refine ⟨c, rfl, writes, ?_⟩
      -- If all were written, all would be read.
      by_contra all
      rw [Network.unread, seat] at nothing
      dsimp only at nothing
      rw [List.take_of_length_le (Nat.le_of_not_lt all)] at nothing
      exact first nothing
    · exact absurd nothing first

/-- A session that reads, and whose ask has an outcome, can read, be written to or end. -/
theorem reading_goes (reading : s.node.link = .reading) {who : String}
    (outcome : (verdict who s.unheard).or s.ends = some result) :
    ∃ a t, a.reads k ∧ s.step hello a = some t ∧ t.left k < s.left k := by
  cases next : s.next with
  -- What is on the stream is read first.
  | some q =>
    obtain ⟨t, enabled, nearer⟩ := hears_nearer (k := k) hello reading next
    exact ⟨.hear, t, trivial, enabled, nearer⟩
  | none =>
    by_cases unheard : s.unheard = []
    · -- Nothing decides the ask but the end of its session.
      rw [unheard, verdict, Option.none_or] at outcome
      unfold Network.ends Network.returned at outcome
      obtain ⟨returned, _⟩ := Option.ite_none_right_eq_some.mp outcome
      cases seat : s.seat with
      | none =>
        rw [seat] at returned
        cases returned
      | some c =>
        rw [seat] at returned
        obtain ⟨t, enabled, nearer⟩ :=
          closes_nearer (k := k) hello reading seat returned next
        exact ⟨.close, t, trivial, enabled, nearer⟩
    -- What has yet to be written is written next.
    · obtain ⟨c, seat, writes, more⟩ := unheard_next next unheard
      obtain ⟨t, enabled, nearer⟩ := writes_nearer (k := k) hello seat writes more
      exact ⟨.write, t, trivial, enabled, nearer⟩

/-- While an ask has an outcome that it has yet to return, something is left that can be done. -/
theorem outcome_goes (sane : s.Sane) (outcome : s.outcome k = some result) :
    (s.node.asks k).phase = .returned result ∨
    ∃ a t, a.reads k ∧ s.step hello a = some t ∧ t.left k < s.left k := by
  cases phase : (s.node.asks k).phase with
  -- An ask that has returned has nothing left to do.
  | returned other =>
    simp only [Network.outcome, phase, Option.some.injEq] at outcome
    exact .inl (by rw [outcome])
  | awaiting =>
    right
    by_cases replied : (s.node.asks k).reply = .empty
    · by_cases reading : s.node.link = .reading
      · rw [outcome_empty phase replied, reading] at outcome
        exact reading_goes reading outcome
      · -- A session that serves the ask is not over, or the task goes on to fail the ask.
        obtain ⟨_, _, serves⟩ := sane.carried.carried k phase replied
        obtain ⟨t, enabled, nearer⟩ := proceeds (k := k) hello serves reading
        exact ⟨.node .proceed, t, trivial, enabled, nearer⟩
    -- An ask that has its reply takes it.
    · obtain ⟨t, enabled, nearer⟩ := finishes hello phase replied
      exact ⟨.node (.finish k), t, rfl, enabled, nearer⟩
  | _ => simp [Network.outcome, phase] at outcome

/-- An ask that has an outcome comes to return it. -/
theorem leads_outcome (reached : NetworkReachable hello host door id s)
    (outcome : s.outcome k = some result) :
    Leads (NetworkAction.reads k) (Network.step hello) s fun t =>
      (t.node.asks k).phase = .returned result := by
  -- Something is left to do until it returns, and what is left gets less.
  refine Leads.descends (fun t => NetworkReachable hello host door id t ∧
    t.outcome k = some result) (Network.left · k) ?_ ⟨reached, outcome⟩
  rintro t ⟨reach, same⟩
  rcases outcome_goes reach.sane same with returned | ⟨a, u, reads, enabled, nearer⟩
  · exact .inl returned
  · exact .inr ⟨a, u, reads, enabled,
      ⟨reach.next enabled, (outcome_kept reach.sane reads enabled).trans same⟩, nearer⟩

/-- From every reachable state, an ask returns a result by its session's reading alone exactly if
the first of the frames under way to it that decides it decides that. -/
theorem returns_first (reached : NetworkReachable hello host door id s) (k : AskId)
    (result : Except Error Frame) :
    Leads (NetworkAction.reads k) (Network.step hello) s
      (fun t => (t.node.asks k).phase = .returned result) ↔ s.outcome k = some result := by
  refine ⟨?_, leads_outcome reached⟩
  rintro ⟨actions, t, reads, ran, returned⟩
  -- The outcome of the ask is the same all along.
  have kept : NetworkReachable hello host door id t ∧ t.outcome k = s.outcome k := by
    refine run_invariant_kind (P := fun t => NetworkReachable hello host door id t ∧
      t.outcome k = s.outcome k) ?_ ⟨reached, rfl⟩ reads ran
    rintro t a u read ⟨reach, same⟩ enabled
    exact ⟨reach.next enabled, (outcome_kept reach.sane read enabled).trans same⟩
  rw [← kept.2]
  simp only [Network.outcome, returned]

/-- Presence comes first, which decides nothing, and then the list that the node asked for. -/
theorem returns_first_list : ∃ s : Network,
    NetworkReachable someHello "dgx" (fun _ => false) "cli/n" s ∧ s.unheard.length = 2 ∧
    Leads (NetworkAction.reads 0) (Network.step someHello) s fun t =>
      (t.node.asks 0).phase = .returned (.ok (Frame.new PROVIDERS "zapd" "cli/dgx/n"
        (encodeProviders [⟨"cli/dgx/n", ⟨0, "", [], []⟩⟩, ⟨"agent/dgx/m", ⟨1, "", [], []⟩⟩]))) := by
  -- Another node joins while the list is asked for, so its presence is queued first.
  have ran : (run (Network.step someHello) (Network.initial "dgx" (fun _ => false) "cli/n")
      (seated 0 ++ (joins 1 "agent/m").map .router ++ [.carry 0,
        .router (.snapshot 0 [⟨"cli/dgx/n", ⟨0, "", [], []⟩⟩, ⟨"agent/dgx/m", ⟨1, "", [], []⟩⟩]),
        .router (.advance 0)])).map (fun s => decide (s.unheard.length = 2 ∧
          s.outcome 0 = some (.ok (Frame.new PROVIDERS "zapd" "cli/dgx/n" (encodeProviders
            [⟨"cli/dgx/n", ⟨0, "", [], []⟩⟩, ⟨"agent/dgx/m", ⟨1, "", [], []⟩⟩]))))) =
      some true := by decide +kernel
  obtain ⟨s, ran, facts⟩ := Option.map_eq_some_iff.mp ran
  obtain ⟨two, outcome⟩ := of_decide_eq_true facts
  exact ⟨s, ⟨_, ran⟩, two, (returns_first ⟨_, ran⟩ 0 _).mpr outcome⟩

/-- The node and its connection, and the callee's connection, which reads this answer. -/
def NetworkAction.With (c b : ConnId) (f : Frame) (a : NetworkAction) : Prop :=
  NetworkAction.By c a ∨ a = .router (.read b (.ok (some f))) ∨ a = .router (.advance b)

/-- An answer that a connection reads while a call to it is out is what the call returns. -/
theorem leads_returned {t : Network} {c b : ConnId} {f : Frame} {name to_ : String}
    {payload : Bytes} (reached : NetworkReachable hello host door id t)
    (out : Network.Out s t c k name to_ payload) (other : to_ ≠ name) (named : name ≠ "")
    (callee : t.router.Live to_ b) (relaying : (t.router.conns b).phase = .relaying)
    (apart : b ∉ t.own) (response : f.typ = RESPONSE) (back : f.to_ = name)
    (fits : { f with from_ := to_ }.Fits) :
    Leads (NetworkAction.With c b f) (Network.step hello) t fun u =>
      (u.node.asks k).called = some (.ok f.payload) := by
  obtain ⟨read, final, reads, goes, _, _, conns, _, _, queues⟩ :=
    forwards (r := t.router) relaying (by rw [back]; exact named)
  -- The callee's connection reads the answer, and sends it on by its id.
  have first : Network.step hello t (.router (.read b (.ok (some f)))) =
      some { t with router := read } := by
    simp [Network.step, Action.speaksFor, apart, reads]
  have second : Network.step hello { t with router := read } (.router (.advance b)) =
      some { t with router := final } := by
    simp [Network.step, Action.speaksFor, goes]
  refine Leads.cons (.inr (.inl rfl)) first (Leads.cons (.inr (.inr rfl)) second ?_)
  have reach : NetworkReachable hello host door id { t with router := final } :=
    (reached.next first).next second
  -- The answer is all that the session has yet to read, and its writer task runs.
  have sender : (t.router.conns b).id = to_ := (reached.router.wellFormed.holder_id callee.held).1
  have apart' : c ≠ b := by
    rintro rfl
    exact apart (by rw [Network.own, out.seats]; exact List.mem_cons_self)
  have writes : (final.conns c).writes = true := by
    rw [conns c apart']
    exact out.writes
  have unheard : Network.unheard { t with router := final } =
      [⟨{ f with from_ := to_ }, .relayed b (t.router.conns b).received.length⟩] := by
    have seat : Network.seat { t with router := final } = some c := by
      rw [Network.seat, out.seats]
      exact List.lookup_cons_self
    simp only [Network.unheard, seat, writes, if_true]
    rw [queues, out.read other, List.drop_left, back, sender]
    exact if_pos ⟨out.live.held, out.live.writer⟩
  -- It answers the call that is in the slot.
  have outcome : Network.outcome { t with router := final } k =
      some (.ok { f with from_ := to_ }) := by
    obtain ⟨answerer, _, empty⟩ := reached.sane.coherent.slot to_ k out.waiting
    rw [outcome_empty (s := { t with router := final }) out.awaiting empty, unheard]
    simp only [out.link, Link.spent, verdict, reread_fits fits, ← answerer]
    simp [Frame.answersTo, Frame.answers, response, RESPONSE, PROVIDERS]
  refine ((leads_outcome reach outcome).kinds fun a reads => .inl reads.by).imp
    fun _ u _ _ returned => ?_
  rw [Ask.called, returned]
  rfl

/-- From every state of a router and a node in which the node has no session, or one whose
connection the router is done with, whatever the asks were doing: once the router accepts one more
connection, the node's next call returns what the callee, registered before and after, answers,
without a step of anybody else. -/
theorem call_returns {desc : Descriptor} {hostname name to_ : String} {payload : Bytes}
    {c b : ConnId} {f : Frame} (reached : NetworkReachable hello (label hostname) door id s)
    (parted : s.Parted) (good : Registrable hello (label hostname) name desc)
    (waits : (s.router.conns c).phase = .hello) (may : (s.router.conns c).takeOver = true)
    (unused : c ∉ s.own) (idle : (s.node.asks k).phase = .idle)
    (fits : (Request.call to_ payload).frame.Fits) (callee : s.router.Live to_ b)
    (relaying : (s.router.conns b).phase = .relaying) (apart : b ∉ s.own) (other : to_ ≠ name)
    (response : f.typ = RESPONSE) (back : f.to_ = name) (whole : { f with from_ := to_ }.Fits) :
    Leads (NetworkAction.With c b f) (Network.step hello) s fun t =>
      (t.node.asks k).called = some (.ok f.payload) := by
  have wf := reached.router.wellFormed
  -- Whoever waits for its HELLO is registered under no id, and so is not the callee.
  have differs : b ≠ c := by
    rintro rfl
    exact wf.holds_nothing (by rw [waits]; rfl) to_ callee.held
  have addressed : to_ ≠ "" := by
    -- A registered id is a stamped one.
    obtain ⟨proposed, stamped⟩ := wf.genuine to_ b
      ((wf.holder_id callee.held).1 ▸ wf.holder_claimed callee.held)
    exact stamp_ne_empty stamped
  -- First the call is delivered, and then the callee answers.
  have out := leads_again reached parted good waits may unused idle addressed fits
  refine (out.kinds fun a own => .inl own).trans fun t ⟨reach, out⟩ => ?_
  have still : t.router.conns b = s.router.conns b := out.conns b differs
  -- Neither the callee's id nor its connection changed meanwhile.
  refine leads_returned reach out other (stamp_ne_empty good.stamped) ⟨?_, ?_⟩ ?_ ?_ response back
    whole
  · rw [holder, out.others to_ other]
    exact callee.held
  · rw [still]
    exact callee.writer
  · rw [still]
    exact relaying
  · rw [Network.own, out.seats]
    intro own
    rcases List.mem_cons.mp own with same | own
    · exact differs same
    · exact apart own

/-- The callee's answer to the first call of a node that has yet to dial. -/
def someAnswer : Frame := Frame.new RESPONSE "" "cli/dgx/n" [9]

/-- The first call of a node returns what another node answers. -/
theorem call_returns_first : ∃ s : Network,
    NetworkReachable someHello (label "dgx") (fun _ => false) "cli/n" s ∧
    Leads (NetworkAction.With 0 1 someAnswer) (Network.step someHello) s fun t =>
      (t.node.asks 7).called = some (.ok [9]) := by
  have ran : (run (Network.step someHello)
      (Network.initial (label "dgx") (fun _ => false) "cli/n")
      ((joins 1 "agent/m").map .router)).map (fun s => decide
        (holder s.router.peers "agent/dgx/m" = some 1 ∧ (s.router.conns 1).writer = true ∧
          (s.router.conns 1).phase.isRelaying = true ∧ (s.router.conns 0).phase.isHello = true ∧
          (s.router.conns 0).takeOver = true ∧ s.own = [] ∧ s.node.link.over = true ∧
          (s.node.asks 7).phase = .idle)) =
      some true := by decide +kernel
  obtain ⟨s, ran, facts⟩ := Option.map_eq_some_iff.mp ran
  obtain ⟨held, writer, relays, waits, may, none_, closed, idle⟩ := of_decide_eq_true facts
  have hello : (s.router.conns 0).phase = .hello := by
    cases phase : (s.router.conns 0).phase <;> simp [phase, Phase.isHello] at waits ⊢
  have relaying : (s.router.conns 1).phase = .relaying := by
    cases phase : (s.router.conns 1).phase <;> simp [phase, Phase.isRelaying] at relays ⊢
  have good : Registrable someHello (label "dgx") "cli/dgx/n" ⟨0, "", [], []⟩ :=
    ⟨by decide, rfl, by decide, by decide⟩
  -- Both the call and its answer fit into a frame.
  have fits : (Request.call "agent/dgx/m" [1, 2, 3]).frame.Fits := by decide
  exact ⟨s, ⟨_, ran⟩, call_returns (f := someAnswer) ⟨_, ran⟩ (.inl closed) good hello may
    (by simp [none_]) idle fits ⟨held, writer⟩ relaying (by simp [none_]) (by decide) rfl rfl
    (by decide)⟩

end Zapd
