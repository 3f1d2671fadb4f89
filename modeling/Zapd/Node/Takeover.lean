import Zapd.Node.Cluster

/-! When the router's process is gone another takes over, and the node's next call gets out. -/

namespace Zapd

open Transition Utf8

variable {hello : Frame} {hostname name : String} {door : Pid → ConnId → Bool} {home : Pid}
  {id : String} {s : Cluster} {p q : Pid} {d : DialId} {c : ConnId} {k : AskId}

/-- Steps of one candidate, of one dial, of one connection to the candidate, of the node and of the
streams it reads. -/
def ClusterAction.By (q : Pid) (d : DialId) (c : ConnId) : ClusterAction → Prop
  | .elect a => a.candidate = some q ∨ a.dial = some d
  | .node a => a.inner
  | .join e b => e = d ∧ b = c
  | .serve p a => a = .hear ∨ a = .close ∨ p = q ∧ a.By c
  | .lose => True

/-- The node goes on, and reads its stream to the end. -/
def ClusterAction.ofNode : ClusterAction → Prop
  | .node a => a.inner
  | .serve _ a => a = .hear ∨ a = .close
  | .lose => True
  | .elect _ | .join .. => False

/-- What the node does by itself is among the steps that are counted. -/
theorem ClusterAction.ofNode.by {a : ClusterAction} (own : a.ofNode) : a.By q d c := by
  cases a with
  | node a => exact own
  | serve p a => exact own.imp_right .inl
  | lose => trivial
  | elect | join => exact own.elim

/-- A candidate's own steps leave every dial as it is, and every process alive that was. -/
theorem candidate_keeps {s s' : Election} {a : ElectAction} (own : a.candidate = some p)
    (enabled : s.step a = some s') :
    s'.dials = s.dials ∧ ∀ q, (s'.procs q).life = (s.procs q).life := by
  -- No step of a candidate starts or ends a process.
  have same : ∀ p proc, proc.life = (s.procs p).life →
      ∀ q, ((s.setProc p proc).procs q).life = (s.procs q).life := fun p proc own =>
    forall_setProc (P := fun q proc => proc.life = (s.procs q).life) own fun _ _ => rfl
  cases elects_of_step enabled with
  | moved | locked | elected | resigned | unlocked => exact ⟨rfl, same _ _ rfl⟩
  -- The steps of others are no candidate's.
  | meddled rogue => rcases rogue with rfl | rfl <;> cases own
  | evaluated asks => rcases asks with rfl | rfl <;> cases own
  | spawned | exited | connected | asking | said => cases own

/-- What the processes do among themselves leaves routers and node as they are. -/
theorem lift_elect {actions : List ElectAction} {election : Election}
    (ran : run Election.step s.election actions = some election) :
    run (Cluster.step hello) s (actions.map .elect) = some { s with election } := by
  -- Each step of the election is one step of the whole.
  have lifts : ∀ election, ∀ a ∈ actions, Cluster.step hello { s with election } (.elect a) =
      (Election.step election a).map fun election => { s with election } := fun _ _ _ => rfl
  refine (run_lift ClusterAction.elect (fun election => { s with election }) lifts
    s.election).trans ?_
  rw [ran]
  rfl

/-- What a dial leads to among the processes it leads to with their routers and the node. -/
theorem lift_leads {P : Election → Prop}
    (leads : Leads (fun a => a.dial = some d) Election.step s.election P) :
    Leads (ClusterAction.By q d c) (Cluster.step hello) s fun t =>
      ∃ election, P election ∧ t = { s with election } := by
  obtain ⟨actions, election, own, ran, holds⟩ := leads
  refine ⟨_, _, fun a member => ?_, lift_elect ran, election, holds, rfl⟩
  obtain ⟨b, among, rfl⟩ := List.mem_map.mp member
  exact .inr (own b among)

/-- The process serves, and a dial of the node's process returned a stream to it, over which there
is no session as long as the connection has none. -/
structure Cluster.Offers (s : Cluster) (q : Pid) (d : DialId) (c : ConnId) : Prop where
  serves : s.election.Serves q
  lives : s.lives = true
  joined : (s.election.dials d).phase = .joined q
  caller : (s.election.dials d).caller = s.home
  unsaid : c ∉ (s.view q).own → ∀ h ∈ s.election.hellos, h.1 ≠ d

/-- What a step of one router and the node is among all processes. -/
def NetworkAction.lift (q : Pid) (d : DialId) : NetworkAction → ClusterAction
  | .node a => .node a
  | .dial c => .join d c
  | .router a => .serve q (.router a)
  | .greet c => .serve q (.greet c)
  | .carry i => .serve q (.carry i)
  | .write => .serve q .write
  | .hear => .serve q .hear
  | .hearRefusal i => .serve q (.hearRefusal i)
  | .close => .serve q .close

/-- A session begins only by a dial. -/
theorem network_seats {s s' : Network} {a : NetworkAction} (enabled : s.step hello a = some s')
    (undialed : ∀ c, a ≠ .dial c) : s'.seats = s.seats := by
  cases network_moves enabled with
  | dialed _ _ => exact absurd rfl (undialed _)
  | _ => rfl

/-- What a router and the node come to is what they are then among all processes. -/
theorem put_view {t : Network} (seats : t.seats = (s.view q).seats) :
    (s.put q t).view q = t := by
  obtain ⟨router, node, seated, written, heard⟩ := t
  subst seats
  simp [Cluster.put, Cluster.view]

/-- A step of the router that serves, and of the node, is one among all processes. -/
theorem Cluster.Offers.step (offers : s.Offers q d c) {a : NetworkAction} (own : a.By c)
    {t : Network} (enabled : (s.view q).step hello a = some t) :
    ∃ u, s.step hello (a.lift q d) = some u ∧ u.view q = t ∧ u.Offers q d c ∧
      (a.lift q d).By q d c := by
  have stands : s.election.stands q .serving = true :=
    stands_iff.mpr ⟨offers.serves.alive, offers.serves.stand⟩
  -- Steps that begin no session change nothing of the election.
  have served : (∀ c, a ≠ .dial c) → s.allows q a = true →
      ∃ u, s.step hello (.serve q a) = some u ∧ u.view q = t ∧ u.Offers q d c := by
    intro undialed allowed
    have same := put_view (network_seats enabled undialed)
    have moved : s.step hello (.serve q a) = some (s.put q t) := by
      rw [Cluster.step, if_pos allowed, enabled]
      rfl
    refine ⟨_, moved, same, offers.serves, offers.lives, offers.joined, offers.caller, ?_⟩
    rw [same, Network.own, network_seats enabled undialed]
    exact offers.unsaid
  cases a with
  | node a =>
    -- The node goes on by itself, while its process lives.
    obtain ⟨inside, moved⟩ := Option.ite_none_left_eq_some.mp enabled
    obtain ⟨node, stepped, rfl⟩ := Option.map_eq_some_iff.mp moved
    have goes : s.step hello (.node a) = some { s with node } := by
      have may : (s.lives && !a.external) = true := by simp [offers.lives, inside]
      rw [Cluster.step, if_pos may]
      exact congrArg (Option.map _) stepped
    exact ⟨_, goes, rfl, ⟨offers.serves, offers.lives, offers.joined, offers.caller,
      offers.unsaid⟩, own⟩
  | dial b =>
    -- The stream of the dial becomes the session, and HELLO is said on it.
    cases own
    obtain ⟨⟨_, _, unused⟩, moved⟩ := Option.ite_none_right_eq_some.mp enabled
    obtain ⟨node, stepped, rfl⟩ := Option.map_eq_some_iff.mp moved
    let election : Election := { s.election with hellos := (d, q) :: s.election.hellos }
    have said : s.election.step (.hello d) = some election := by
      have alive := offers.lives
      simp only [Cluster.lives, ← offers.caller, decide_eq_true_eq] at alive
      simp [Election.step, offers.joined, alive, election]
    have first : s.election.hellos.all (·.1 ≠ d) = true := by
      rw [List.all_eq_true]
      exact fun h member => decide_eq_true (offers.unsaid unused h member)
    let joined : Cluster := { s with
      election, node, written := 0, heard := 0, seats := (node.session, q, c) :: s.seats }
    have joins : s.step hello (.join d c) = some joined := by
      simp only [Cluster.step, offers.joined, offers.caller, first, decide_true, Bool.and_self,
        if_true, said, Option.bind_some, stands, enabled]
      rfl
    have serves : election.Serves q :=
      ⟨offers.serves.alive, offers.serves.stand, offers.serves.flag, offers.serves.lock⟩
    refine ⟨joined, joins, ?_, ⟨serves, offers.lives, offers.joined, offers.caller, ?_⟩,
      rfl, rfl⟩
    · simp [joined, Cluster.view]
    · -- The connection has the session now.
      intro unseated
      exact absurd (by simp [joined, Cluster.view, Network.own]) unseated
  -- The router's tasks run while it serves.
  | router | greet | carry | write =>
    obtain ⟨u, moved, same, offers⟩ := served (fun _ same => by cases same) stands
    exact ⟨u, moved, same, offers, .inr (.inr ⟨rfl, own⟩)⟩
  -- The node reads its stream while it lives.
  | hear | close =>
    obtain ⟨u, moved, same, offers'⟩ := served (fun _ same => by cases same) offers.lives
    exact ⟨u, moved, same, offers', .inr (.inr ⟨rfl, own⟩)⟩
  | hearRefusal i => exact own.elim

/-- What the router that serves and the node can do they can do among all processes. -/
theorem Cluster.Offers.leads (offers : s.Offers q d c) {P : Network → Prop}
    (leads : Leads (NetworkAction.By c) (Network.step hello) (s.view q) P) :
    Leads (ClusterAction.By q d c) (Cluster.step hello) s fun u =>
      u.election.Serves q ∧ P (u.view q) := by
  obtain ⟨actions, t, own, ran, holds⟩ := leads
  -- Step by step, with the offer still standing.
  induction actions generalizing s with
  | nil =>
    cases ran
    exact Leads.now ⟨offers.serves, holds⟩
  | cons a rest ih =>
    obtain ⟨next, enabled, tail⟩ := run_cons_eq_some.mp ran
    obtain ⟨first, later⟩ := List.forall_mem_cons.mp own
    obtain ⟨u, moved, rfl, still, allowed⟩ := offers.step first enabled
    exact Leads.cons allowed moved (ih still later tail)

/-- A process comes to serve, and a new dial of the node's process returns a stream to it. -/
theorem leads_offers (reached : ClusterReachable hello hostname door home id s)
    (candidate : (s.election.procs p).stand ≠ .out) (lives : s.lives = true)
    (idle : (s.election.dials d).phase = .idle) :
    ∃ q, ∀ c, Leads (ClusterAction.By q d c) (Cluster.step hello) s fun t =>
      t.Offers q d c ∧ ∃ election, t = { s with election } := by
  -- First the election comes to its end, and then the dial.
  have guarded := reached.election
  have sound := Election.Sound.reachable guarded.reachable
  obtain ⟨q, actions, elected, own, ran, serves⟩ :=
    (Election.Live.reachable guarded.reachable).completes sound candidate
  refine ⟨q, fun c => ?_⟩
  -- What the candidate does by itself leaves the node's process and its dials alone.
  have kept : elected.dials = s.election.dials ∧
      ∀ p, (elected.procs p).life = (s.election.procs p).life := by
    refine run_invariant_kind (P := fun e => e.dials = s.election.dials ∧
      ∀ p, (e.procs p).life = (s.election.procs p).life) ?_ ⟨rfl, fun _ => rfl⟩ own ran
    intro e a e' candidate ⟨dials, lives⟩ enabled
    obtain ⟨same, alike⟩ := candidate_keeps candidate enabled
    exact ⟨same.trans dials, fun p => (alike p).trans (lives p)⟩
  obtain ⟨dials, lived⟩ := kept
  have first : ∀ a ∈ actions.map ClusterAction.elect, a.By q d c := by
    intro a member
    obtain ⟨b, among, rfl⟩ := List.mem_map.mp member
    exact .inl (own b among)
  refine Leads.trans ⟨_, _, first, lift_elect ran, rfl⟩ fun t same => ?_
  subst same
  -- The run that came to serve tampered with nothing either.
  have after := guarded.run (fun _ a member => untampered_candidate (own a member)) ran
  have sound := Election.Sound.reachable after.reachable
  -- The dial is as idle as it was, and its process as alive.
  have still : (elected.dials d).phase = .idle := by
    rw [dials]
    exact idle
  have alive : (elected.procs s.home).life = .alive := by
    rw [lived]
    exact of_decide_eq_true lives
  refine Leads.imp (lift_leads (serves.dialed
    (Election.Placed.reachable after q (.inr serves.stand)) sound still alive)) ?_
  rintro _ _ _ _ ⟨dialed, ⟨joined, caller, procs, lock, hellos⟩, rfl⟩
  have living : (dialed.procs s.home).life = .alive := by
    rw [procs]
    exact alive
  -- A dial leaves the process that serves as it is.
  refine ⟨⟨⟨?_, ?_, ?_, ?_⟩, decide_eq_true living, joined, caller, ?_⟩, dialed, rfl⟩
  · exact procs ▸ serves.alive
  · exact procs ▸ serves.stand
  · exact procs ▸ serves.flag
  · exact lock.trans serves.lock
  · -- Nobody has said HELLO on a stream that was yet to be dialed.
    intro _ h member same
    dsimp only at member
    rw [hellos] at member
    have said := sound.said h member
    rw [same, still] at said
    cases said

/-- A local connection to a process's router that nobody has used. -/
structure Cluster.Fresh (s : Cluster) (q : Pid) (c : ConnId) : Prop where
  waits : ((s.routers q).conns c).phase = .hello
  may : ((s.routers q).conns c).takeOver = true
  unused : c ∉ (s.view q).own

/-- All but finitely many connections of a router have done nothing. -/
theorem RouterReachable.unused {host : String} {door : ConnId → Bool} {s : Router}
    (reached : RouterReachable host door s) :
    ∃ n : Nat, ∀ c : Nat, n ≤ c → s.conns c = { takeOver := !door c } := by
  -- At first no connection has done anything.
  refine reached.invariant (P := fun s => ∃ n : Nat, ∀ c : Nat, n ≤ c →
    s.conns c = { takeOver := !door c }) ⟨0, fun _ _ => rfl⟩ ?_
  intro s a s' ⟨n, unused⟩ enabled
  refine ⟨n + (a.conn + 1), fun c above => ?_⟩
  -- A step is taken by one connection.
  have other : c ≠ a.conn := by
    intro same
    rw [same] at above
    exact Nat.not_succ_le_self _ ((Nat.le_add_left _ n).trans above)
  rw [step_other enabled other]
  exact unused c ((Nat.le_add_right n _).trans above)

/-- Numbers are bounded where there are finitely many. -/
theorem bounded_above (numbers : List Nat) : ∃ n, ∀ m ∈ numbers, m < n := by
  -- One more number moves the bound up to itself at most.
  induction numbers with
  | nil => exact ⟨0, nofun⟩
  | cons first rest ih =>
    obtain ⟨n, below⟩ := ih
    refine ⟨max n (first + 1), List.forall_mem_cons.mpr ⟨by omega, fun m member => ?_⟩⟩
    have under := below m member
    omega

/-- Every process's router can accept another local connection. -/
theorem ClusterReachable.fresh {host : String} (q : Pid)
    (reached : ClusterReachable hello host door home id s) :
    ∃ n : Nat, ∀ c : Nat, n ≤ c → door q c = false → s.Fresh q c := by
  -- Beyond some number a connection has done nothing, and has no session of the node.
  obtain ⟨n, unused⟩ := (reached.router q).unused
  obtain ⟨m, below⟩ := bounded_above (s.view q).own
  refine ⟨n + m, fun c above inside => ?_⟩
  have idle := unused c (by omega)
  refine ⟨by rw [idle], by rw [idle, inside]; rfl, fun own => ?_⟩
  have under := below c own
  omega

/-- The node has no session, or one that is over: the router is gone or done with its connection. -/
def Cluster.Parted (s : Cluster) : Prop :=
  s.node.link.over = true ∨ ∀ p c, s.seats.lookup s.node.session = some (p, c) →
    s.election.stands p .serving = false ∨ ((s.routers p).conns c).phase.isReturned = true

/-- All but the node is as it was, and its asks have come as far. -/
structure Cluster.Alike (s t : Cluster) : Prop where
  election : t.election = s.election
  routers : t.routers = s.routers
  home : t.home = s.home
  seats : t.seats = s.seats
  node : s.node.Alike t.node

/-- A cluster whose node alone went on, without a session begun. -/
theorem Cluster.Alike.goes {t : Cluster} {node : Node Queued} {heard : Nat} (alike : s.Alike t)
    (moved : t.node.Alike node) : s.Alike { t with node, heard } :=
  ⟨alike.election, alike.routers, alike.home, alike.seats, alike.node.trans moved⟩

/-- Each process's view of the node is alike. -/
theorem Cluster.Alike.view {t : Cluster} (alike : s.Alike t) (p : Pid) :
    (s.view p).Alike (t.view p) := by
  refine ⟨?_, ?_, alike.node⟩
  · exact congrFun alike.routers p
  · rw [Cluster.view, alike.seats]
    rfl

/-- The connection that has the session is the one that its process knows. -/
theorem view_seat (seat : s.seats.lookup s.node.session = some (p, c)) :
    (s.view p).seat = some c := by
  -- The first seat of this session is the first of its process too.
  obtain ⟨before, after, seats, earlier⟩ := List.lookup_eq_some_iff.mp seat
  refine List.lookup_eq_some_iff.mpr ⟨(before.filter (·.2.1 = p)).map fun seat =>
    (seat.1, seat.2.2), (after.filter (·.2.1 = p)).map fun seat => (seat.1, seat.2.2), ?_, ?_⟩
  · simp [Cluster.view, seats]
  · -- What comes before among the seats of one process comes before among all.
    intro other member
    obtain ⟨seat, among, rfl⟩ := List.mem_map.mp member
    exact earlier seat (List.mem_filter.mp among).1

/-- How many frames are on the session's stream that it has not read. -/
def Cluster.unread (s : Cluster) : Nat :=
  match s.seats.lookup s.node.session with
  | none => 0
  | some (p, _) => (s.view p).unread.length

/-- The session has the connection it had, and its stream what has not been read. -/
theorem unread_congr {node : Node Queued} (session : node.session = s.node.session) :
    Cluster.unread { s with node } = s.unread := by
  -- What has not been read is told by the seat, and the seat by the session.
  simp only [Cluster.unread, session]
  split
  · rfl
  · simp only [Network.unread, Network.seat, Cluster.view, session]

/-- What the node does by itself changes nothing but the node. -/
theorem put_node {t : Network} (router : t.router = s.routers p) (written : t.written = s.written) :
    s.put p t = { s with node := t.node, heard := t.heard } := by
  rw [Cluster.put, router, written, Function.update_eq_self]

/-- A session that is over while it reads has a frame to read, or the end of its stream. -/
theorem parted_reads (hello : Frame) (lives : s.lives = true) (reading : s.node.link = .reading)
    (closed : ∀ p c, s.seats.lookup s.node.session = some (p, c) →
      s.election.stands p .serving = false ∨ ((s.routers p).conns c).phase.isReturned = true) :
    ∃ a node heard, a.ofNode ∧ s.step hello a = some { s with node, heard } ∧
      s.node.Alike node ∧ (Cluster.unread { s with node, heard } < s.unread ∨
        Cluster.unread { s with node, heard } = s.unread ∧ node.link = .ended) := by
  let ended : Node Queued := { s.node with link := .ended }
  have like : s.node.Alike ended := ⟨rfl, rfl, rfl, fun _ => rfl⟩
  have hangs : s.node.step .hangUp = some ended := by simp [Node.step, reading, ended]
  -- A stream that was read to the end ends the session.
  have loses : s.cut = true → ∃ a node heard, a.ofNode ∧
      s.step hello a = some { s with node, heard } ∧ s.node.Alike node ∧
      (Cluster.unread { s with node, heard } < s.unread ∨
        Cluster.unread { s with node, heard } = s.unread ∧ node.link = .ended) := by
    intro cut
    refine ⟨.lose, ended, s.heard, trivial, ?_, like, .inr ⟨unread_congr rfl, rfl⟩⟩
    simp [Cluster.step, lives, cut, hangs]
  cases seat : s.seats.lookup s.node.session with
  -- Where the session got no connection, its stream is at its end.
  | none => exact loses (by simp only [Cluster.cut, seat])
  | some at_ =>
    obtain ⟨p, c⟩ := at_
    have known : (s.view p).seat = some c := view_seat seat
    cases next : (s.view p).next with
    -- A frame that was written before is read, and is one less to read.
    | some q =>
      obtain ⟨node, enabled, _, moved⟩ := hears (s := s.view p) hello reading next
      have shorter := congrArg List.length (unread_cons next moved.session)
      refine ⟨.serve p .hear, node, s.heard + 1, .inl rfl, ?_, moved, .inl ?_⟩
      · have same := put_node (s := s) (p := p)
          (t := { s.view p with node, heard := s.heard + 1 }) rfl rfl
        rw [Cluster.step, if_pos (show s.allows p .hear = true from lives), enabled]
        exact congrArg some same
      · have session : node.session = s.node.session := moved.session
        simp only [Cluster.unread, session, seat]
        rw [shorter]
        exact Nat.lt_succ_self _
    | none =>
      -- Behind the last frame comes the end, by the process's exit or by `handle`'s.
      rcases closed p c seat with gone | returned
      · exact loses (by simp [Cluster.cut, seat, gone, next])
      · have enabled := closes (s := s.view p) hello reading known returned next
        refine ⟨.serve p .close, ended, s.heard, .inr rfl, ?_, like, .inr ⟨unread_congr rfl, rfl⟩⟩
        have same := put_node (s := s) (p := p) (t := { s.view p with node := ended }) rfl rfl
        rw [Cluster.step, if_pos (show s.allows p .close = true from lives), enabled]
        exact congrArg some same

/-- Once its session is over, the node comes to dial again. -/
theorem Cluster.Parted.leads (parted : s.Parted) (lives : s.lives = true) :
    Leads ClusterAction.ofNode (Cluster.step hello) s fun t =>
      s.Alike t ∧ t.node.link = .dialing := by
  -- Until it dials, the node reads what is left, ends, and cleans up.
  have dials := leads_dialing ClusterAction.ofNode (Cluster.step hello) s
    Cluster.node Cluster.unread (fun t => s.Alike t ∧ t.Parted) ?_ ?_
    ⟨⟨rfl, rfl, rfl, rfl, .refl _⟩, parted⟩
  · exact dials.imp fun _ t _ _ ⟨⟨alike, _⟩, dialing⟩ => ⟨alike, dialing⟩
  · intro t ⟨alike, parted⟩ reading
    have living : t.lives = true := by
      rw [Cluster.lives, alike.election, alike.home]
      exact lives
    -- A session that reads is not over by itself, so its other end is.
    have closed := parted.resolve_left (by rw [reading]; decide)
    obtain ⟨a, node, heard, own, enabled, moved, nearer⟩ :=
      parted_reads hello living reading closed
    refine ⟨a, _, own, enabled, ⟨alike.goes moved, .inr fun p c seat => ?_⟩, nearer⟩
    exact closed p c (moved.session ▸ seat)
  · intro t n ⟨alike, parted⟩ moved
    have living : t.lives = true := by
      rw [Cluster.lives, alike.election, alike.home]
      exact lives
    have next := proceed_alike moved
    have enabled : Cluster.step hello t (.node .proceed) = some { t with node := n } := by
      simp [Cluster.step, living, NodeAction.external, moved]
    refine ⟨.node .proceed, _, trivial, enabled, ⟨alike.goes next, ?_⟩, rfl,
      unread_congr next.session⟩
    -- The end of a session goes on, and what is gone stays so.
    rcases parted with closed | closed
    · exact .inl (proceed_over moved closed)
    · exact .inr fun p c seat => closed p c (next.session ▸ seat)

/-- From every state of a user's processes in which one of them stands for router and the node's
session, if it has one, is over, whoever had the lock, the socket path and the node's id before, and
without a step of anybody else: one process comes to serve, and over any new connection that it
accepts the node registers there under its id, and its next call is delivered. -/
theorem takeover {desc : Descriptor} {to_ : String} {payload : Bytes}
    (reached : ClusterReachable hello (label hostname) door home id s) (parted : s.Parted)
    (candidate : (s.election.procs p).stand ≠ .out) (lives : s.lives = true)
    (idle : (s.election.dials d).phase = .idle) (quiet : (s.node.asks k).phase = .idle)
    (good : Registrable hello (label hostname) name desc)
    (addressed : to_ ≠ "") (fits : (Request.call to_ payload).frame.Fits) :
    ∃ q, (∃ n : Nat, ∀ c : Nat, n ≤ c → door q c = false → s.Fresh q c) ∧ ∀ c, s.Fresh q c →
      Leads (ClusterAction.By q d c) (Cluster.step hello) s fun t =>
        t.election.Serves q ∧ (s.view q).Out (t.view q) c k name to_ payload := by
  have leads : Leads ClusterAction.ofNode (Cluster.step hello) s _ := parted.leads lives
  obtain ⟨actions, m, own, ran, alike, dialing⟩ := leads
  -- The node tampers with nothing while it reads its stream to the end.
  have reach : ClusterReachable hello (label hostname) door home id m := by
    refine reached.run (fun t a member => ?_) ran
    have quiet := own a member
    cases a with
    | elect => exact quiet.elim
    | node | join | serve | lose => trivial
  -- The election is as it was while the node cleaned up.
  have living : m.lives = true := by
    rw [Cluster.lives, alike.election, alike.home]
    exact lives
  -- Then one process comes to serve, and a new dial returns a stream to it.
  obtain ⟨q, offers⟩ := leads_offers reach (by rw [alike.election]; exact candidate) living
    (by rw [alike.election]; exact idle)
  refine ⟨q, reached.fresh q, fun c fresh => ?_⟩
  refine Leads.trans ⟨actions, m, fun a member => (own a member).by, ran, rfl⟩ fun t same => ?_
  subst same
  refine (offers c).trans ?_
  rintro t ⟨offered, election, rfl⟩
  -- The processes have agreed, and the router that serves is as it was.
  have viewed := alike.view q
  have called := leads_called (s := m.view q) (k := k) (reach.router q) (reach.sane q) good dialing
    (by rw [viewed.router]; exact fresh.waits) (by rw [viewed.router]; exact fresh.may)
    (by rw [Network.own, viewed.seats]; exact fresh.unused) ((alike.node.phases k).trans quiet)
    addressed fits
  refine (offered.leads called).imp fun _ _ _ _ reached => ?_
  obtain ⟨serves, out⟩ := reached
  exact ⟨serves, out.since viewed⟩

/-- The router's process is killed while a node has a session with it and a frame has yet to be
read: the node's next call gets out through the other process. -/
theorem takeover_killed : ∃ s : Cluster,
    ClusterReachable someHello (label "dgx") (fun _ _ => false) 9 "cli/n" s ∧
    s.election.lock = none ∧ s.node.up = true ∧ s.unread = 1 ∧
    ∃ q c, Leads (ClusterAction.By q 1 c) (Cluster.step someHello) s fun t =>
      t.election.Serves q ∧ (s.view q).Out (t.view q) c 7 "cli/dgx/n" "agent/dgx/m" [1, 2, 3] := by
  let start := Cluster.initial (label "dgx") (fun _ _ => false) 9 "cli/n"
  let elects : List ElectAction := [.spawn 7, .spawn 9, .embed 7, .embed 9, .lock 7, .elect 7,
    .unlink 7, .bind 7, .permit 7, .connect 0 9, .load 0, .ask 0]
  let actions : List ClusterAction := elects.map .elect ++ [.join 0 0, .serve 7 (.greet 0)] ++
    List.replicate 5 (.serve 7 (.router (.advance 0))) ++
    [.serve 7 .write, .serve 7 .hear, .node .proceed, .node .proceed] ++
    (joins 1 "agent/m").map (fun a => .serve 7 (.router a)) ++
    [.serve 7 .write, .elect (.exit 7)]
  have ran : (run (Cluster.step someHello) start actions).map (fun s => decide
      (s.election.lock = none ∧ s.node.up = true ∧ s.unread = 1 ∧
        s.seats.lookup s.node.session = some (7, 0) ∧ s.election.stands 7 .serving = false ∧
        (s.election.procs 9).stand = .standing ∧ s.lives = true ∧
        (s.election.dials 1).phase = .idle ∧ (s.node.asks 7).phase = .idle)) = some true := by
    decide +kernel
  obtain ⟨s, ran, facts⟩ := Option.map_eq_some_iff.mp ran
  obtain ⟨free, up, unread, seat, gone, stands, lives, idle, quiet⟩ := of_decide_eq_true facts
  -- Nobody but the candidates touched the socket path.
  have untampered : Guarded Cluster.Untampered (Cluster.step someHello) start actions := by
    decide +kernel
  have reached : ClusterReachable someHello (label "dgx") (fun _ _ => false) 9 "cli/n" s :=
    ⟨actions, untampered, ran⟩
  have parted : s.Parted := by
    right
    intro p c has
    -- The session is with the process that is gone.
    rw [seat] at has
    cases has
    exact .inl gone
  have good : Registrable someHello (label "dgx") "cli/dgx/n" ⟨0, "", [], []⟩ :=
    ⟨by decide, rfl, by decide, by decide⟩
  have candidate : (s.election.procs 9).stand ≠ .out := by
    rw [stands]
    exact nofun
  have addressed : "agent/dgx/m" ≠ "" := by decide
  have fits : (Request.call "agent/dgx/m" [1, 2, 3]).frame.Fits := by decide
  obtain ⟨q, ⟨n, fresh⟩, leads⟩ :=
    takeover reached parted candidate lives idle quiet good addressed fits
  exact ⟨s, reached, free, up, unread, q, n, leads n (fresh n (Nat.le_refl n) rfl)⟩

end Zapd
