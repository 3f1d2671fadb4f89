import Zapd.Elect.Progress
import Zapd.Node.Rejoin

/-! A user's processes: each stands for router or not, each has a registry, and one has a node. -/

namespace Zapd

open Transition

/-- The election among the processes, their registries, and a node of one of them. -/
structure Cluster where
  election : Election
  /-- The registry of each process, and the connections it accepted. -/
  routers : Pid → Router
  /-- The process of the node. -/
  home : Pid
  node : Node Queued
  /-- The process and the connection that served each session, the latest first. -/
  seats : List (SessionId × Pid × ConnId) := []
  /-- How many frames of its connection's channel are written to the session's stream. -/
  written : Nat := 0
  /-- How many of them the session has read. -/
  heard : Nat := 0

/-- No process has started. -/
def Cluster.initial (host : String) (door : Pid → ConnId → Bool) (home : Pid) (id : String) :
    Cluster :=
  { election := .initial, routers := fun p => Router.initial host (door p), home
    node := Node.join id }

/-- One process's router, and what the node has to do with it. -/
def Cluster.view (s : Cluster) (p : Pid) : Network :=
  { router := s.routers p, node := s.node, written := s.written, heard := s.heard
    seats := (s.seats.filter (·.2.1 = p)).map fun seat => (seat.1, seat.2.2) }

/-- What a step between one router and the node leaves. -/
def Cluster.put (s : Cluster) (p : Pid) (t : Network) : Cluster :=
  { s with
    routers := Function.update s.routers p t.router, node := t.node
    written := t.written, heard := t.heard }

/-- The process of the node lives. -/
def Cluster.lives (s : Cluster) : Bool := (s.election.procs s.home).life = .alive

/-- Whose step it is: a router's task runs while its process serves, a node's while it lives. -/
def Cluster.allows (s : Cluster) (p : Pid) : NetworkAction → Bool
  | .router _ | .greet _ | .carry _ | .write => s.election.stands p .serving
  -- What was written to the node before the process was gone can still be read.
  | .hear | .hearRefusal _ | .close => s.lives
  | .node _ | .dial _ => false

/-- The stream of the session is read to its end: the process at its other end is gone, and closed
it then or when it was dialed. -/
def Cluster.cut (s : Cluster) : Bool :=
  match s.seats.lookup s.node.session with
  | none => true
  | some (p, _) => !s.election.stands p .serving && (s.view p).next = none

/-- A step of the processes. -/
inductive ClusterAction
  | elect (a : ElectAction)
  | node (a : NodeAction Queued)
  /-- The node's next session is over the stream of this dial, and has this connection. -/
  | join (d : DialId) (c : ConnId)
  /-- A process's router, or a stream between it and the node, goes on. -/
  | serve (p : Pid) (a : NetworkAction)
  /-- The session reads the end of a stream that its process closed by its exit. -/
  | lose

/-- One step, if it is enabled; `hello` is what the node says first in every session. -/
def Cluster.step (hello : Frame) (s : Cluster) : ClusterAction → Option Cluster
  | .elect a => (s.election.step a).map fun election => { s with election }
  -- The node ends with its process.
  | .node a =>
    if s.lives && !a.external then (s.node.step a).map fun node => { s with node } else none
  | .join d c =>
    match (s.election.dials d).phase with
    | .joined p =>
      -- A dial of the node's process returns one stream, for one session.
      if (s.election.dials d).caller = s.home && s.election.hellos.all (·.1 ≠ d) then
        (s.election.step (.hello d)).bind fun election =>
          -- The router that serves takes the stream as a connection of its own.
          if s.election.stands p .serving then
            ((s.view p).step hello (.dial c)).map fun t =>
              { s with election, node := t.node, written := 0, heard := 0,
                       seats := (t.node.session, p, c) :: s.seats }
          -- A process that has bound its socket accepts the stream once it serves.
          else if s.election.stands p .bound then none
          -- A process that no longer serves accepts nobody.
          else
            (s.node.step .dial).map fun node => { s with election, node, written := 0, heard := 0 }
      else none
    | _ => none
  -- A router's tasks run while its process serves, and the node reads while it lives.
  | .serve p a =>
    if s.allows p a then ((s.view p).step hello a).map (s.put p) else none
  -- What was written before the exit is read first.
  | .lose =>
    if s.lives && s.cut then (s.node.step .hangUp).map fun node => { s with node } else none

/-- No process that is no candidate touches the socket path. -/
def Cluster.Untampered (s : Cluster) : ClusterAction → Prop
  | .elect a => Zapd.Untampered s.election a
  | _ => True

instance (s : Cluster) : ∀ a : ClusterAction, Decidable (s.Untampered a)
  | .elect a => inferInstanceAs (Decidable (Zapd.Untampered s.election a))
  | .node _ | .join .. | .serve .. | .lose => .isTrue trivial

/-- A state that some interleaving of the processes reaches, with the socket path left alone. -/
def ClusterReachable (hello : Frame) (host : String) (door : Pid → ConnId → Bool) (home : Pid)
    (id : String) (s : Cluster) : Prop :=
  GuardedReachable Cluster.Untampered (Cluster.step hello) (Cluster.initial host door home id) s

/-- What a step does: to the election, to the node, or to one router and the node. -/
inductive ClusterMoves (hello : Frame) (s : Cluster) : ClusterAction → Cluster → Prop
  | elected {a : ElectAction} {election : Election} : s.election.step a = some election →
      ClusterMoves hello s (.elect a) { s with election }
  | moved {a : NodeAction Queued} {node : Node Queued} : s.lives = true → ¬ a.external = true →
      s.node.step a = some node → ClusterMoves hello s (.node a) { s with node }
  /-- The process that was dialed accepts the session, or is no longer there to do so. -/
  | joined {d : DialId} {c : ConnId} {p : Pid} {election : Election} {node : Node Queued}
      {seats : List (SessionId × Pid × ConnId)} : s.election.step (.hello d) = some election →
      s.node.step .dial = some node →
      (seats = s.seats ∨ s.election.stands p .serving = true ∧
        ((s.routers p).conns c).phase = .hello ∧ c ∉ (s.view p).own ∧
        seats = (node.session, p, c) :: s.seats) →
      ClusterMoves hello s (.join d c) { s with election, node, seats, written := 0, heard := 0 }
  | served {p : Pid} {a : NetworkAction} {t : Network} : s.allows p a = true →
      (s.view p).step hello a = some t → ClusterMoves hello s (.serve p a) (s.put p t)
  | lost {node : Node Queued} : s.node.step .hangUp = some node →
      ClusterMoves hello s .lose { s with node }

variable {hello : Frame} {host : String} {door : Pid → ConnId → Bool} {home : Pid} {id : String}
  {s s' : Cluster}

/-- Every enabled step is one of the cases. -/
theorem cluster_moves {a : ClusterAction} (enabled : s.step hello a = some s') :
    ClusterMoves hello s a s' := by
  cases a with
  | elect a =>
    obtain ⟨election, stepped, rfl⟩ := Option.map_eq_some_iff.mp enabled
    exact .elected stepped
  -- What the node receives, and its dial, come by other actions.
  | node a =>
    obtain ⟨may, moved⟩ := Option.ite_none_right_eq_some.mp enabled
    obtain ⟨lives, inside⟩ := Bool.and_eq_true_iff.mp may
    obtain ⟨node, stepped, rfl⟩ := Option.map_eq_some_iff.mp moved
    refine .moved lives (fun external => ?_) stepped
    rw [external] at inside
    cases inside
  | join d c =>
    simp only [Cluster.step] at enabled
    split at enabled
    · rename_i p joined
      obtain ⟨_, moved⟩ := Option.ite_none_right_eq_some.mp enabled
      obtain ⟨election, said, moved⟩ := Option.bind_eq_some_iff.mp moved
      split at moved
      · rename_i serves
        obtain ⟨t, dialed, rfl⟩ := Option.map_eq_some_iff.mp moved
        -- The session's connection is one that nobody has used.
        obtain ⟨⟨_, waits, unused⟩, moved⟩ := Option.ite_none_right_eq_some.mp dialed
        obtain ⟨node, stepped, rfl⟩ := Option.map_eq_some_iff.mp moved
        refine .joined said stepped (.inr ⟨serves, ?_, unused, rfl⟩)
        change ((s.routers p).conns c).phase.isHello = true at waits
        cases phase : ((s.routers p).conns c).phase <;> simp [phase, Phase.isHello] at waits ⊢
      · obtain ⟨_, moved⟩ := Option.ite_none_left_eq_some.mp moved
        obtain ⟨node, stepped, rfl⟩ := Option.map_eq_some_iff.mp moved
        exact .joined (p := p) said stepped (.inl rfl)
    · cases enabled
  -- A step of one router is one of its view of the network.
  | serve p a =>
    obtain ⟨allowed, moved⟩ := Option.ite_none_right_eq_some.mp enabled
    obtain ⟨t, stepped, rfl⟩ := Option.map_eq_some_iff.mp moved
    exact .served allowed stepped
  | lose =>
    obtain ⟨_, moved⟩ := Option.ite_none_right_eq_some.mp enabled
    obtain ⟨node, stepped, rfl⟩ := Option.map_eq_some_iff.mp moved
    exact .lost stepped

/-- The election of a cluster is one that nobody tampered with. -/
theorem ClusterReachable.election (reached : ClusterReachable hello host door home id s) :
    GuardedReachable Zapd.Untampered Election.step Election.initial s.election := by
  refine reached.induction (P := fun s =>
    GuardedReachable Zapd.Untampered Election.step Election.initial s.election) ?_ ?_
  · exact ⟨[], trivial, rfl⟩
  -- Only two kinds of step are steps of the election, and HELLO tampers with nothing.
  · intro s a s' _ untampered before enabled
    cases cluster_moves enabled with
    | elected stepped =>
      refine before.run (fun _ b member => ?_) (run_single stepped)
      rw [List.mem_singleton.mp member]
      exact untampered
    | joined said _ _ =>
      refine before.run (fun _ b member => ?_) (run_single said)
      rw [List.mem_singleton.mp member]
      exact trivial
    | moved _ _ _ => exact before
    | served _ _ => exact before
    | lost _ => exact before

/-- Every process's router is one that connections alone can reach. -/
theorem ClusterReachable.router (reached : ClusterReachable hello host door home id s) (p : Pid) :
    RouterReachable host (door p) (s.routers p) := by
  refine reached.reachable.invariant (P := fun s =>
    ∀ p, RouterReachable host (door p) (s.routers p)) ?_ ?_ p
  · exact fun p => Reachable.refl _
  · intro s a s' before enabled p
    cases cluster_moves enabled with
    | elected _ => exact before p
    | moved _ _ _ => exact before p
    | joined _ _ _ => exact before p
    | lost _ => exact before p
    -- One router at a time goes on.
    | @served q a t _ stepped =>
      by_cases other : p = q
      · subst other
        dsimp only [Cluster.put]
        rw [Function.update_self]
        -- A step between a router and the node is at most one of the router's.
        rcases network_router stepped with same | ⟨r, moved, _⟩
        · rw [same]
          exact before p
        · exact (before p).next moved
      · dsimp only [Cluster.put]
        rw [Function.update_of_ne other]
        exact before p

/-- Whatever it is connected to, the node is sane. -/
theorem ClusterReachable.sane (reached : ClusterReachable hello host door home id s) (p : Pid) :
    (s.view p).Sane := by
  refine reached.reachable.invariant (P := fun s => ∀ p, (s.view p).Sane) ?_ ?_ p
  · exact fun p => .join rfl
  -- Being sane is a property of the node, whichever router looks at it.
  · intro s a s' sane enabled p
    cases cluster_moves enabled with
    | elected _ => exact sane p
    | moved _ _ stepped => exact (sane p).stepped stepped rfl
    | joined _ stepped _ => exact (sane p).stepped stepped rfl
    | lost stepped => exact (sane p).stepped stepped rfl
    | @served q a t _ stepped =>
      have kept := (sane q).step stepped
      exact ⟨kept.carried, kept.coherent, kept.turned, kept.sent⟩

end Zapd
