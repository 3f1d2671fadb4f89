import Zapd.Door.Steps
import Zapd.Router.Progress

/-! The router together with its door: each browser's pipe ends in a connection of the router. -/

namespace Zapd

open Utf8

/-- A router, and the door in front of each of its connections that comes through one. -/
structure System where
  router : Router
  doors : ConnId → Door

/-- Nobody has connected yet; `door` says which connections come through the door. -/
def System.initial (host : String) (door : ConnId → Bool) : System :=
  { router := Router.initial host door, doors := fun _ => {} }

/-- The connection's task is inside `Frame::read`. -/
def Phase.reads : Phase → Bool
  | .hello | .relaying => true
  | _ => false

/-- The connection's task has returned, and dropped its end of the stream. -/
def Phase.gone : Phase → Bool
  | .returned _ => true
  | _ => false

/-- The browser's side has returned, and dropped its end of the pipe. -/
def Door.gone (d : Door) : Bool :=
  match d.stage with
  | .closed _ => true
  | .greeting | .relaying => false

/-- Every encoded frame for a connection: those written to the stream, then those of its channel. -/
def System.outbound (s : System) (c : ConnId) : List Bytes :=
  ((s.router.conns c).socket ++ (s.router.queues c).map Queued.frame).map Frame.encode

/-- The router's end has read as far as this, and left the rest in the pipe. -/
def Door.took (d : Door) (state : ReadState) (rest : Bytes) (result : Option Frame) : Door :=
  { d with taking := state, up := rest, parsed := d.parsed ++ result.toList }

/-- One step of the router or of a browser's door, or of the pipe between them. -/
inductive SystemAction
  | router (a : Action)
  /-- `admit` or the router's writer moves. -/
  | browser (c : ConnId) (a : DoorAction)
  /-- `Frame::read` of the connection's task is polled with some bytes of the pipe. -/
  | take (c : ConnId) (count : Nat)
  /-- `Frame::read` of the connection's task comes to the end of the pipe. -/
  | upEof (c : ConnId)

/-- The connection that a step is on account of. -/
def SystemAction.conn : SystemAction → ConnId
  | .router a => a.conn
  | .browser c _ | .take c _ | .upEof c => c

/-- A frame read otherwise than through the pipe, which no connection of the door does. -/
def Action.bypasses (s : Router) : Action → Bool
  | .read c _ => !(s.conns c).takeOver
  | _ => false

/-- One step, if it is enabled. -/
def System.step (s : System) : SystemAction → Option System
  | .router a =>
    -- A connection of the door reads through its pipe alone.
    if a.bypasses s.router then none
    else (s.router.step a).map fun r => { s with router := r }
  | .browser c a =>
    if (s.router.conns c).takeOver then none
    -- The router's end is dropped when the connection's task returns.
    else if a matches .hangUp && !(s.router.conns c).phase.gone then none
    else
      (Door.step (s.outbound c) (s.doors c) a).map fun d =>
        { s with doors := Function.update s.doors c d }
  | .take c count =>
    let d := s.doors c
    if (s.router.conns c).takeOver = false ∧ (s.router.conns c).phase.reads ∧
        0 < count ∧ count ≤ d.up.length then
      -- The read goes on, or the task goes on with what it yields.
      match d.taking.poll (d.up.take count) with
      | .pending state =>
        some { s with doors := Function.update s.doors c (d.took state (d.up.drop count) none) }
      | .ready result rest =>
        (s.router.step (.read c (result.map some))).map fun r =>
          { router := r
            doors := Function.update s.doors c
              (d.took .start (rest ++ d.up.drop count) result.toOption) }
    else none
  | .upEof c =>
    let d := s.doors c
    if (s.router.conns c).takeOver = false ∧ d.gone ∧ d.up.isEmpty then
      (s.router.step (.read c d.taking.atEof)).map fun r => { s with router := r }
    else none

/-- A state some interleaving of the router and its browsers reaches. -/
def SystemReachable (host : String) (door : ConnId → Bool) (s : System) : Prop :=
  Transition.Reachable System.step (System.initial host door) s

/-- A step of the system, one case for each way it can be taken. -/
inductive SystemMoves (s : System) : SystemAction → System → Prop
  | routed {a : Action} {r : Router} : a.bypasses s.router = false → s.router.step a = some r →
      SystemMoves s (.router a) { s with router := r }
  | moved {c : ConnId} {a : DoorAction} {d : Door} :
      Door.step (s.outbound c) (s.doors c) a = some d →
      SystemMoves s (.browser c a) { s with doors := Function.update s.doors c d }
  | waits {c : ConnId} {count : Nat} {state : ReadState} : (s.doors c).up ≠ [] →
      (s.doors c).taking.poll ((s.doors c).up.take count) = .pending state →
      SystemMoves s (.take c count)
        { s with
          doors := Function.update s.doors c
            ((s.doors c).took state ((s.doors c).up.drop count) none) }
  | reads {c : ConnId} {count : Nat} {result : Except Error Frame} {rest : Bytes} {r : Router} :
      (s.doors c).up ≠ [] →
      (s.doors c).taking.poll ((s.doors c).up.take count) = .ready result rest →
      s.router.step (.read c (result.map some)) = some r →
      SystemMoves s (.take c count)
        { router := r
          doors := Function.update s.doors c
            ((s.doors c).took .start (rest ++ (s.doors c).up.drop count) result.toOption) }
  | ended {c : ConnId} {r : Router} :
      s.router.step (.read c (s.doors c).taking.atEof) = some r →
      SystemMoves s (.upEof c) { s with router := r }

/-- Every enabled step is one of the cases. -/
theorem system_moves {s s' : System} {a : SystemAction} (enabled : s.step a = some s') :
    SystemMoves s a s' := by
  cases a with
  | router r =>
    obtain ⟨piped, moved⟩ := Option.ite_none_left_eq_some.mp enabled
    obtain ⟨next, stepped, rfl⟩ := Option.map_eq_some_iff.mp moved
    exact .routed (by simpa using piped) stepped
  | browser c m =>
    obtain ⟨_, moved⟩ := Option.ite_none_left_eq_some.mp enabled
    obtain ⟨_, moved⟩ := Option.ite_none_left_eq_some.mp moved
    obtain ⟨d, stepped, rfl⟩ := Option.map_eq_some_iff.mp moved
    exact .moved stepped
  | take c count =>
    obtain ⟨⟨_, _, positive, enough⟩, moved⟩ := Option.ite_none_right_eq_some.mp enabled
    -- A poll takes at least one byte of the pipe.
    have some_ : (s.doors c).up ≠ [] := by
      intro empty
      rw [empty, List.length_nil] at enough
      omega
    split at moved
    · rename_i state polled
      cases moved
      exact .waits some_ polled
    · rename_i result rest polled
      obtain ⟨next, stepped, rfl⟩ := Option.map_eq_some_iff.mp moved
      exact .reads some_ polled stepped
  | upEof c =>
    obtain ⟨_, moved⟩ := Option.ite_none_right_eq_some.mp enabled
    obtain ⟨next, stepped, rfl⟩ := Option.map_eq_some_iff.mp moved
    exact .ended stepped

/-- What a step does to the router: nothing, or one step of its own for the same connection. -/
theorem system_router {s s' : System} {a : SystemAction} (enabled : s.step a = some s') :
    s'.router = s.router ∨ ∃ r, r.conn = a.conn ∧ s.router.step r = some s'.router := by
  cases system_moves enabled with
  | routed _ stepped => exact .inr ⟨_, rfl, stepped⟩
  | moved _ => exact .inl rfl
  | waits _ _ => exact .inl rfl
  | reads _ _ stepped => exact .inr ⟨_, rfl, stepped⟩
  | ended stepped => exact .inr ⟨_, rfl, stepped⟩

/-- A step on account of another connection leaves this one's door alone. -/
theorem system_doors {s s' : System} {a : SystemAction} {c : ConnId}
    (enabled : s.step a = some s') (other : c ≠ a.conn) : s'.doors c = s.doors c := by
  cases system_moves enabled with
  | routed _ _ => rfl
  | moved _ => exact Function.update_of_ne other _ _
  | waits _ _ => exact Function.update_of_ne other _ _
  | reads _ _ _ => exact Function.update_of_ne other _ _
  | ended _ => rfl

/-- A step on account of another connection leaves this one's task alone. -/
theorem system_other {s s' : System} {a : SystemAction} {c : ConnId}
    (enabled : s.step a = some s') (other : c ≠ a.conn) : s'.router.conns c = s.router.conns c := by
  rcases system_router enabled with same | ⟨r, on, stepped⟩
  · rw [same]
  · -- The router's step is on account of the same connection.
    exact step_other stepped (on ▸ other)

/-- Every router of a reachable system is a router that connections alone can reach. -/
theorem SystemReachable.router {host : String} {door : ConnId → Bool} {s : System}
    (reached : SystemReachable host door s) : RouterReachable host door s.router := by
  refine reached.invariant (P := fun s => RouterReachable host door s.router) ?_ ?_
  · -- Both start with a router nobody has connected to.
    exact Transition.Reachable.refl _
  · intro state action next before enabled
    rcases system_router enabled with same | ⟨r, _, stepped⟩
    · rwa [same]
    · exact before.next stepped

end Zapd
