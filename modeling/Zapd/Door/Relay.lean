import Zapd.Base.Transition
import Zapd.Door.Steps

/-! From the router to the browser: what the relay loop sends on of what the router queued. -/

namespace Zapd

open Utf8

/-- The bytes of some frames, one after another. -/
def wire (frames : List Frame) : Bytes := (frames.map Frame.encode).flatten

@[simp] theorem wire_cons (f : Frame) (frames : List Frame) :
    wire (f :: frames) = f.encode ++ wire frames := rfl

/-- The relay loop goes on after this message. -/
def goesOn : Message → Bool
  | .binary b =>
    match Frame.decode b with
    | .ok _ => true
    | .error _ => false
  | .ping | .pong => true
  | .other => false

/-- No message of the browser makes `select!` drop a read that has taken bytes already. -/
def Undisturbed (d : Door) : DoorAction → Prop
  | .message m => d.reading = .start ∨ goesOn m = false
  | .write _ | .receive | .pump _ | .poll _ | .hangUp | .eof | .quiet | .fail _ => True

instance (d : Door) (a : DoorAction) : Decidable (Undisturbed d a) := by
  unfold Undisturbed
  split <;> infer_instance

/-- The frames the router's writer has received and the browser was not sent yet. -/
def Door.owed (frames : List Frame) (d : Door) : List Frame :=
  (frames.take d.pumped).drop d.relayed.length

/-- What the loop still has to read is the encodings of the frames it still has to relay. -/
def Door.InStep (frames : List Frame) (d : Door) : Prop :=
  ∃ held lost, ReadState.start.poll held = .pending d.reading ∧
    held ++ d.down ++ d.outgoing ++ lost = wire (d.owed frames) ∧ (d.hungUp = false → lost = [])

/-- The invariant of the relay: it is in order, and in step until `admit` returns. -/
structure Door.Relays (frames : List Frame) (d : Door) : Prop where
  order : d.relayed <+: frames.take d.pumped
  step : (∀ result, d.stage ≠ .closed result) → d.InStep frames

/-- The first frame that a pending read can complete is the first of those on the wire. -/
theorem poll_wire {frames : List Frame} (unwrapped : ∀ f ∈ frames, f.bodyLength < 2 ^ 32)
    {result : Except Error Frame} {rest : Bytes}
    (polled : ReadState.start.poll (wire frames) = .ready result rest) :
    ∃ f later, frames = f :: later ∧
      ((f.Fits ∧ result = .ok f ∧ rest = wire later) ∨ (¬ f.Fits ∧ ∃ e, result = .error e)) := by
  cases frames with
  -- There is nothing to complete a read with.
  | nil => cases polled
  | cons f later =>
    refine ⟨f, later, rfl, ?_⟩
    by_cases fits : f.Fits
    · -- A frame that fits is read as itself, and what follows it is left.
      rw [wire_cons, poll_decoded (decode_encode fits)] at polled
      cases polled
      exact .inl ⟨fits, rfl, rfl⟩
    · -- A read that succeeded would show that the frame fits.
      refine .inr ⟨fits, ?_⟩
      rcases result with e | g
      · exact ⟨e, rfl⟩
      · have read := read_eq_poll (wire (f :: later))
        rw [polled] at read
        exact absurd (read_encode_fits (unwrapped f List.mem_cons_self) read) fits

/-- Polling a read that is in step completes it only at the end of the first owed frame. -/
theorem Door.InStep.poll {frames : List Frame} (unwrapped : ∀ f ∈ frames, f.bodyLength < 2 ^ 32)
    {d : Door} (inStep : d.InStep frames) {count : Nat} {result : Except Error Frame} {rest : Bytes}
    (polled : d.reading.poll (d.down.take count) = .ready result rest) :
    ∃ f later lost, d.owed frames = f :: later ∧ (d.hungUp = false → lost = []) ∧
      ((f.Fits ∧ result = .ok f ∧ rest ++ d.down.drop count ++ d.outgoing ++ lost = wire later) ∨
        (¬ f.Fits ∧ ∃ e, result = .error e)) := by
  obtain ⟨held, lost, pending, bytes, kept⟩ := inStep
  -- The read was started on the held bytes and goes on with those it is polled with.
  have whole : ReadState.start.poll (wire (d.owed frames)) =
      .ready result (rest ++ d.down.drop count ++ d.outgoing ++ lost) := by
    rw [← bytes, ← List.take_append_drop count d.down, List.append_assoc, List.append_assoc,
      List.append_assoc, poll_append, pending]
    simp only [poll_append, polled, List.take_append_drop, List.append_assoc]
  have small : ∀ f ∈ d.owed frames, f.bodyLength < 2 ^ 32 := fun f member =>
    unwrapped f (List.mem_of_mem_take (List.mem_of_mem_drop member))
  -- So the read completes with the first frame that is owed.
  obtain ⟨f, later, owed, outcome⟩ := poll_wire small whole
  exact ⟨f, later, lost, owed, kept, outcome⟩

/-- Nothing on the way to the browser has moved, apart from the read itself. -/
structure Door.Unmoved (d d' : Door) : Prop where
  down : d'.down = d.down
  outgoing : d'.outgoing = d.outgoing
  hungUp : d'.hungUp = d.hungUp
  pumped : d'.pumped = d.pumped
  relayed : d'.relayed = d.relayed

/-- The HELLO moves nothing on the way to the browser, and starts no read. -/
theorem browserHello_unmoved (d : Door) (m : Message) :
    d.Unmoved (browserHello d m) ∧ (browserHello d m).reading = d.reading := by
  -- Whichever way it ends, it only writes to the router.
  rcases browserHello_spec d m with ⟨b, f, _, _, _, same⟩ | ⟨_, result, refusals, same⟩
  · rw [same]
    exact ⟨⟨rfl, rfl, rfl, rfl, rfl⟩, rfl⟩
  · rw [same]
    exact ⟨⟨rfl, rfl, rfl, rfl, rfl⟩, rfl⟩

/-- A later message moves nothing on the way to the browser. -/
theorem heard_unmoved (d : Door) (m : Message) : d.Unmoved (heard d m) := by
  rcases heard_spec d m with ⟨b, f, _, _, _, same⟩ | ⟨_, refusals, same⟩ | ⟨_, result, same⟩
  all_goals
    rw [same]
    exact ⟨rfl, rfl, rfl, rfl, rfl⟩

/-- A later message closes the door, or it leaves a fresh read in place of the pending one. -/
theorem heard_reading (d : Door) (m : Message) :
    (goesOn m = false ∧ ∃ result, (heard d m).stage = .closed result) ∨
      (goesOn m = true ∧ (heard d m).reading = .start) := by
  cases m with
  | binary b =>
    cases decoded : Frame.decode b with
    | error e => simp [heard, goesOn, decoded]
    | ok f =>
      simp only [heard, goesOn, decoded]
      -- Refused or let through, the loop goes on with a fresh read.
      split <;> simp
  | ping => simp [heard, goesOn]
  | pong => simp [heard, goesOn]
  | other => simp [heard, goesOn]

/-- A step that moves nothing on the way to the browser keeps the invariant. -/
theorem Door.Relays.unmoved {frames : List Frame} {d d' : Door} (relays : d.Relays frames)
    (unmoved : d.Unmoved d') (opened : (∀ result, d'.stage ≠ .closed result) →
      (∀ result, d.stage ≠ .closed result) ∧ d'.reading = d.reading) : d'.Relays frames := by
  obtain ⟨down, outgoing, hungUp, pumped, relayed⟩ := unmoved
  refine ⟨?_, fun running => ?_⟩
  · rw [relayed, pumped]
    exact relays.order
  · obtain ⟨before, reading⟩ := opened running
    -- The relation is about parts that are as they were.
    have inStep := relays.step before
    simp only [Door.InStep, Door.owed] at inStep ⊢
    rwa [down, outgoing, hungUp, pumped, relayed, reading]

/-- What was relayed and what is owed are together what the router's writer has received. -/
theorem Door.Relays.split {frames : List Frame} {d : Door} (relays : d.Relays frames) :
    frames.take d.pumped = d.relayed ++ d.owed frames := by
  obtain ⟨owed, whole⟩ := relays.order
  -- What was relayed is the beginning, so dropping it leaves what is owed.
  rw [Door.owed, ← whole, List.drop_left]

/-- The writer receives the next frame: all of it is owed and on its way. -/
theorem Door.Relays.receive {frames : List Frame} {d : Door} {b : Bytes} (relays : d.Relays frames)
    (idle : d.outgoing = []) (live : d.hungUp = false)
    (next : (frames.map Frame.encode)[d.pumped]? = some b) :
    { d with pumped := d.pumped + 1, outgoing := b }.Relays frames := by
  obtain ⟨f, queued, rfl⟩ := List.getElem?_map .. ▸ next |> Option.map_eq_some_iff.mp
  -- One more frame is owed after those before it.
  have longer : frames.take (d.pumped + 1) = d.relayed ++ (d.owed frames ++ [f]) := by
    rw [List.take_add_one, queued, relays.split, Option.toList_some, List.append_assoc]
  refine ⟨⟨_, longer.symm⟩, fun running => ?_⟩
  obtain ⟨held, lost, pending, bytes, kept⟩ := relays.step running
  -- Nothing was lost while the writer lives, so its bytes follow those on the wire.
  refine ⟨held, lost, pending, ?_, kept⟩
  have owed : Door.owed frames { d with pumped := d.pumped + 1, outgoing := f.encode } =
      d.owed frames ++ [f] := by
    rw [Door.owed, longer, List.drop_left]
  rw [kept live, idle, List.append_nil, List.append_nil] at bytes
  rw [owed, kept live, List.append_nil]
  simp [bytes, wire]

/-- The read of the relay loop is polled: it goes on, or it yields the first frame that is owed. -/
theorem Door.Relays.polled {frames : List Frame} (unwrapped : ∀ f ∈ frames, f.bodyLength < 2 ^ 32)
    {d : Door} (relays : d.Relays frames) (relaying : d.stage = .relaying) (count : Nat) :
    (Zapd.polled d count).Relays frames := by
  have running : ∀ result, d.stage ≠ .closed result := by simp [relaying]
  -- Until `admit` returns, the read is in step.
  have inStep := relays.step running
  unfold Zapd.polled
  split
  · -- The bytes it was polled with are held from now on.
    rename_i state more
    refine ⟨relays.order, fun _ => ?_⟩
    obtain ⟨held, lost, pending, bytes, kept⟩ := inStep
    refine ⟨held ++ d.down.take count, lost, ?_, ?_, kept⟩
    · rw [poll_append, pending]
      exact more
    · rw [List.append_assoc held, List.take_append_drop]
      exact bytes
  · exact ⟨relays.order, fun closed => absurd rfl (closed _)⟩
  · -- The frame it yields is the first that is owed, and the read after it starts in step.
    rename_i f rest done
    obtain ⟨g, later, lost, owed, kept, ⟨_, same, bytes⟩ | ⟨_, e, failed⟩⟩ :=
      inStep.poll unwrapped done
    · cases same
      have whole := relays.split
      rw [owed, List.append_cons] at whole
      refine ⟨⟨later, whole.symm⟩, fun _ => ⟨[], lost, rfl, ?_, kept⟩⟩
      rw [List.nil_append, bytes, Door.owed, whole, List.drop_left]
    · cases failed

/-- Every undisturbed step keeps the relay in step. -/
theorem Door.Relays.step_keeps {frames : List Frame}
    (unwrapped : ∀ f ∈ frames, f.bodyLength < 2 ^ 32) {d d' : Door} {a : DoorAction}
    (relays : d.Relays frames) (undisturbed : Undisturbed d a)
    (enabled : Door.step (frames.map Frame.encode) d a = some d') : d'.Relays frames := by
  -- Only the writer, the pipe and the read of the loop touch the way to the browser.
  cases door_moves enabled with
  | @greeted m greeting =>
    obtain ⟨⟨down, outgoing, hungUp, pumped, relayed⟩, reading⟩ := browserHello_unmoved d m
    exact relays.unmoved ⟨down, outgoing, hungUp, pumped, relayed⟩
      fun _ => ⟨by simp [greeting], reading⟩
  | @heard m relaying idle =>
    obtain ⟨down, outgoing, hungUp, pumped, relayed⟩ := heard_unmoved d m
    refine relays.unmoved ⟨down, outgoing, hungUp, pumped, relayed⟩ fun running => ?_
    refine ⟨by simp [relaying], ?_⟩
    rcases heard_reading d m with ⟨_, result, closed⟩ | ⟨more, fresh⟩
    · exact absurd closed (running result)
    · -- The read that was pending had taken nothing, so a fresh one is the same.
      rcases undisturbed with start | ends
      · exact fresh.trans start.symm
      · rw [more] at ends
        cases ends
  | wrote relaying =>
    exact relays.unmoved ⟨rfl, rfl, rfl, rfl, rfl⟩ fun running => ⟨running, rfl⟩
  | received idle live next => exact relays.receive idle live next
  | @pumped count live =>
    refine ⟨relays.order, fun running => ?_⟩
    obtain ⟨held, lost, pending, bytes, kept⟩ := relays.step running
    -- The bytes that left the writer are in the pipe now.
    refine ⟨held, lost, pending, Eq.trans ?_ bytes, kept⟩
    simp only [List.append_assoc]
    rw [← List.append_assoc (d.outgoing.take count), List.take_append_drop]
  | polled relaying => exact relays.polled unwrapped relaying _
  | hungUp =>
    refine ⟨relays.order, fun running => ?_⟩
    obtain ⟨held, lost, pending, bytes, kept⟩ := relays.step running
    -- What the writer had not written yet is lost.
    refine ⟨held, d.outgoing ++ lost, pending, ?_, nofun⟩
    rw [List.append_nil, ← List.append_assoc]
    exact bytes
  | drained relaying gone empty =>
    -- The end of the pipe ends `admit` either way.
    have closed : ∃ result, (drained d).stage = .closed result := by
      unfold drained
      split <;> exact ⟨_, rfl⟩
    have unmoved : d.Unmoved (drained d) := by
      unfold drained
      split <;> exact ⟨rfl, rfl, rfl, rfl, rfl⟩
    obtain ⟨result, closed⟩ := closed
    exact relays.unmoved unmoved fun running => absurd closed (running result)
  | quiet relaying =>
    exact relays.unmoved ⟨rfl, rfl, rfl, rfl, rfl⟩ fun running => absurd rfl (running _)
  | failed relaying =>
    exact relays.unmoved ⟨rfl, rfl, rfl, rfl, rfl⟩ fun running => absurd rfl (running _)

/-- A door that has just been opened relays. -/
theorem Door.Relays.initial (frames : List Frame) : ({} : Door).Relays frames :=
  ⟨List.nil_prefix, fun _ => ⟨[], [], rfl, rfl, fun _ => rfl⟩⟩

/-- Every door that only undisturbed steps lead to relays. -/
theorem relays_reached {frames : List Frame} (unwrapped : ∀ f ∈ frames, f.bodyLength < 2 ^ 32)
    {d : Door} (reached : Transition.GuardedReachable Undisturbed
      (Door.step (frames.map Frame.encode)) {} d) : d.Relays frames := by
  apply reached.induction (Door.Relays.initial frames)
  intro state action next _ undisturbed relays enabled
  exact relays.step_keeps unwrapped undisturbed enabled

/-- What was relayed is the beginning of what was queued. -/
theorem Door.Relays.order_queued {frames : List Frame} {d : Door} (relays : d.Relays frames) :
    d.relayed <+: frames :=
  relays.order.trans (List.take_prefix _ _)

/-- A door whose pipe is drained owes the browser nothing. -/
theorem Door.Relays.drained {frames : List Frame} {d : Door} (relays : d.Relays frames)
    (relaying : d.stage = .relaying) (live : d.hungUp = false) (idle : d.outgoing = [])
    (empty : d.down = []) (start : d.reading = .start) : d.relayed = frames.take d.pumped := by
  obtain ⟨held, lost, pending, bytes, kept⟩ := relays.step (by simp [relaying])
  rw [start] at pending
  -- A fresh read holds no bytes, and the pipe and the writer are empty.
  rw [poll_pending_start pending, empty, idle, kept live] at bytes
  -- An encoding is never empty, so nothing on the wire means nothing owed.
  have nothing : d.owed frames = [] := by
    cases owed : d.owed frames with
    | nil => rfl
    | cons f later =>
      rw [owed] at bytes
      have length := congrArg List.length bytes
      simp only [wire_cons, List.length_append, encode_length, List.length_nil] at length
      omega
  rw [relays.split, nothing, List.append_nil]

/-- A read of the relay loop fails only on a frame that does not fit its fields. -/
theorem Door.Relays.unfit {frames : List Frame} (unwrapped : ∀ f ∈ frames, f.bodyLength < 2 ^ 32)
    {d : Door} (relays : d.Relays frames) (relaying : d.stage = .relaying) {count : Nat}
    {result : Except Error Unit} (failed : (Zapd.polled d count).stage = .closed result) :
    ∃ f, frames[d.relayed.length]? = some f ∧ ¬ f.Fits := by
  have inStep := relays.step (by simp [relaying])
  unfold Zapd.polled at failed
  split at failed
  · simp [relaying] at failed
  · rename_i e rest done
    obtain ⟨f, later, _, owed, _, ⟨_, same, _⟩ | ⟨unfit, _⟩⟩ := inStep.poll unwrapped done
    · -- A frame that fits would have been read.
      cases same
    · -- The first frame that is owed is the one after those relayed.
      refine ⟨f, ?_, unfit⟩
      have at_ := congrArg (·[d.relayed.length]?) relays.split
      simp only [owed, List.getElem?_append_right (Nat.le_refl _), Nat.sub_self,
        List.getElem?_cons_zero, List.getElem?_take] at at_
      split at at_
      · exact at_
      · cases at_
  · simp [relaying] at failed

/-- The browser is sent what was queued, in order, and the pipe is read frame by frame. -/
structure Door.Faithful (frames : List Frame) (d : Door) : Prop where
  /-- What was relayed is a prefix of what was queued. -/
  order : d.relayed <+: frames
  /-- Nothing is missing once the pipe is drained. -/
  complete : d.stage = .relaying → d.hungUp = false → d.outgoing = [] → d.down = [] →
    d.reading = .start → d.relayed = frames.take d.pumped
  /-- A read fails only at the next frame, and only because that frame does not fit. -/
  reads : ∀ count d' result, Door.step (frames.map Frame.encode) d (.poll count) = some d' →
    d'.stage = .closed result → ∃ f, frames[d.relayed.length]? = some f ∧ ¬ f.Fits

/--
Where no message makes the loop drop a read that has taken bytes, the door relays faithfully.

No queued frame may be so long that its length wraps.
-/
theorem relay_faithful {frames : List Frame} (unwrapped : ∀ f ∈ frames, f.bodyLength < 2 ^ 32)
    {d : Door} (reached : Transition.GuardedReachable Undisturbed
      (Door.step (frames.map Frame.encode)) {} d) : d.Faithful frames := by
  have relays := relays_reached unwrapped reached
  refine ⟨relays.order_queued, fun relaying live idle empty start =>
    relays.drained relaying live idle empty start, fun count d' result enabled failed => ?_⟩
  -- Only a poll of the read can make it fail.
  cases door_moves enabled with
  | polled relaying => exact relays.unfit unwrapped relaying failed

/-- A frame that arrives in two pieces, with a message before it and none in between. -/
theorem relay_faithful_pieces : ∃ d, Transition.run
      (Door.step ([Frame.new ROUTE "agent/dgx/a" "browser/dgx/b" [7]].map Frame.encode)) {}
      [.message (.binary (Frame.new HELLO "browser/b" "" []).encode), .write 24, .receive,
        .message .ping, .pump 10, .poll 10, .pump 30, .poll 30] = some d ∧
    d.relayed = [Frame.new ROUTE "agent/dgx/a" "browser/dgx/b" [7]] ∧
    d.Faithful [Frame.new ROUTE "agent/dgx/a" "browser/dgx/b" [7]] := by
  have unwrapped : ∀ f ∈ [Frame.new ROUTE "agent/dgx/a" "browser/dgx/b" [7]],
      f.bodyLength < 2 ^ 32 := by decide
  have undisturbed : Transition.Guarded Undisturbed
      (Door.step ([Frame.new ROUTE "agent/dgx/a" "browser/dgx/b" [7]].map Frame.encode)) {}
      [.message (.binary (Frame.new HELLO "browser/b" "" []).encode), .write 24, .receive,
        .message .ping, .pump 10, .poll 10, .pump 30, .poll 30] := by decide
  exact ⟨_, rfl, rfl, relay_faithful unwrapped ⟨_, undisturbed, rfl⟩⟩

/-- A ping that arrives when the pipe was emptied in the middle of a frame drops what was read. -/
theorem ping_drops (queue : List Bytes) {d : Door} {b : Bytes} {extra : Nat} {state : ReadState}
    (relaying : d.stage = .relaying) (idle : d.writing = []) (start : d.reading = .start)
    (empty : d.down = []) (live : d.hungUp = false) (next : d.outgoing = b)
    (long : b.length = CAPACITY + extra) (positive : 0 < extra) (room : extra ≤ CAPACITY)
    (pending : ReadState.start.poll (b.take CAPACITY) = .pending state) :
    Transition.run (Door.step queue) d
      [.pump CAPACITY, .poll CAPACITY, .message .ping, .pump extra] =
    some { d with
      messages := d.messages ++ [.ping], down := b.drop CAPACITY, outgoing := [] } := by
  have full : (b.take CAPACITY).length = CAPACITY := by rw [List.length_take]; omega
  have left : (b.drop CAPACITY).length = extra := by rw [List.length_drop]; omega
  -- The writer fills the pipe, and the read takes all of it.
  have filled : Door.step queue d (.pump CAPACITY) =
      some { d with down := b.take CAPACITY, outgoing := b.drop CAPACITY } := by
    simp only [Door.step, next, empty, live]
    exact if_pos ⟨by decide, by omega, by simp, trivial⟩
  have taken : Door.step queue { d with down := b.take CAPACITY, outgoing := b.drop CAPACITY }
      (.poll CAPACITY) =
      some { d with outgoing := b.drop CAPACITY, reading := state, down := [] } := by
    have selecting : ({ d with down := b.take CAPACITY, outgoing := b.drop CAPACITY } :
        Door).selecting = true := by simp [Door.selecting, relaying, idle]
    simp only [Door.step, selecting, full]
    rw [if_pos ⟨trivial, by decide, Nat.le_refl _⟩, polled, start,
      List.take_of_length_le (Nat.le_of_eq full), pending,
      List.drop_of_length_le (Nat.le_of_eq full)]
  -- The ping drops the read with all that it has taken.
  have dropped : Door.step queue
      { d with outgoing := b.drop CAPACITY, reading := state, down := [] } (.message .ping) =
      some { d with
        messages := d.messages ++ [.ping], outgoing := b.drop CAPACITY, down := [] } := by
    simp [Door.step, relaying, idle, heard, start]
  have rest : Door.step queue
      { d with messages := d.messages ++ [.ping], outgoing := b.drop CAPACITY, down := [] }
      (.pump extra) =
      some { d with
        messages := d.messages ++ [.ping], down := b.drop CAPACITY, outgoing := [] } := by
    simp only [Door.step, live]
    rw [if_pos ⟨positive, by omega, by simpa using room, trivial⟩, List.nil_append,
      List.take_of_length_le (Nat.le_of_eq left), List.drop_of_length_le (Nat.le_of_eq left)]
  rw [Transition.run, filled, Option.bind_some, Transition.run, taken, Option.bind_some,
    Transition.run, dropped, Option.bind_some, Transition.run, rest]
  rfl

/-- A ping that arrives in the middle of a long message leaves only the rest of it to read. -/
theorem disturbed {b : Bytes} {extra : Nat} {state : ReadState}
    (long : b.length = CAPACITY + extra) (positive : 0 < extra) (room : extra ≤ CAPACITY)
    (pending : ReadState.start.poll (b.take CAPACITY) = .pending state) :
    ∃ d, Transition.Reachable (Door.step [b]) {} d ∧ d.stage = .relaying ∧ d.writing = [] ∧
      d.reading = .start ∧ d.relayed = [] ∧ d.down = b.drop CAPACITY := by
  -- The browser says hello, and the router's writer receives the message.
  have opened : ∃ d, Transition.run (Door.step [b]) {}
      [.message (.binary (Frame.new HELLO "browser/b" "" []).encode), .write 24, .receive] =
      some d ∧ d.stage = .relaying ∧ d.writing = [] ∧ d.reading = .start ∧ d.down = [] ∧
      d.hungUp = false ∧ d.outgoing = b ∧ d.relayed = [] :=
    ⟨_, rfl, rfl, rfl, rfl, rfl, rfl, rfl, rfl⟩
  obtain ⟨d, ran, relaying, idle, start, empty, live, next, relayed⟩ := opened
  have dropped := ping_drops [b] relaying idle start empty live next long positive room
    pending
  exact ⟨_, Transition.Reachable.run ⟨_, ran⟩ dropped, relaying, idle, start, relayed, rfl⟩

/-- Zeroes are no length of a frame. -/
theorem zeroes_close (queue : List Bytes) {d : Door} {count : Nat}
    (relaying : d.stage = .relaying) (idle : d.writing = []) (start : d.reading = .start)
    (zeroes : d.down = List.replicate (4 + count) 0) : Door.step queue d (.poll 4) =
      some { d with stage := .closed (.error badLength), down := List.replicate count 0 } := by
  -- Four zeroes are a length prefix that is too short.
  have bad : ReadState.start.poll (d.down.take 4) = .ready (.error badLength) [] := by
    rw [zeroes, List.take_replicate, Nat.min_eq_left (by omega)]
    rfl
  have left : d.down.drop 4 = List.replicate count 0 := by
    rw [zeroes, List.drop_replicate, Nat.add_sub_cancel_left]
  have selecting : d.selecting = true := by simp [Door.selecting, relaying, idle]
  have enough : 4 ≤ d.down.length := by rw [zeroes, List.length_replicate]; omega
  rw [Door.step, if_pos ⟨selecting, by decide, enough⟩, polled, start, bad, left]
  rfl

/-- A call that is longer than the pipe. -/
def longCall : Frame := Frame.new ROUTE "agent/dgx/a" "browser/dgx/b" (List.replicate 70000 0)

theorem longCall_bodyLength : longCall.bodyLength = 70035 := by
  have source : (asBytes "agent/dgx/a").length = 11 := by decide
  have destination : (asBytes "browser/dgx/b").length = 13 := by decide
  rw [longCall, new_bodyLength, source, destination, List.length_replicate]
  rfl

theorem longCall_fits : longCall.Fits :=
  ⟨by decide, by decide, by rw [longCall_bodyLength]; decide⟩

/-- What does not go into the pipe at once is zeroes only. -/
theorem longCall_rest : longCall.encode.drop CAPACITY = List.replicate (4 + 4499) 0 := by
  have zeroes : longCall.payload = List.replicate 70000 0 := new_payload ..
  have past : 4 + longCall.bodyLength ≤ CAPACITY + longCall.payload.length := by
    rw [longCall_bodyLength, zeroes, List.length_replicate]
    decide
  have left : 70000 - (CAPACITY + 70000 - (4 + 70035)) = 4 + 4499 := by decide
  rw [drop_encode past, longCall_bodyLength, zeroes, List.length_replicate, List.drop_replicate,
    left]

/-- A read that fails on a frame that fits is not faithful. -/
theorem Door.Faithful.fits {frames : List Frame} {d d' : Door} {f : Frame} {count : Nat}
    {result : Except Error Unit} (faithful : d.Faithful frames)
    (next : frames[d.relayed.length]? = some f)
    (enabled : Door.step (frames.map Frame.encode) d (.poll count) = some d')
    (failed : d'.stage = .closed result) : ¬ f.Fits := by
  obtain ⟨g, same, unfit⟩ := faithful.reads count d' result enabled failed
  rw [next] at same
  cases same
  exact unfit

/--
A ping arrives while the loop has read what the pipe can hold of a longer frame.

The rest of the frame is read as if it began one, and the door closes on a bad length.
-/
theorem relay_disturbed : ∃ d d', Transition.Reachable (Door.step [longCall.encode]) {} d ∧
    longCall.Fits ∧ d.relayed = [] ∧ Door.step [longCall.encode] d (.poll 4) = some d' ∧
    d'.stage = .closed (.error badLength) ∧ ¬ d.Faithful [longCall] := by
  have long : longCall.encode.length = CAPACITY + (4 + 4499) := by
    rw [encode_length, longCall_bodyLength]
    decide
  obtain ⟨state, pending⟩ := poll_partial (decode_encode longCall_fits)
    (show CAPACITY < longCall.encode.length by omega)
  obtain ⟨d, reached, relaying, idle, start, relayed, down⟩ :=
    disturbed long (by decide) (by decide) pending
  -- Its next read is polled with four of the zeroes.
  have step := zeroes_close [longCall.encode] relaying idle start
    (down.trans longCall_rest)
  refine ⟨d, _, reached, longCall_fits, relayed, step, rfl, fun faithful => ?_⟩
  exact faithful.fits (by rw [relayed]; rfl) step rfl longCall_fits

end Zapd
