import Zapd.Door.Model

/-! What each step of a door can do, with the conditions under which it is enabled. -/

namespace Zapd

open Utf8

/-- A step of the door, one case for each way it can be taken. -/
inductive DoorMoves (queue : List Bytes) (d : Door) : DoorAction → Door → Prop
  | greeted {m : Message} : d.stage = .greeting →
      DoorMoves queue d (.message m) { browserHello d m with messages := d.messages ++ [m] }
  | heard {m : Message} : d.stage = .relaying → d.writing = [] →
      DoorMoves queue d (.message m) { heard d m with messages := d.messages ++ [m] }
  | wrote {count : Nat} : d.stage = .relaying →
      DoorMoves queue d (.write count)
        { d with up := d.up ++ d.writing.take count, writing := d.writing.drop count }
  | received {b : Bytes} : d.outgoing = [] → d.hungUp = false → queue[d.pumped]? = some b →
      DoorMoves queue d .receive { d with pumped := d.pumped + 1, outgoing := b }
  | pumped {count : Nat} : d.hungUp = false →
      DoorMoves queue d (.pump count)
        { d with down := d.down ++ d.outgoing.take count, outgoing := d.outgoing.drop count }
  | polled {count : Nat} : d.stage = .relaying →
      DoorMoves queue d (.poll count) (polled d count)
  | hungUp : DoorMoves queue d .hangUp { d with hungUp := true, outgoing := [] }
  | drained : d.stage = .relaying → d.hungUp = true → d.down = [] →
      DoorMoves queue d .eof (drained d)
  | quiet : d.stage = .relaying →
      DoorMoves queue d .quiet { d with stage := .closed (.error wentQuiet) }
  | failed {e : Error} : d.stage = .relaying →
      DoorMoves queue d (.fail e) { d with stage := .closed (.error e) }

/-- The first message is a HELLO that goes to the router, or the door closes on it. -/
theorem browserHello_spec (d : Door) (m : Message) :
    (∃ b f, m = .binary b ∧ Frame.decode b = .ok f ∧ vets m = some f ∧
      browserHello d m = { d with stage := .relaying, writing := b }) ∨
    (vets m = none ∧ ∃ result refusals,
      browserHello d m = { d with stage := .closed result, refusals }) := by
  cases m with
  | binary b =>
    cases decoded : Frame.decode b with
    | error e =>
      refine .inr ⟨by simp only [vets, decoded], .error e, d.refusals, ?_⟩
      simp only [browserHello, decoded]
    | ok f =>
      -- A frame that decodes is a browser's HELLO, or is refused.
      by_cases refused : f.typ ≠ HELLO ∨ kind f.from_ ≠ "browser"
      · refine .inr ⟨by simp only [vets, decoded, if_pos refused], .error browsersOnly,
          (browserHello d (.binary b)).refusals, ?_⟩
        simp only [browserHello, decoded, if_pos refused]
      · refine .inl ⟨b, f, rfl, decoded, by simp only [vets, decoded, if_neg refused], ?_⟩
        simp only [browserHello, decoded, if_neg refused]
  | ping => exact .inr ⟨rfl, _, d.refusals, rfl⟩
  | pong => exact .inr ⟨rfl, _, d.refusals, rfl⟩
  | other => exact .inr ⟨rfl, _, d.refusals, rfl⟩

/-- A later message goes to the router whole, or nothing of it does. -/
theorem heard_spec (d : Door) (m : Message) :
    (∃ b f, m = .binary b ∧ Frame.decode b = .ok f ∧ passes m = some f ∧
      heard d m = { d with writing := b, reading := .start }) ∨
    (passes m = none ∧ ∃ refusals, heard d m = { d with refusals, reading := .start }) ∨
    (passes m = none ∧ ∃ result, heard d m = { d with stage := .closed result }) := by
  cases m with
  | binary b =>
    cases decoded : Frame.decode b with
    -- What does not decode closes the door.
    | error e =>
      refine .inr (.inr ⟨by simp only [passes, decoded], .error e, ?_⟩)
      simp only [heard, decoded]
    | ok f =>
      -- A frame that decodes is refused if it calls, and else goes on as it came.
      by_cases calls : originates f = true
      · refine .inr (.inl ⟨by simp only [passes, decoded, if_pos calls],
          (heard d (.binary b)).refusals, ?_⟩)
        simp only [heard, decoded, if_pos calls]
      · refine .inl ⟨b, f, rfl, decoded, by simp only [passes, decoded, if_neg calls], ?_⟩
        simp only [heard, decoded, if_neg calls]
  | ping => exact .inr (.inl ⟨rfl, d.refusals, rfl⟩)
  | pong => exact .inr (.inl ⟨rfl, d.refusals, rfl⟩)
  | other => exact .inr (.inr ⟨rfl, _, rfl⟩)

/-- The loop is open only while the stage is relaying. -/
theorem open_relaying {d : Door} (opened : d.open_ = true) : d.stage = .relaying := by
  unfold Door.open_ at opened
  split at opened <;> simp_all

/-- The loop selects only while the stage is relaying and no write is under way. -/
theorem selecting_relaying {d : Door} (selecting : d.selecting = true) :
    d.stage = .relaying ∧ d.writing = [] := by
  unfold Door.selecting at selecting
  split at selecting
  · exact ⟨by assumption, List.isEmpty_iff.mp selecting⟩
  · cases selecting
  · cases selecting

/-- Every enabled step is one of the cases. -/
theorem door_moves {queue : List Bytes} {d d' : Door} {a : DoorAction}
    (enabled : Door.step queue d a = some d') : DoorMoves queue d a d' := by
  -- Each action's condition is read off its own branch of the step.
  cases a with
  -- A message is heard in two stages, and in the second only between writes.
  | message m =>
    simp only [Door.step] at enabled
    split at enabled
    · cases enabled
      exact .greeted (by assumption)
    · split at enabled
      · rename_i relaying idle
        cases enabled
        exact .heard relaying (List.isEmpty_iff.mp idle)
      · cases enabled
    · cases enabled
  | write count =>
    obtain ⟨⟨opened, _⟩, ⟨⟩⟩ := Option.ite_none_right_eq_some.mp enabled
    exact .wrote (open_relaying opened)
  | receive =>
    obtain ⟨⟨idle, live⟩, taken⟩ := Option.ite_none_right_eq_some.mp enabled
    obtain ⟨b, next, rfl⟩ := Option.map_eq_some_iff.mp taken
    exact .received (List.isEmpty_iff.mp idle) live next
  | pump count =>
    obtain ⟨⟨_, _, _, live⟩, ⟨⟩⟩ := Option.ite_none_right_eq_some.mp enabled
    exact .pumped live
  | poll count =>
    obtain ⟨⟨selecting, _⟩, ⟨⟩⟩ := Option.ite_none_right_eq_some.mp enabled
    exact .polled (selecting_relaying selecting).1
  | hangUp =>
    obtain ⟨_, ⟨⟩⟩ := Option.ite_none_left_eq_some.mp enabled
    exact .hungUp
  | eof =>
    obtain ⟨⟨selecting, gone, empty⟩, ⟨⟩⟩ := Option.ite_none_right_eq_some.mp enabled
    exact .drained (selecting_relaying selecting).1 gone (List.isEmpty_iff.mp empty)
  | quiet =>
    obtain ⟨selecting, ⟨⟩⟩ := Option.ite_none_right_eq_some.mp enabled
    exact .quiet (selecting_relaying selecting).1
  | fail e =>
    obtain ⟨opened, ⟨⟩⟩ := Option.ite_none_right_eq_some.mp enabled
    exact .failed (open_relaying opened)

end Zapd
