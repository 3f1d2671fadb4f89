import Zapd.Door.System
import Zapd.Router.Registry
import Zapd.Router.Routing

/-! What a browser can do through the door: which of its frames the router reads, and as whom. -/

namespace Zapd

open Utf8

/-- Messages the door lets through, behind one another: what the router's end parses them as. -/
theorem poll_messages {rest : List (Bytes × Frame)}
    (decoded : ∀ p ∈ rest, Frame.decode p.1 = .ok p.2) {result : Except Error Frame} {left : Bytes}
    (polled : ReadState.start.poll (rest.map Prod.fst).flatten = .ready result left) :
    ∃ b f later, rest = (b, f) :: later ∧ result = .ok f ∧ left = (later.map Prod.fst).flatten := by
  cases rest with
  | nil => cases polled
  | cons p later =>
    -- The two decoders agree on a whole message.
    obtain ⟨b, f⟩ := p
    have whole := decoded (b, f) List.mem_cons_self
    rw [List.map_cons, List.flatten_cons, poll_decoded whole] at polled
    cases polled
    exact ⟨b, f, later, rfl, rfl, rfl⟩

/-- Every frame the door let through was parsed by the router's end or is whole in the pipe. -/
def Door.Piped (d : Door) : Prop :=
  ∃ held, ∃ rest : List (Bytes × Frame), ReadState.start.poll held = .pending d.taking ∧
    (∀ p ∈ rest, Frame.decode p.1 = .ok p.2) ∧
    held ++ d.up ++ d.writing = (rest.map Prod.fst).flatten ∧
    accepted d.messages = d.parsed ++ rest.map Prod.snd

/-- The invariant of a door: what it lets through is what the router's end gets. -/
structure Door.Vets (d : Door) : Prop where
  /-- Before the HELLO the door has let nothing through. -/
  greeting : d.stage = .greeting → d.messages = [] ∧ d.up = [] ∧ d.writing = [] ∧ d.taking = .start
  /-- In the relay loop it has let the HELLO through. -/
  relaying : d.stage = .relaying → accepted d.messages ≠ []
  piped : d.Piped

/-- After a HELLO, a message adds to what the door lets through exactly when it passes. -/
theorem accepted_append {messages : List Message} (greeted : accepted messages ≠ []) (m : Message) :
    accepted (messages ++ [m]) = accepted messages ++ (passes m).toList := by
  cases messages with
  -- Without a HELLO nothing is let through.
  | nil => exact absurd rfl greeted
  | cons first later =>
    simp only [List.cons_append, accepted] at greeted ⊢
    cases vetted : vets first with
    | none => simp [vetted] at greeted
    | some hello => cases passed : passes m <;> simp [passed]

/-- A step that leaves the way to the router alone keeps the invariant of a door. -/
theorem Door.Vets.unmoved {d d' : Door} (vets : d.Vets) (stage : d'.stage = d.stage ∨
      ∃ result, d'.stage = .closed result) (messages : accepted d'.messages = accepted d.messages)
    (start : d'.stage = .greeting → d'.messages = d.messages) (up : d'.up = d.up)
    (writing : d'.writing = d.writing) (taking : d'.taking = d.taking)
    (parsed : d'.parsed = d.parsed) : d'.Vets := by
  refine ⟨fun greeting => ?_, fun relaying => ?_, ?_⟩
  · -- A door that is still waiting for its HELLO was so before.
    rcases stage with same | ⟨result, closed⟩
    · rw [start greeting, up, writing, taking]
      exact vets.greeting (same ▸ greeting)
    · simp [closed] at greeting
  · rcases stage with same | ⟨result, closed⟩
    · rw [messages]
      exact vets.relaying (same ▸ relaying)
    · simp [closed] at relaying
  · -- Every part of the way to the router is as it was.
    have piped := vets.piped
    unfold Door.Piped at piped ⊢
    rwa [up, writing, taking, parsed, messages]

/-- The HELLO is vetted, or the door closes on it. -/
theorem Door.Vets.greeted {d : Door} (vets : d.Vets) (greeting : d.stage = .greeting)
    (m : Message) : { browserHello d m with messages := d.messages ++ [m] }.Vets := by
  obtain ⟨held, rest, pending, decoded, bytes, frames⟩ := vets.piped
  obtain ⟨silent, noneUp, noneWriting, start⟩ := vets.greeting greeting
  -- Nothing was let through so far, so nothing is in the pipe.
  rw [start] at pending
  have untaken := poll_pending_start pending
  rw [silent] at frames
  have untouched : d.parsed = [] ∧ rest = [] := by simpa [accepted] using frames.symm
  rcases browserHello_spec d m with
    ⟨b, f, rfl, whole, vetted, same⟩ | ⟨refused, result, refusals, same⟩
  · rw [same]
    -- The HELLO is whole in the pipe.
    have let_ : accepted [.binary b] = [f] := by simp [accepted, vetted]
    refine ⟨by simp, fun _ => by simp [silent, let_], [], [(b, f)], ?_, ?_, ?_, ?_⟩
    · simp [start]; rfl
    · simpa using whole
    · simp [noneUp]
    · simp [silent, let_, untouched.1]
  · rw [same]
    -- The door is closed, and lets nothing through.
    have nothing : accepted [m] = [] := by simp [accepted, refused]
    refine ⟨by simp, by simp, [], [], ?_, by simp, ?_, ?_⟩
    · simp [start]; rfl
    · simp [noneUp, noneWriting]
    · simp [silent, nothing, untouched.1]

/-- A later message is let through whole, or nothing of it is. -/
theorem Door.Vets.heard {d : Door} (vets : d.Vets) (relaying : d.stage = .relaying)
    (idle : d.writing = []) (m : Message) :
    { Zapd.heard d m with messages := d.messages ++ [m] }.Vets := by
  have greeted := vets.relaying relaying
  have more := accepted_append greeted m
  rcases heard_spec d m with
    ⟨b, f, rfl, whole, passed, same⟩ | ⟨kept, refusals, same⟩ | ⟨kept, result, same⟩
  · -- The message goes into the pipe behind what the door let through before it.
    obtain ⟨held, rest, pending, decoded, bytes, frames⟩ := vets.piped
    rw [same]
    rw [passed, Option.toList_some] at more
    refine ⟨by simp [relaying], fun _ => ?_, held, rest ++ [(b, f)], pending, ?_, ?_, ?_⟩
    · rw [more]
      exact List.append_ne_nil_of_left_ne_nil greeted _
    · intro p member
      rcases List.mem_append.mp member with before | last
      · exact decoded p before
      · obtain rfl := List.mem_singleton.mp last
        exact whole
    · rw [idle, List.append_nil] at bytes
      simp [← bytes]
    · rw [more, frames]
      simp
  · -- A refused call adds nothing.
    rw [kept, Option.toList_none, List.append_nil] at more
    rw [same]
    exact vets.unmoved (.inl rfl) more (by simp [relaying]) rfl rfl rfl rfl
  · rw [kept, Option.toList_none, List.append_nil] at more
    rw [same]
    exact vets.unmoved (.inr ⟨_, rfl⟩) more (by simp) rfl rfl rfl rfl

/-- Every step of the door keeps its invariant. -/
theorem Door.Vets.step {queue : List Bytes} {d d' : Door} {a : DoorAction} (vets : d.Vets)
    (enabled : Door.step queue d a = some d') : d'.Vets := by
  cases door_moves enabled with
  | greeted greeting => exact vets.greeted greeting _
  | heard relaying idle => exact vets.heard relaying idle _
  | @wrote count relaying =>
    -- The bytes that left the door are in the pipe now.
    obtain ⟨held, rest, pending, decoded, bytes, frames⟩ := vets.piped
    refine ⟨by simp [relaying], fun _ => vets.relaying relaying, held, rest, pending, decoded, ?_,
      frames⟩
    rw [← bytes]
    simp
  | received _ _ _ => exact vets.unmoved (.inl rfl) rfl (fun _ => rfl) rfl rfl rfl rfl
  | pumped _ => exact vets.unmoved (.inl rfl) rfl (fun _ => rfl) rfl rfl rfl rfl
  | @polled count relaying =>
    unfold Zapd.polled
    split
    · exact vets.unmoved (.inl rfl) rfl (fun _ => rfl) rfl rfl rfl rfl
    · exact vets.unmoved (.inr ⟨_, rfl⟩) rfl (fun _ => rfl) rfl rfl rfl rfl
    · exact vets.unmoved (.inl rfl) rfl (fun _ => rfl) rfl rfl rfl rfl
  | hungUp => exact vets.unmoved (.inl rfl) rfl (fun _ => rfl) rfl rfl rfl rfl
  | drained _ _ _ =>
    unfold Zapd.drained
    split
    · exact vets.unmoved (.inr ⟨_, rfl⟩) rfl (fun _ => rfl) rfl rfl rfl rfl
    · exact vets.unmoved (.inr ⟨_, rfl⟩) rfl (fun _ => rfl) rfl rfl rfl rfl
  | quiet _ => exact vets.unmoved (.inr ⟨_, rfl⟩) rfl (fun _ => rfl) rfl rfl rfl rfl
  | failed _ => exact vets.unmoved (.inr ⟨_, rfl⟩) rfl (fun _ => rfl) rfl rfl rfl rfl

/-- The door parses nothing itself. -/
theorem door_parsed {queue : List Bytes} {d d' : Door} {a : DoorAction}
    (enabled : Door.step queue d a = some d') : d'.parsed = d.parsed := by
  cases door_moves enabled with
  -- The door forwards what it reads, and the router has not read it yet.
  | @greeted m greeting =>
    rcases browserHello_spec d m with ⟨b, f, _, _, _, same⟩ | ⟨_, result, refusals, same⟩
    all_goals rw [same]
  | @heard m relaying idle =>
    rcases heard_spec d m with ⟨b, f, _, _, _, same⟩ | ⟨_, refusals, same⟩ | ⟨_, result, same⟩
    all_goals rw [same]
  | polled _ =>
    unfold Zapd.polled
    split <;> rfl
  | drained _ _ _ =>
    unfold Zapd.drained
    split <;> rfl
  | _ => rfl

/-- A poll of the router's end that goes on holds what it was polled with. -/
theorem Door.Vets.taken {d : Door} (vets : d.Vets) {count : Nat} {state : ReadState}
    (some_ : d.up ≠ []) (polled : d.taking.poll (d.up.take count) = .pending state) :
    (d.took state (d.up.drop count) none).Vets := by
  -- The bytes that were taken are added to those the pending read holds.
  obtain ⟨held, rest, pending, decoded, bytes, frames⟩ := vets.piped
  refine ⟨fun greeting => absurd (vets.greeting greeting).2.1 some_, vets.relaying,
    held ++ d.up.take count, rest, ?_, decoded, ?_, ?_⟩
  · rw [poll_append, pending]
    exact polled
  · rw [← bytes]
    simp [Door.took]
  · rw [Door.took, Option.toList_none, List.append_nil]
    exact frames

/-- A poll of the router's end that completes yields the next frame that the door let through. -/
theorem Door.Vets.parsed {d : Door} (vets : d.Vets) {count : Nat} {result : Except Error Frame}
    {left : Bytes} (some_ : d.up ≠ [])
    (polled : d.taking.poll (d.up.take count) = .ready result left) :
    ∃ f later, result = .ok f ∧ accepted d.messages = d.parsed ++ f :: later ∧
      (d.took .start (left ++ d.up.drop count) (some f)).Vets := by
  obtain ⟨held, rest, pending, decoded, bytes, frames⟩ := vets.piped
  -- Together with what the read held, these bytes start with whole messages.
  have whole : ReadState.start.poll (rest.map Prod.fst).flatten =
      .ready result (left ++ d.up.drop count ++ d.writing) := by
    rw [← bytes, ← List.take_append_drop count d.up, List.append_assoc, List.append_assoc,
      poll_append, pending]
    simp only [poll_append, polled, List.take_append_drop, List.append_assoc]
  -- The first of them is the message that is read.
  obtain ⟨b, f, later, rfl, rfl, remaining⟩ := poll_messages decoded whole
  rw [List.map_cons] at frames
  refine ⟨f, later.map Prod.snd, rfl, frames, ?_⟩
  refine ⟨fun greeting => absurd (vets.greeting greeting).2.1 some_, vets.relaying, [], later, rfl,
    fun p member => decoded p (List.mem_cons_of_mem _ member), ?_, ?_⟩
  · rw [List.nil_append]
    exact remaining
  · rw [Door.took, Option.toList_some, List.append_assoc]
    exact frames

/-- The first frame that the door lets through is the HELLO of a browser. -/
theorem accepted_hello {messages : List Message} {f : Frame} {later : List Frame}
    (first : accepted messages = f :: later) : f.typ = HELLO ∧ kind f.from_ = "browser" := by
  unfold accepted at first
  split at first
  · cases first
  · rename_i message _
    split at first
    · cases first
    · rename_i hello vetted
      cases first
      unfold vets at vetted
      split at vetted
      · split at vetted
        · -- What is vetted has the type and the kind that were checked.
          obtain ⟨plain, same⟩ := Option.ite_none_left_eq_some.mp vetted
          cases same
          simpa using plain
        · cases vetted
      all_goals cases vetted

/-- What the door lets through later is for the router itself or an answer. -/
theorem accepted_later {messages : List Message} {f : Frame}
    (member : f ∈ (accepted messages).drop 1) : originates f = false := by
  unfold accepted at member
  split at member
  · simp at member
  · split at member
    · simp at member
    · obtain ⟨m, _, passed⟩ := List.mem_filterMap.mp (by simpa using member)
      unfold passes at passed
      split at passed
      · split at passed
        · -- What passes was found not to originate anything.
          obtain ⟨answers, same⟩ := Option.ite_none_left_eq_some.mp passed
          cases same
          simpa using answers
        · cases passed
      all_goals cases passed

/-- A step that reads no frame keeps what its connection has read, and its id. -/
theorem Acts.keeps_received {s t : Router} {a : Action} {conn : Conn} (acts : Acts s a t conn)
    (unread : ∀ f, a ≠ .read a.conn (.ok (some f))) :
    conn.received = (s.conns a.conn).received ∧ conn.id = (s.conns a.conn).id ∧
      conn.phase ≠ .hello ∧
      (conn.phase.named = true → (s.conns a.conn).phase.named = true) := by
  cases acts with
  | greeted first waiting =>
    rcases first with e | _ | f
    · simp [greet]
    · simp [greet]
    · exact absurd rfl (unread f)
  | received next relaying =>
    rcases next with e | _ | f
    · simp [receive, relaying]
    · simp [receive, relaying]
    · exact absurd rfl (unread f)
  | @forwarded c f forwarding =>
    simp only [conn_advance, forwarding]
    split <;> simp
  | @replied c q owed =>
    -- A reply is owed only by a registered connection.
    have holding := Conn.holding_of_reply owed
    refine ⟨rfl, rfl, by simp, fun _ => ?_⟩
    exact Phase.named_of_drawn (Phase.drawn_of_entered (Phase.entered_of_holding holding))
  | @broke c spawned =>
    refine ⟨rfl, rfl, fun hello => ?_, id⟩
    -- A connection whose writer runs is past its HELLO.
    have waiting : (s.conns c).phase = .hello := hello
    simp [waiting] at spawned
  | _ => simp_all [refusal]

/-- A step that reads a frame greets with it or relays it. -/
theorem Acts.reads_frame {s t : Router} {c : ConnId} {f : Frame} {conn : Conn}
    (acts : Acts s (.read c (.ok (some f))) t conn) :
    conn.phase ≠ .hello ∧
      (((s.conns c).phase = .hello ∧ conn.received = (s.conns c).received ∧
          (conn.id = (s.conns c).id ∨ stamp f.from_ s.host = some conn.id)) ∨
        ((s.conns c).phase.named = true ∧ conn.received = (s.conns c).received ++ [f] ∧
          conn.id = (s.conns c).id)) := by
  cases acts with
  | greeted first waiting =>
    -- The HELLO sets an id that was stamped, or none.
    rw [waiting]
    unfold greet
    dsimp only
    split
    · simp
    · split
      · simp [refusal]
      · rename_i id stamped
        split <;> simp [stamped]
  | received next relaying =>
    refine ⟨?_, .inr ⟨by simp [relaying], rfl, rfl⟩⟩
    simp only [receive, dispatch]
    split
    · split
      · simp
      · split <;> simp
    · simp

/-- The invariant of a door and the task behind it: the task acts on what the door let through. -/
structure Confined (d : Door) (conn : Conn) : Prop where
  vets : d.Vets
  /-- A task that waits for its HELLO has read nothing. -/
  waiting : conn.phase = .hello → d.parsed = []
  /-- A task that has an id has read its HELLO. -/
  greeted : conn.phase.named = true → d.parsed ≠ []
  /-- After the HELLO, the task relays every frame it reads. -/
  received : conn.received = d.parsed.drop 1
  browser : conn.id = "" ∨ kind conn.id = "browser"

/-- Nobody has said anything yet. -/
theorem Confined.initial (takeOver : Bool) : Confined {} { takeOver } where
  vets := ⟨fun _ => ⟨rfl, rfl, rfl, rfl⟩, nofun, [], [], rfl, nofun, rfl, rfl⟩
  waiting _ := rfl
  greeted named := by cases named
  received := rfl
  browser := .inl rfl

/-- A step of the door that parses nothing keeps the task behind it confined. -/
theorem Confined.door {d d' : Door} {conn : Conn} (confined : Confined d conn) (vets : d'.Vets)
    (parsed : d'.parsed = d.parsed) : Confined d' conn :=
  ⟨vets, by rw [parsed]; exact confined.waiting, by rw [parsed]; exact confined.greeted,
    by rw [parsed]; exact confined.received, confined.browser⟩

/-- A step of the task that reads no frame keeps it confined. -/
theorem Confined.unread {d : Door} {s t : Router} {a : Action} {conn : Conn}
    (confined : Confined d (s.conns a.conn)) (acts : Acts s a t conn)
    (unread : ∀ f, a ≠ .read a.conn (.ok (some f))) : Confined d conn := by
  obtain ⟨received, id, later, named⟩ := acts.keeps_received unread
  refine ⟨confined.vets, fun waiting => absurd waiting later,
    fun isNamed => confined.greeted (named isNamed), received.trans confined.received, ?_⟩
  -- The id is as it was.
  rw [id]
  exact confined.browser

/-- A frame that the task reads is the next one that the door let through. -/
theorem Confined.reads {d : Door} {s t : Router} {c : ConnId} {conn : Conn} {count : Nat}
    {f : Frame} {left : Bytes} (confined : Confined d (s.conns c)) (some_ : d.up ≠ [])
    (polled : d.taking.poll (d.up.take count) = .ready (.ok f) left)
    (acts : Acts s (.read c (.ok (some f))) t conn) :
    Confined (d.took .start (left ++ d.up.drop count) (some f)) conn := by
  obtain ⟨g, later, same, next, vets⟩ := confined.vets.parsed some_ polled
  cases same
  obtain ⟨past, outcome⟩ := acts.reads_frame
  have grown : (d.took .start (left ++ d.up.drop count) (some f)).parsed = d.parsed ++ [f] := rfl
  refine ⟨vets, fun waiting => absurd waiting past, fun _ => by simp [grown], ?_, ?_⟩
  · rcases outcome with ⟨waiting, same, _⟩ | ⟨named, more, _⟩
    · -- The HELLO is read before the loop.
      rw [same, confined.received, grown, confined.waiting waiting]
      rfl
    · have greeted := List.length_pos_iff.mpr (confined.greeted named)
      rw [more, confined.received, grown, List.drop_append_of_le_length (by omega)]
  · rcases outcome with ⟨waiting, _, same | stamped⟩ | ⟨_, _, same⟩
    · -- The HELLO was refused before an id was stamped.
      rw [same]
      exact confined.browser
    · -- The id is stamped on the kind that the door has checked.
      rw [confined.waiting waiting, List.nil_append] at next
      exact .inr ((kind_stamp stamped).trans (accepted_hello next).2)
    · rw [same]
      exact confined.browser

/-- Every step of the system keeps a connection of the door confined. -/
theorem Confined.step {s s' : System} {a : SystemAction} (enabled : s.step a = some s')
    {c : ConnId} (door : (s.router.conns c).takeOver = false)
    (confined : Confined (s.doors c) (s.router.conns c)) :
    Confined (s'.doors c) (s'.router.conns c) := by
  by_cases self : c = a.conn
  · subst self
    cases system_moves enabled with
    | @routed r next piped stepped =>
      obtain ⟨t, acts⟩ := step_moves stepped
      refine confined.unread acts ?_
      -- What the task reads comes through the pipe.
      intro f read
      cases r with
      | read c outcome =>
        -- Only connections that come through no door read otherwise.
        have onUds : (s.router.conns c).takeOver = true := by simpa [Action.bypasses] using piped
        exact absurd (onUds.symm.trans door) (by decide)
      | _ => cases read
    | moved stepped =>
      simp only [SystemAction.conn, Function.update_self] at confined ⊢
      exact confined.door (confined.vets.step stepped) (door_parsed stepped)
    | waits some_ polled =>
      simp only [SystemAction.conn, Function.update_self] at confined ⊢
      exact confined.door (confined.vets.taken some_ polled) (List.append_nil _)
    | reads some_ polled stepped =>
      simp only [SystemAction.conn, Function.update_self] at confined ⊢
      obtain ⟨t, acts⟩ := step_moves stepped
      obtain ⟨f, later, rfl, _⟩ := confined.vets.parsed some_ polled
      exact confined.reads some_ polled acts
    | @ended c next stepped =>
      obtain ⟨t, acts⟩ := step_moves stepped
      refine confined.unread acts ?_
      intro f read
      cases taking : (s.doors c).taking <;> simp [taking, ReadState.atEof] at read
  · -- A step of another connection touches neither.
    rw [system_doors enabled self, system_other enabled self]
    exact confined

/-- Whether a connection comes through the door never changes. -/
theorem RouterReachable.takeOver {host : String} {door : ConnId → Bool} {s : Router}
    (reached : RouterReachable host door s) (c : ConnId) : (s.conns c).takeOver = !door c := by
  refine reached.invariant (P := fun s => (s.conns c).takeOver = !door c) rfl ?_
  intro state action next same enabled
  rw [step_takeOver enabled, same]

/-- In every reachable system, the connections of the door are confined. -/
theorem SystemReachable.confined {host : String} {door : ConnId → Bool} {s : System}
    (reached : SystemReachable host door s) {c : ConnId} (browser : door c = true) :
    Confined (s.doors c) (s.router.conns c) := by
  refine Transition.Reachable.induction reached
    (P := fun s => Confined (s.doors c) (s.router.conns c)) (Confined.initial _) ?_
  intro state action next before confined enabled
  -- The connection still comes through the door.
  have onDoor := (SystemReachable.router before).takeOver c
  rw [browser] at onDoor
  exact confined.step enabled onDoor

/-- A frame relayed on account of a confined connection is an answer. -/
theorem Confined.answers {d : Door} {conn : Conn} (confined : Confined d conn) {n : Nat} {f : Frame}
    (read : conn.received[n]? = some f) (addressed : f.to_ ≠ "") : f.typ = RESPONSE := by
  -- It is one of the frames the door let through after the HELLO.
  obtain ⟨held, rest, _, _, _, frames⟩ := confined.vets.piped
  have member : f ∈ d.parsed.drop 1 := confined.received ▸ List.mem_of_getElem? read
  have later : f ∈ (accepted d.messages).drop 1 := by
    rw [frames, List.drop_append]
    exact List.mem_append_left _ member
  have passes := accepted_later later
  simpa [originates, addressed] using passes

/-- What a browser can do to a router, in one state of the system. -/
structure Authority (s : System) (c : ConnId) : Prop where
  /-- The task behind the door reads what the door let through, in order. -/
  parsed : (s.doors c).parsed <+: accepted (s.doors c).messages
  /-- All it relays is what it reads after the HELLO. -/
  received : (s.router.conns c).received = (s.doors c).parsed.drop 1
  /-- The one id it can register is a browser's. -/
  registered : ∀ id, (id, c) ∈ s.router.claims → id = (s.router.conns c).id ∧ kind id = "browser"
  /-- No step of it touches an entry of another connection. -/
  keeps : ∀ a s' id p, a.conn = c → s.step a = some s' → s.router.peers.lookup id = some p →
    p.conn ≠ c → s'.router.peers.lookup id = some p
  /-- Whatever it gets onto a channel is an answer, from the browser it registered as. -/
  answers : ∀ b q n, q ∈ s.router.queues b → q.origin = .relayed c n →
    q.frame.typ = RESPONSE ∧ (q.frame.from_, c) ∈ s.router.claims ∧ kind q.frame.from_ = "browser"

/-- A connection of the door has no more than a browser's authority, whatever it is sent. -/
theorem door_authority {host : String} {door : ConnId → Bool} {s : System}
    (reached : SystemReachable host door s) {c : ConnId} (browser : door c = true) :
    Authority s c := by
  have wf := reached.router.wellFormed
  have confined := reached.confined browser
  have onDoor : (s.router.conns c).takeOver = false := by
    rw [reached.router.takeOver c, browser]
    rfl
  have registered : ∀ id, (id, c) ∈ s.router.claims →
      id = (s.router.conns c).id ∧ kind id = "browser" := by
    intro id claim
    obtain ⟨same, _⟩ := wf.claimed id c claim
    obtain ⟨proposed, stamped⟩ := wf.genuine id c claim
    refine ⟨same.symm, ?_⟩
    -- A registered id is not empty, so the kind was checked.
    rcases confined.browser with empty | plain
    · exact absurd (same.symm.trans empty) (stamp_ne_empty stamped)
    · exact same ▸ plain
  refine ⟨?_, confined.received, registered, ?_, ?_⟩
  · obtain ⟨_, rest, _, _, _, frames⟩ := confined.vets.piped
    exact ⟨_, frames.symm⟩
  · intro a s' id p on enabled found other
    -- The step does nothing to the router, or is one that the door's flag restrains.
    rcases system_router enabled with same | ⟨r, self, stepped⟩
    · rw [same]
      exact found
    · have own : r.conn = c := self.trans on
      exact wf.door_keeps stepped (own ▸ onDoor) id p found (own ▸ other)
  · intro b q n member relayed
    obtain ⟨f, read, addressed, claimed, built⟩ :
        Origin.Accounts s.router (.relayed c n) q.frame :=
      relayed ▸ (reached.router.traced member).accounted
    have answer : f.typ = RESPONSE := confined.answers read addressed
    -- The frame on the channel has the type and destination that were read.
    rw [built]
    exact ⟨answer, claimed, (registered _ claimed).2⟩

/-- A browser registers and answers an agent: the agent's channel gets the answer. -/
theorem door_authority_answer : ∃ s, SystemReachable "dgx" (fun c => c == 1) s ∧
    ⟨Frame.new RESPONSE "browser/dgx/b" "agent/dgx/a" [7], .relayed 1 0⟩ ∈ s.router.queues 0 ∧
    Authority s 1 := by
  -- A browser answers an agent that it was never asked by.
  have ran : (Transition.run System.step (System.initial "dgx" fun c => c == 1)
      ((joins 0 "agent/a").map .router ++
        [.browser 1 (.message (.binary
            (Frame.new HELLO "browser/b" "" (encodeHello ⟨1, "", [], []⟩)).encode)),
          .browser 1 (.write 31), .take 1 7, .take 1 24,
          .router (.advance 1), .router (.advance 1), .router (.advance 1), .router (.advance 1),
          .router (.advance 1),
          .browser 1 (.message (.binary (Frame.new RESPONSE "" "agent/dgx/a" [7]).encode)),
          .browser 1 (.write 27), .take 1 27, .router (.advance 1)])).map
      (fun s => decide (⟨Frame.new RESPONSE "browser/dgx/b" "agent/dgx/a" [7], .relayed 1 0⟩ ∈
        s.router.queues 0)) = some true := by decide +kernel
  obtain ⟨s, ran, got⟩ := Option.map_eq_some_iff.mp ran
  have reached : SystemReachable "dgx" (fun c => c == 1) s := ⟨_, ran⟩
  exact ⟨s, reached, of_decide_eq_true got, door_authority reached rfl⟩

end Zapd
