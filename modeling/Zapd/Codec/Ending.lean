import Zapd.Codec.Envelope

/-! Where a stream may end: behind a whole frame, inside a body, or inside a length prefix. -/

namespace Zapd

open Utf8 Parse

/-- The bytes of whole messages, one behind the other. -/
def joined (messages : List Envelope) : Bytes := messages.flatMap Envelope.bytes

/-- The stream ends strictly inside a message, its length prefix included, behind whole ones. -/
def EndsInside (stream : Bytes) : Prop :=
  ∃ (messages : List Envelope) (m : Envelope) (count : Nat),
    stream = joined messages ++ m.bytes.take count ∧ 0 < count ∧ count < m.bytes.length

/-- The stream ends inside a length prefix: one to three bytes are left behind whole messages. -/
def EndsInPrefix (stream : Bytes) : Prop :=
  ∃ (messages : List Envelope) (left : Bytes),
    stream = joined messages ++ left ∧ 0 < left.length ∧ left.length < 4

/-- A clean end is reported only behind a whole message, and an end inside one is an error. -/
def EndTold (stream : Bytes) : Prop :=
  ((Frame.readAll stream).2 = .ok () → ∃ messages, stream = joined messages) ∧
    (EndsInside stream → ∃ e, (Frame.readAll stream).2 = .error e)

/-- A clean end is reported of every stream too short for a length prefix, and of no other. -/
theorem read_ended {stream : Bytes} : Frame.read stream = .ok none ↔ stream.length < 4 := by
  constructor
  · intro ended
    -- Behind a whole prefix the read fails or yields a frame.
    by_contra enough
    rw [Frame.read, if_neg enough] at ended
    dsimp only at ended
    split at ended
    · cases ended
    · split at ended
      · cases ended
      · split at ended <;> cases ended
  · intro short
    rw [Frame.read, if_pos short]

/-- A short stream yields no frame, and its end is reported as clean. -/
theorem readAll_short {stream : Bytes} (short : stream.length < 4) :
    Frame.readAll stream = ([], .ok ()) := by
  have ended := read_ended.mpr short
  -- Of the three outcomes of the first read only the clean end is left.
  rw [Frame.readAll]
  split
  · rename_i failed
    rw [ended] at failed
    cases failed
  · rfl
  · rename_i taken
    rw [ended] at taken
    cases taken

/-- A read that fails ends the stream with its error. -/
theorem readAll_failed {stream : Bytes} {e : Error} (failed : Frame.read stream = .error e) :
    Frame.readAll stream = ([], .error e) := by
  rw [Frame.readAll]
  split
  · rename_i again
    -- The read fails in one way.
    rw [failed] at again
    cases again
    rfl
  · rename_i ended
    rw [failed] at ended
    cases ended
  · rename_i taken
    rw [failed] at taken
    cases taken

/-- One more message stands in front of the others and of what is left. -/
theorem joined_cons_append (m : Envelope) (messages : List Envelope) (left : Bytes) :
    joined (m :: messages) ++ left = m.bytes ++ (joined messages ++ left) := by
  rw [joined, List.flatMap_cons, List.append_assoc]
  rfl

/-- Whole messages are read as the frames they carry, and then what is behind them. -/
theorem readAll_joined (messages : List Envelope) (left : Bytes) :
    Frame.readAll (joined messages ++ left) =
      (messages.map Envelope.frame ++ (Frame.readAll left).1, (Frame.readAll left).2) := by
  induction messages with
  | nil => rfl
  | cons m messages ih =>
    have first := (decode_iff_read (joined messages ++ left)).mp m.decode_bytes
    -- The first message is consumed exactly, so the induction says the rest.
    rw [joined_cons_append, readAll_cons first, ih]
    rfl

/-- What is reported as a clean end follows whole messages and at most three bytes. -/
theorem of_readAll_ok {stream : Bytes} (ended : (Frame.readAll stream).2 = .ok ()) :
    ∃ (messages : List Envelope) (left : Bytes),
      stream = joined messages ++ left ∧ left.length < 4 := by
  -- Every frame that is read leaves less of the stream.
  induction size : stream.length using Nat.strongRecOn generalizing stream with
  | ind size ih =>
    cases taken : Frame.read stream with
    | error e =>
      rw [readAll_failed taken] at ended
      cases ended
    | ok next =>
      cases next with
      | none => exact ⟨[], stream, rfl, read_ended.mp taken⟩
      | some pair =>
        obtain ⟨f, rest⟩ := pair
        rw [readAll_cons taken] at ended
        have less := read_shrinks taken
        obtain ⟨messages, left, rfl, short⟩ := ih rest.length (by omega) ended rfl
        -- The frame was read off one more message in front.
        obtain ⟨framed, body, rfl, isFramed, parsed⟩ := read_ok.mp taken
        obtain ⟨m, rfl, _⟩ := Envelope.of_decode (decode_ok.mpr ⟨body, isFramed, parsed⟩)
        exact ⟨m :: messages, left, (joined_cons_append m messages left).symm, short⟩

/-- A message that lacks a part of its body is an error. -/
theorem read_cut (m : Envelope) {count : Nat} (prefixed : 4 ≤ count)
    (less : count < m.bytes.length) : Frame.read (m.bytes.take count) = .error earlyEof := by
  have width := m.bytes_length
  have least := m.agrees
  have most := m.bounded
  have enough : ¬ (m.bytes.take count).length < 4 := by
    rw [List.length_take]
    omega
  -- The whole prefix is there, and it states the length of the whole body.
  have stated : ofLe ((m.bytes.take count).take 4) = m.n.toNat := by
    rw [List.take_take, Nat.min_eq_left prefixed, m.bytes_eq, List.take_left' (le32_length _),
      eq_toUInt32 m.body_length, ofLe_le32]
  have missing : ((m.bytes.take count).drop 4).length < m.n.toNat := by
    rw [List.length_drop, List.length_take]
    omega
  -- The stated length is allowed, so it is the missing body that is reported.
  rw [Frame.read, if_neg enough]
  simp only [stated]
  rw [if_neg (by simp only [HEADER]; omega), if_pos missing]

/-- No message is as short as a length prefix. -/
theorem bytes_long (m : Envelope) : 4 ≤ m.bytes.length := by
  rw [m.bytes_length]
  omega

/-- A stream that is whole messages has no part of a prefix left behind whole messages. -/
theorem left_empty {messages more : List Envelope} {left : Bytes}
    (same : joined messages ++ left = joined more) (short : left.length < 4) : left = [] := by
  induction messages generalizing more with
  | nil =>
    cases more with
    | nil => exact same
    | cons m more =>
      -- One more message would be longer than what is left.
      have long := bytes_long m
      have length := congrArg List.length same
      simp only [joined, List.flatMap_nil, List.nil_append, List.flatMap_cons,
        List.length_append] at length
      omega
  | cons m messages ih =>
    rw [joined_cons_append] at same
    cases more with
    | nil =>
      -- The first message alone is more than nothing.
      have long := bytes_long m
      have length := congrArg List.length same
      simp only [joined, List.flatMap_nil, List.length_nil, List.length_append] at length
      omega
    | cons m' more =>
      -- Both streams are read alike, so they leave the same behind their first message.
      have read := (decode_iff_read (joined messages ++ left)).mp m.decode_bytes
      have read' := (decode_iff_read (joined more)).mp m'.decode_bytes
      have second : joined (m' :: more) = m'.bytes ++ joined more := rfl
      rw [same, second, read'] at read
      obtain ⟨_, rest⟩ := Prod.mk.inj (Option.some.inj (Except.ok.inj read))
      exact ih rest.symm

/-- Behind whole messages an end inside a prefix is reported as clean. -/
theorem readAll_inPrefix {stream : Bytes} (within : EndsInPrefix stream) :
    (Frame.readAll stream).2 = .ok () := by
  obtain ⟨messages, left, rfl, _, short⟩ := within
  -- The whole messages are read, and the next read asks for a prefix.
  rw [readAll_joined, readAll_short short]

/-- A stream that ends inside a prefix is not whole messages. -/
theorem not_joined_of_inPrefix {stream : Bytes} (within : EndsInPrefix stream) :
    ∀ messages, stream ≠ joined messages := by
  obtain ⟨messages, left, rfl, some, short⟩ := within
  intro more same
  -- Nothing would be left behind the whole messages.
  rw [left_empty same short] at some
  exact absurd some (Nat.lt_irrefl 0)

/-- An end inside a message, but behind its prefix, is an error. -/
theorem readAll_inBody {messages : List Envelope} {m : Envelope} {count : Nat}
    (prefixed : 4 ≤ count) (less : count < m.bytes.length) :
    (Frame.readAll (joined messages ++ m.bytes.take count)).2 = .error earlyEof := by
  -- The whole messages are read, and the next read waits for a body.
  rw [readAll_joined, readAll_failed (read_cut m prefixed less)]

/-- The end of a stream is told rightly just when it does not fall inside a length prefix. -/
theorem end_told_iff : ∀ stream, EndTold stream ↔ ¬ EndsInPrefix stream := by
  intro stream
  constructor
  · rintro ⟨clean, _⟩ within
    -- The end is reported as clean, yet no whole messages make up the stream.
    obtain ⟨messages, whole⟩ := clean (readAll_inPrefix within)
    exact not_joined_of_inPrefix within messages whole
  · intro outside
    refine ⟨?_, ?_⟩
    · intro ended
      obtain ⟨messages, left, rfl, short⟩ := of_readAll_ok ended
      -- Anything left would be a part of a prefix.
      cases left with
      | nil => exact ⟨messages, List.append_nil _⟩
      | cons byte left =>
        exact absurd ⟨messages, byte :: left, rfl, Nat.succ_pos _, short⟩ outside
    -- Inside a message the missing byte is one of its prefix or of its body.
    · rintro ⟨messages, m, count, rfl, some, less⟩
      by_cases prefixed : 4 ≤ count
      · exact ⟨earlyEof, readAll_inBody prefixed less⟩
      · -- Fewer than four bytes of the message are a part of its prefix.
        have width : (m.bytes.take count).length = count := by
          rw [List.length_take]
          omega
        exact absurd ⟨messages, m.bytes.take count, rfl, by omega, by omega⟩ outside

/-- A welcome and three bytes of the next length prefix, taken for a clean end. -/
theorem torn_prefix_taken_for_end :
    ¬ EndTold (joined [Envelope.welcome] ++ [27, 0, 0]) := by
  rintro ⟨_, told⟩
  -- The three bytes are the first of one more welcome, so the end must be an error.
  obtain ⟨e, failed⟩ := told ⟨[Envelope.welcome], Envelope.welcome, 3, rfl, by decide, by decide⟩
  have within : EndsInPrefix (joined [Envelope.welcome] ++ [27, 0, 0]) :=
    ⟨[Envelope.welcome], [27, 0, 0], rfl, by decide, by decide⟩
  rw [readAll_inPrefix within] at failed
  cases failed

end Zapd
