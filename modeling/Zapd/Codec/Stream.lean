import Zapd.Codec.FrameLaws

/-! `Frame::read` as it is polled: it takes bytes as they become readable, until it has a frame. -/

namespace Zapd

open Utf8 Parse

/-- What a pending `Frame::read` has taken so far, one case for each of its two `read_exact`. -/
inductive ReadState
  | prefixed (got : Bytes)
  | body (len : Nat) (got : Bytes)
  deriving DecidableEq

/-- A `Frame::read` that has taken nothing. -/
def ReadState.start : ReadState := .prefixed []

/-- One more byte: the read goes on, or it is done. -/
def ReadState.feed (state : ReadState) (byte : UInt8) : ReadState ⊕ Except Error Frame :=
  match state with
  | .prefixed got =>
    let lenb := got ++ [byte]
    -- The first `read_exact` ends with the fourth byte.
    if lenb.length < 4 then .inl (.prefixed lenb)
    else
      let len := ofLe lenb
      if len > MAX_FRAME ∨ len < HEADER then .inr (.error badLength) else .inl (.body len [])
  | .body len got =>
    let buf := got ++ [byte]
    -- The second `read_exact` ends with the last byte of the body.
    if buf.length < len then .inl (.body len buf) else .inr (Frame.body buf)

/-- The outcome of polling a read: it has taken all there was, or it left some bytes. -/
inductive Polled
  | pending (state : ReadState)
  | ready (result : Except Error Frame) (rest : Bytes)

/-- Poll a read while these bytes can be read and the stream has not ended. -/
def ReadState.poll (state : ReadState) : Bytes → Polled
  | [] => .pending state
  | byte :: more =>
    match state.feed byte with
    | .inl next => next.poll more
    | .inr result => .ready result more

/-- What a pending read returns when the stream ends. -/
def ReadState.atEof : ReadState → Except Error (Option Frame)
  | .prefixed _ => .ok none
  | .body .. => .error earlyEof

/-- Reading on after some bytes is the same as reading them together with what follows. -/
theorem poll_append (state : ReadState) (left right : Bytes) :
    state.poll (left ++ right) =
      match state.poll left with
      | .pending next => next.poll right
      | .ready result rest => .ready result (rest ++ right) := by
  -- The bytes are fed one at a time, wherever the boundary between the chunks is.
  induction left generalizing state with
  | nil => rfl
  | cons byte more ih =>
    simp only [List.cons_append, ReadState.poll]
    cases fed : state.feed byte with
    | inl next => exact ih next
    -- The read was done within the first chunk, so the second is left.
    | inr result => rfl

/-- A read that stands where it started has taken nothing. -/
theorem poll_pending_start {state : ReadState} {bytes : Bytes}
    (pending : state.poll bytes = .pending .start) : bytes = [] := by
  -- A byte that is fed stays in the prefix or is counted by the body.
  induction bytes generalizing state with
  | nil => rfl
  | cons byte more ih =>
    simp only [ReadState.poll] at pending
    split at pending
    · rename_i next fed
      -- Had the rest been empty, this byte alone would be in the state.
      rw [ih pending] at pending
      cases pending
      cases state with
      | prefixed got =>
        simp only [ReadState.feed] at fed
        split at fed
        · simp [ReadState.start] at fed
        · split at fed <;> simp [ReadState.start] at fed
      | body len got =>
        simp only [ReadState.feed] at fed
        split at fed <;> simp [ReadState.start] at fed
    · cases pending

/-- What is polled next, once a byte has been fed. -/
def ReadState.after (fed : ReadState ⊕ Except Error Frame) (more : Bytes) : Polled :=
  match fed with
  | .inl next => next.poll more
  | .inr result => .ready result more

theorem poll_cons (state : ReadState) (byte : UInt8) (more : Bytes) :
    state.poll (byte :: more) = ReadState.after (state.feed byte) more := rfl

/-- One `read_exact`: bytes are kept until there are as many as it asks for, and then taken. -/
def ReadsExact (kept : Bytes → ReadState) (count : Nat)
    (taken : Bytes → ReadState ⊕ Except Error Frame) : Prop :=
  ∀ got byte, (kept got).feed byte =
    if (got ++ [byte]).length < count then .inl (kept (got ++ [byte])) else taken (got ++ [byte])

/-- The first asks for the length prefix and checks it. -/
theorem prefix_exact : ReadsExact .prefixed 4 fun lenb =>
    if ofLe lenb > MAX_FRAME ∨ ofLe lenb < HEADER then .inr (.error badLength)
    else .inl (.body (ofLe lenb) []) :=
  fun _ _ => rfl

/-- The second asks for the body and parses it. -/
theorem body_exact (len : Nat) : ReadsExact (.body len) len fun buf => .inr (Frame.body buf) :=
  fun _ _ => rfl

section Exact

variable {kept : Bytes → ReadState} {count : Nat} {taken : Bytes → ReadState ⊕ Except Error Frame}

/-- What is not whole yet is kept. -/
theorem ReadsExact.poll_short (reads : ReadsExact kept count taken) {got bytes : Bytes}
    (short : (got ++ bytes).length < count) :
    (kept got).poll bytes = .pending (kept (got ++ bytes)) := by
  induction bytes generalizing got with
  | nil => simp [ReadState.poll]
  | cons byte more ih =>
    -- The next byte does not complete it either.
    have next : (got ++ [byte] ++ more).length < count := by simpa using short
    have one : (got ++ [byte]).length < count := by
      simp only [List.length_append, List.length_cons, List.length_nil] at next ⊢
      omega
    rw [poll_cons, reads, if_pos one, ReadState.after, ih next, List.append_assoc]
    rfl

/-- What is whole is taken, and the read goes on with what follows. -/
theorem ReadsExact.poll_whole (reads : ReadsExact kept count taken) {got bytes : Bytes}
    (more : got.length < count) (whole : (got ++ bytes).length = count) (rest : Bytes) :
    (kept got).poll (bytes ++ rest) = ReadState.after (taken (got ++ bytes)) rest := by
  induction bytes generalizing got with
  | nil =>
    rw [List.append_nil] at whole
    omega
  | cons byte tail ih =>
    have assoc : got ++ [byte] ++ tail = got ++ (byte :: tail) := by simp
    rw [List.cons_append, poll_cons, reads]
    by_cases one : (got ++ [byte]).length < count
    · -- It is still not whole after this byte.
      rw [if_pos one, ReadState.after, ih one (by rw [assoc]; exact whole), assoc]
    · -- This byte is the last one that was asked for.
      have last : tail = [] := by
        rw [← assoc, List.length_append] at whole
        exact List.eq_nil_of_length_eq_zero (by omega)
      rw [if_neg one, last, List.nil_append]

end Exact

/-- Polling with all the bytes of a stream and then its end is reading the stream. -/
theorem read_eq_poll (stream : Bytes) : Frame.read stream =
    match ReadState.start.poll stream with
    | .pending state => state.atEof.map fun f => f.map (·, [])
    | .ready (.error e) _ => .error e
    | .ready (.ok f) rest => .ok (some (f, rest)) := by
  unfold Frame.read
  by_cases short : stream.length < 4
  · -- The stream ends inside the length prefix.
    rw [if_pos short, ReadState.start, prefix_exact.poll_short (by simpa using short)]
    rfl
  · have width : (stream.take 4).length = 4 := by simp; omega
    conv_rhs => rw [← List.take_append_drop 4 stream]
    rw [if_neg short, ReadState.start, prefix_exact.poll_whole (by simp) (by simpa using width)]
    simp only [List.nil_append]
    split
    · -- A bad length is refused before the body is read.
      rfl
    · rename_i bounds
      have positive : 0 < ofLe (stream.take 4) := by simp only [HEADER] at bounds; omega
      by_cases missing : (stream.drop 4).length < ofLe (stream.take 4)
      · -- The stream ends inside the body.
        rw [if_pos missing, ReadState.after,
          (body_exact _).poll_short (by simpa using missing)]
        rfl
      · -- The whole body is there, and is parsed.
        have bodyWidth : ((stream.drop 4).take (ofLe (stream.take 4))).length =
            ofLe (stream.take 4) := by
          rw [List.length_take]
          omega
        conv_rhs => rw [← List.take_append_drop (ofLe (stream.take 4)) (stream.drop 4)]
        rw [if_neg missing, ReadState.after,
          (body_exact _).poll_whole (by simpa using positive) (by simpa using bodyWidth)]
        simp only [List.nil_append, ReadState.after]
        cases Frame.body ((stream.drop 4).take (ofLe (stream.take 4))) <;> rfl

/-- A whole message is read, whatever follows it, as the frame it decodes to. -/
theorem poll_decoded {b : Bytes} {f : Frame} (decoded : Frame.decode b = .ok f) (rest : Bytes) :
    ReadState.start.poll (b ++ rest) = .ready (.ok f) rest := by
  have read := (decode_iff_read rest).mp decoded
  rw [read_eq_poll] at read
  split at read
  · -- A stream that ended would leave nothing to follow the message.
    rename_i state polled
    cases state <;> cases read
  · cases read
  · cases read
    -- The poll that was found is the one in question.
    assumption

/-- A read that has not got all of a message yet is pending. -/
theorem poll_partial {b : Bytes} {f : Frame} (decoded : Frame.decode b = .ok f) {count : Nat}
    (less : count < b.length) : ∃ state, ReadState.start.poll (b.take count) = .pending state := by
  cases polled : ReadState.start.poll (b.take count) with
  | pending state => exact ⟨state, rfl⟩
  | ready result rest =>
    -- The read of the whole message would leave what it has not got yet.
    have whole := poll_append .start (b.take count) (b.drop count)
    rw [polled, List.take_append_drop, ← List.append_nil b, poll_decoded decoded] at whole
    simp only [Polled.ready.injEq, List.nil_eq_append_iff, List.drop_eq_nil_iff] at whole
    simp only [List.append_nil] at whole
    omega

end Zapd
