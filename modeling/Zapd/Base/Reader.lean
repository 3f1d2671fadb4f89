import Mathlib.Algebra.Order.Ring.Nat
import Mathlib.Data.List.Basic
import Zapd.Base.Utf8

/-! Readers over bytes: what they accept, what they leave, and how they compose. -/

namespace Parse

open Utf8 (Bytes)

variable {ε α β : Type}

/-- A reader takes a value off the front of some bytes, or refuses them. -/
abbrev Reader (ε : Type) := StateT Bytes (Except ε)

/-- Take exactly the given number of bytes. -/
def take (short : ε) (count : Nat) : Reader ε Bytes := fun bytes =>
  if bytes.length < count then .error short else .ok (bytes.take count, bytes.drop count)

/-- Read one value after another, as many as counted. -/
def times : Nat → Reader ε α → Reader ε (List α)
  | 0, _ => pure []
  | count + 1, item => do
    let first ← item
    let rest ← times count item
    return first :: rest

/-- The reader takes precisely these bytes for this value, whatever follows them. -/
def Reads (reader : Reader ε α) (bytes : Bytes) (value : α) : Prop :=
  ∀ rest, reader (bytes ++ rest) = .ok (value, rest)

/-- A sequenced reader succeeds exactly when its two halves do, one after the other. -/
theorem bind_ok {first : Reader ε α} {next : α → Reader ε β} {bytes rest : Bytes} {value : β} :
    (first >>= next) bytes = .ok (value, rest) ↔
      ∃ a mid, first bytes = .ok (a, mid) ∧ next a mid = .ok (value, rest) := by
  -- The monad runs the second half on what the first one left.
  show (StateT.bind first next) bytes = _ ↔ _
  cases read : first bytes with
  | error e => simp [StateT.bind, read, Bind.bind, Except.bind]
  | ok pair =>
    obtain ⟨a, mid⟩ := pair
    simp [StateT.bind, read, Bind.bind, Except.bind]

/-- Returning a value uses no bytes. -/
theorem pure_ok {value other : α} {bytes rest : Bytes} :
    (pure value : Reader ε α) bytes = .ok (other, rest) ↔ value = other ∧ bytes = rest := by
  show Except.ok (value, bytes) = _ ↔ _
  simp

theorem reads_pure (value : α) : Reads (pure value : Reader ε α) [] value := fun _ => rfl

/-- Two readings in sequence read the concatenated bytes. -/
theorem Reads.bind {first : Reader ε α} {next : α → Reader ε β} {left right : Bytes} {a : α}
    {value : β} (head : Reads first left a) (tail : Reads (next a) right value) :
    Reads (first >>= next) (left ++ right) value := by
  intro rest
  rw [bind_ok]
  -- The first reader leaves the bytes of the second, with what follows both.
  exact ⟨a, right ++ rest, by rw [List.append_assoc]; exact head _, tail rest⟩

/-- Reading a value and applying a function to it uses the same bytes. -/
theorem Reads.map {reader : Reader ε α} {bytes : Bytes} {value : α} (f : α → β)
    (read : Reads reader bytes value) : Reads (reader >>= fun a => pure (f a)) bytes (f value) := by
  -- Applying a function is a second reader that uses no bytes.
  rw [← List.append_nil bytes]
  exact Reads.bind read (reads_pure (f value))

/-- Taking bytes succeeds exactly when there are enough of them. -/
theorem take_ok {short : ε} {count : Nat} {bytes value rest : Bytes} :
    take short count bytes = .ok (value, rest) ↔ value.length = count ∧ bytes = value ++ rest := by
  unfold take
  split
  · rename_i tooFew
    refine ⟨fun accepted => by simp at accepted, ?_⟩
    -- A value of that length would have been enough bytes.
    rintro ⟨width, rfl⟩
    rw [List.length_append] at tooFew
    omega
  · rename_i enough
    constructor
    · intro accepted
      -- What is taken is the front of the bytes, and the rest is left.
      obtain ⟨rfl, rfl⟩ : bytes.take count = value ∧ bytes.drop count = rest := by
        simpa using accepted
      exact ⟨by simp; omega, by simp⟩
    · rintro ⟨rfl, rfl⟩
      simp

/-- Items read one after another are read as a list. -/
theorem reads_times {item : Reader ε α} {write : α → Bytes} {values : List α}
    (each : ∀ value ∈ values, Reads item (write value) value) :
    Reads (times values.length item) (values.flatMap write) values := by
  -- The first item is read off the front and the others follow.
  induction values with
  | nil => exact reads_pure []
  | cons value rest ih =>
    have head := each value (by simp)
    -- The remaining items are read as the induction says, from the rest of the bytes.
    have tail := ih fun v member => each v (by simp [member])
    simpa [times] using head.bind (tail.map (value :: ·))

/-- Reading so many items yields that many. -/
theorem times_length {item : Reader ε α} {count : Nat} {bytes rest : Bytes} {values : List α}
    (accepted : times count item bytes = .ok (values, rest)) : values.length = count := by
  induction count generalizing bytes values rest with
  | zero =>
    obtain ⟨rfl, _⟩ := pure_ok.mp accepted
    rfl
  | succ count ih =>
    -- One item is read, then as many as are left to count.
    obtain ⟨first, mid, _, tail⟩ := bind_ok.mp accepted
    obtain ⟨others, end_, more, finished⟩ := bind_ok.mp tail
    obtain ⟨rfl, _⟩ := pure_ok.mp finished
    simp [ih more]

/--
A reader undoes a writer exactly on the values that fit.

A value that does not fit is never read back as itself, whatever bytes follow it.
-/
structure Inverts (reader : Reader ε α) (write : α → Bytes) (fits : α → Prop) : Prop where
  reads : ∀ value, fits value → Reads reader (write value) value
  only : ∀ value rest left, reader (write value ++ rest) = .ok (value, left) →
    fits value ∧ left = rest

/-- A reader that undoes a writer undoes it item by item on a list. -/
theorem Inverts.times {item : Reader ε α} {write : α → Bytes} {fits : α → Prop}
    (each : Inverts item write fits) {values : List α} {rest left : Bytes}
    (read : Parse.times values.length item (values.flatMap write ++ rest) = .ok (values, left)) :
    (∀ value ∈ values, fits value) ∧ left = rest := by
  -- The first value was read back as itself, so what follows it was left untouched.
  induction values with
  | nil =>
    obtain ⟨_, same⟩ := pure_ok.mp read
    exact ⟨by simp, same.symm⟩
  | cons value values ih =>
    obtain ⟨first, mid, head, more⟩ := bind_ok.mp read
    obtain ⟨others, mid', tail, finished⟩ := bind_ok.mp more
    obtain ⟨same, rfl⟩ := pure_ok.mp finished
    obtain ⟨rfl, rfl⟩ := List.cons.inj same
    rw [List.flatMap_cons, List.append_assoc] at head
    -- Only a value that fits is read back as itself.
    obtain ⟨fit, rfl⟩ := each.only _ _ _ head
    obtain ⟨fitAll, same⟩ := ih tail
    exact ⟨List.forall_mem_cons.mpr ⟨fit, fitAll⟩, same⟩

/-- What a reader accepts does not depend on the bytes behind it, and those it leaves alone. -/
def Local (reader : Reader ε α) : Prop :=
  ∀ bytes value rest more, reader bytes = .ok (value, rest) →
    reader (bytes ++ more) = .ok (value, rest ++ more)

theorem local_pure (value : α) : Local (pure value : Reader ε α) := by
  intro bytes other rest more accepted
  obtain ⟨rfl, rfl⟩ := pure_ok.mp accepted
  exact pure_ok.mpr ⟨rfl, rfl⟩

/-- Local readers in sequence are a local reader. -/
theorem Local.bind {first : Reader ε α} {next : α → Reader ε β} (head : Local first)
    (tail : ∀ a, Local (next a)) : Local (first >>= next) := by
  intro bytes value rest more accepted
  obtain ⟨a, mid, taken, left⟩ := bind_ok.mp accepted
  -- The first half leaves the further bytes behind what the second half takes.
  exact bind_ok.mpr ⟨a, mid ++ more, head _ _ _ _ taken, tail a _ _ _ _ left⟩

theorem local_take (short : ε) (count : Nat) : Local (take short count) := by
  intro bytes value rest more accepted
  obtain ⟨width, rfl⟩ := take_ok.mp accepted
  exact take_ok.mpr ⟨width, List.append_assoc ..⟩

/-- Items read one after another by a local reader are read by a local reader. -/
theorem local_times {item : Reader ε α} (each : Local item) (count : Nat) :
    Local (times count item) := by
  induction count with
  | zero => exact local_pure []
  | succ count ih => exact each.bind fun first => ih.bind fun rest => local_pure (first :: rest)

/-- A local reader that takes all of some bytes takes all of no other prefix of them. -/
theorem Local.whole_prefix {reader : Reader ε α} (isLocal : Local reader) {bytes more : Bytes}
    {value other : α} (whole : reader (bytes ++ more) = .ok (value, []))
    (accepted : reader bytes = .ok (other, [])) : more = [] := by
  -- What is accepted of the prefix is accepted of the whole, and leaves the difference.
  have extended := isLocal _ _ _ more accepted
  rw [whole] at extended
  exact (Prod.mk.inj (Except.ok.inj extended)).2.symm

/-! Little-endian numbers of a fixed width. -/

/-- The low bytes of a number, least significant first. -/
def leBytes : Nat → Nat → Bytes
  | 0, _ => []
  | width + 1, value => UInt8.ofNat (value % 256) :: leBytes width (value / 256)

/-- The number some bytes stand for, least significant first. -/
def ofLe : Bytes → Nat
  | [] => 0
  | byte :: rest => byte.toNat + 256 * ofLe rest

@[simp] theorem leBytes_length (width value : Nat) : (leBytes width value).length = width := by
  induction width generalizing value with
  | zero => rfl
  | succ width ih => simp [leBytes, ih]

/-- Writing a number and reading it back keeps what fits the width. -/
theorem ofLe_leBytes (width value : Nat) : ofLe (leBytes width value) = value % 256 ^ width := by
  induction width generalizing value with
  -- No bytes hold nothing, which is any number modulo one.
  | zero => simp [leBytes, ofLe, Nat.mod_one]
  | succ width ih =>
    -- The first byte is the number modulo 256, and the others hold the quotient.
    have low : (UInt8.ofNat (value % 256)).toNat = value % 256 := by simp
    rw [leBytes, ofLe, ih, low, Nat.pow_succ, Nat.mul_comm (256 ^ width), Nat.mod_mul]

/-- Reading bytes and writing the number at the same width gives the bytes back. -/
theorem leBytes_ofLe (bytes : Bytes) : leBytes bytes.length (ofLe bytes) = bytes := by
  induction bytes with
  | nil => rfl
  | cons byte rest ih =>
    have small := byte.toNat_lt
    -- The first byte is what is left of the number modulo 256.
    have low : (byte.toNat + 256 * ofLe rest) % 256 = byte.toNat := by omega
    have high : (byte.toNat + 256 * ofLe rest) / 256 = ofLe rest := by omega
    rw [List.length_cons, ofLe, leBytes, low, high, ih, UInt8.ofNat_toNat]

/-- A number read from bytes is below the bound of their width. -/
theorem ofLe_lt (bytes : Bytes) : ofLe bytes < 256 ^ bytes.length := by
  induction bytes with
  | nil => simp [ofLe]
  | cons byte rest ih =>
    have small := byte.toNat_lt
    -- A byte is below 256, and so is what it adds to 256 times the rest.
    rw [List.length_cons, Nat.pow_succ, ofLe]
    omega

end Parse
