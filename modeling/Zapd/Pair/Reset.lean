import Zapd.Pair.Minted

/-! A token that a reset has replaced is never read again. -/

namespace Zapd

open Utf8 Files

variable {s s' : PairFile} {key : Key}

/-- Temporary files are not shared, and no token is drawn twice. -/
def PairFile.Careful (s : PairFile) : PairAction → Prop
  | .act _ (.mint given) => ∀ other ∈ s.handed, other.key ≠ given.key
  | a => s.Alone a

instance (s : PairFile) (a : PairAction) : Decidable (s.Careful a) :=
  match a with
  | .act _ (.mint given) =>
    inferInstanceAs (Decidable (∀ other ∈ s.handed, other.key ≠ given.key))
  | .act t .create => inferInstanceAs (Decidable (s.Alone (.act t .create)))
  | .act _ .read | .act _ .write | .act _ .sync | .act _ .move | .act _ .remove
  | .act _ (.fail ..) | .load _ | .reset _ | .crash _ => .isTrue trivial

/-- Whoever is careful shares no temporary file. -/
theorem PairFile.Careful.alone {a : PairAction} (careful : s.Careful a) : s.Alone a := by
  cases a with
  | act t op =>
    cases op with
    | mint given => trivial
    | _ => exact careful
  | _ => exact careful

/-- A pairing that was handed over in this step has a token of its own. -/
theorem fresh_of_step {a : PairAction} (careful : s.Careful a) (enabled : s.step a = some s')
    {given : Pairing} (handed : s'.handed = given :: s.handed) :
    ∀ other ∈ s.handed, other.key ≠ given.key := by
  -- Only a mint hands anything over.
  have grows : ∀ rest : List Pairing, rest ≠ given :: rest := fun rest same => by
    have length := congrArg List.length same
    simp at length
  cases a with
  | act t op =>
    obtain ⟨task, _, acted⟩ := Option.bind_eq_some_iff.mp enabled
    obtain ⟨next, _, rfl⟩ := Option.map_eq_some_iff.mp acted
    cases op with
    | mint minted =>
      obtain ⟨rfl, _⟩ := List.cons.inj handed
      exact careful
    | _ => exact absurd handed (grows _)
  | load process | reset process | crash process =>
    cases enabled
    exact absurd handed (grows _)

/-- A call has this pairing to publish because it had it before, or because it minted it now. -/
theorem PairFile.Goes.given (goes : s.Goes s') {t : Nat} {task : PairTask} {given : Pairing}
    (here : s'.tasks[t]? = some task) (gives : task.doing.given = some given) :
    (∃ before, s.tasks[t]? = some before ∧ before.doing.given = some given) ∨
      (s'.handed = given :: s.handed ∧
        ∀ (u : Nat) (other : PairTask), t ≠ u → s'.tasks[u]? = some other →
          s.tasks[u]? = some other) := by
  -- A call that replaces another in the list had the same pairing.
  have replaced : ∀ {u : Nat} {old next : PairTask}, s.tasks[u]? = some old →
      (next.doing.given = none ∨ next.doing.given = old.doing.given) →
      (s.tasks.set u next)[t]? = some task →
      ∃ before, s.tasks[t]? = some before ∧ before.doing.given = some given := by
    intro u old next was kept there
    rcases set_cases there with ⟨rfl, rfl⟩ | ⟨_, before⟩
    · rcases kept with none | same
      · rw [none] at gives
        cases gives
      · exact ⟨old, was, same ▸ gives⟩
    · exact ⟨task, before, gives⟩
  cases goes with
  | @called new reading =>
    by_cases old : t < s.tasks.length
    · rw [List.getElem?_append_left old] at here
      exact .inl ⟨task, here, gives⟩
    · -- The new call has nothing to publish.
      rw [List.getElem?_append_right (Nat.le_of_not_lt old)] at here
      rw [List.mem_singleton.mp (List.mem_of_getElem? here), reading] at gives
      cases gives
  | crashed process =>
    rw [List.getElem?_map] at here
    obtain ⟨old, before, rfl⟩ := Option.map_eq_some_iff.mp here
    rcases crash_released process old with gone | same
    · rw [gone] at gives
      cases gives
    · exact .inl ⟨old, before, same ▸ gives⟩
  | on was _ none _ => exact .inl (replaced was (.inl none) here)
  | @minted u old minted was minting port =>
    rcases set_cases here with ⟨rfl, rfl⟩ | ⟨_, before⟩
    · cases gives
      refine .inr ⟨rfl, fun v other differ there => ?_⟩
      rwa [List.getElem?_set_ne differ] at there
    · exact .inl ⟨task, before, gives⟩
  | opened was creating _ => exact .inl (replaced was (.inr (by rw [creating]; rfl)) here)
  | wrote was writing => exact .inl (replaced was (.inr (by rw [writing]; rfl)) here)
  | torn was _ => exact .inl (replaced was (.inl (published_spec _ _).2.1) here)
  | synced was syncing => exact .inl (replaced was (.inr (by rw [syncing]; rfl)) here)
  | moved was _ _ => exact .inl (replaced was (.inl rfl) here)
  | removed was _ => exact .inl (replaced was (.inl (published_spec _ _).2.1) here)

/-- Pairings that were handed over stay so. -/
theorem PairFile.Goes.handed (goes : s.Goes s') : s.handed ⊆ s'.handed := by
  cases goes with
  | minted => exact List.subset_cons_self _ _
  | _ => exact List.Subset.refl _

/-- What a move that succeeds has published is the pairing of the call that moved. -/
theorem PairFile.Whole.reads_moved (whole : s.Whole) {t : Nat} {task : PairTask} {given : Pairing}
    {file : Inode} {volume : PairVolume} (here : s.tasks[t]? = some task)
    (moving : task.doing = .moving given file) (move : task.move s.volume = .ok volume) :
    readPair volume = .ok given := by
  have content : s.volume.content file = given.text :=
    whole.content t task file given.text here (by rw [moving]; rfl)
  have mine : given ∈ s.handed := whole.handed t task given here (by rw [moving]; rfl)
  have held := whole.held t task file here (by rw [moving]; rfl)
  refine readPair_text (whole.named given mine) ?_
  obtain ⟨bound, named, how⟩ := move_spec move
  -- The temporary name leads to the file that the call wrote.
  obtain rfl : bound = file := by
    rcases held.temp with temp | missing
    · exact Option.some.inj (named.symm.trans temp)
    · cases named.symm.trans missing
  rcases how with ⟨_, _, rfl⟩ | ⟨_, moved⟩
  · simp [Volume.read, content]
  · rw [moved held.hidden]
    simp [Volume.read, Volume.unlink, content]

/-- What is read changes only when a call publishes its pairing. -/
theorem PairFile.Goes.reads (goes : s.Goes s') (whole : s.Whole) :
    readPair s'.volume = readPair s.volume ∨
      ∃ (t : Nat) (task : PairTask) (given : Pairing), s.tasks[t]? = some task ∧
        task.doing.given = some given ∧ readPair s'.volume = .ok given ∧ s'.handed = s.handed ∧
        ∀ next : PairTask, s'.tasks[t]? = some next → next.doing.given = none := by
  have same : ∀ {volume : PairVolume}, volume.read .pair = s.volume.read .pair →
      readPair volume = readPair s.volume := fun kept => by
    unfold readPair
    rw [kept]
  cases goes with
  | called | crashed | on | minted | synced => exact .inl rfl
  | opened here creating free =>
    exact .inl (same (read_create whole.sound (by simp) (free_spec free).2))
  | @wrote t task given file here writing =>
    exact .inl (same (read_write _ (whole.held t task file here (by rw [writing]; rfl)).hidden))
  | @torn t task given file data error here writing =>
    exact .inl (same (read_write _ (whole.held t task file here (by rw [writing]; rfl)).hidden))
  | @moved t task given file volume here moving move =>
    refine .inr ⟨t, task, given, here, by rw [moving]; rfl,
      whole.reads_moved here moving move, rfl, ?_⟩
    intro next there
    rcases set_cases there with ⟨_, rfl⟩ | ⟨differ, _⟩
    · rfl
    · exact absurd rfl differ
  | removed here removing => exact .inl (same (read_unlink PairName.noConfusion))

/-- Whatever is read was handed over. -/
theorem PairFile.Whole.handed_of_read (whole : s.Whole) {p : Pairing}
    (read : readPair s.volume = .ok p) : p ∈ s.handed := by
  cases found : s.volume.read .pair with
  | none => simp [readPair, found] at read
  | some bytes =>
    obtain ⟨given, member, _, reads⟩ := whole.read found
    rw [read] at reads
    cases reads
    exact member

/-- No two calls are about to publish the same token, and none the one that is published. -/
structure PairFile.Distinct (s : PairFile) : Prop where
  held : ∀ (t u : Nat) (task other : PairTask) (given given' : Pairing), s.tasks[t]? = some task →
    s.tasks[u]? = some other → task.doing.given = some given → other.doing.given = some given' →
      given.key = given'.key → t = u
  apart : ∀ (t : Nat) (task : PairTask) (given p : Pairing), s.tasks[t]? = some task →
    task.doing.given = some given → readPair s.volume = .ok p → p.key ≠ given.key

/-- Nothing was called. -/
theorem PairFile.Distinct.initial : PairFile.initial.Distinct where
  held t u task other given given' here := by cases here
  apart t task given p here := by cases here

/-- Every careful step keeps the tokens apart. -/
theorem PairFile.Distinct.step (distinct : s.Distinct) (whole : s.Whole) (goes : s.Goes s')
    (fresh : ∀ given, s'.handed = given :: s.handed → ∀ other ∈ s.handed, other.key ≠ given.key) :
    s'.Distinct := by
  constructor
  · intro t u task other given given' here there gives gives' same
    rcases goes.given here gives with ⟨before, was, gave⟩ | ⟨minted, kept⟩
    · have old := whole.handed t before given was gave
      rcases goes.given there gives' with ⟨before', was', gave'⟩ | ⟨minted, _⟩
      · exact distinct.held t u before before' given given' was was' gave gave' same
      · -- A token minted now is none of the old ones.
        exact absurd same (fresh given' minted given old)
    · by_contra differ
      have old := whole.handed u other given' (kept u other differ there) gives'
      exact fresh given minted given' old same.symm
  · intro t task given p here gives read
    rcases goes.reads whole with same | ⟨u, mover, moved, was', gave', published, handed, done⟩
    · rw [same] at read
      rcases goes.given here gives with ⟨before, was, gave⟩ | ⟨minted, _⟩
      · exact distinct.apart t before given p was gave read
      · exact fresh given minted p (whole.handed_of_read read)
    · -- Whoever published is done with its pairing, and nobody else has its token.
      cases published.symm.trans read
      rcases goes.given here gives with ⟨before, was, gave⟩ | ⟨minted, _⟩
      · intro same
        obtain rfl := distinct.held u t mover before p given was' was gave' gave same
        cases (done task here).symm.trans gives
      · rw [handed] at minted
        have length := congrArg List.length minted
        simp at length

/-- A token that was handed over and that nobody is about to publish. -/
structure PairFile.Settled (s : PairFile) (key : Key) : Prop where
  known : ∃ p ∈ s.handed, p.key = key
  free : ∀ (t : Nat) (task : PairTask) (given : Pairing), s.tasks[t]? = some task →
    task.doing.given = some given → given.key ≠ key

/-- The token that is published is settled. -/
theorem PairFile.Distinct.settled (distinct : s.Distinct) (whole : s.Whole) {p : Pairing}
    (read : readPair s.volume = .ok p) : s.Settled p.key where
  known := ⟨p, whole.handed_of_read read, rfl⟩
  free t task given here gives := (distinct.apart t task given p here gives read).symm

/-- What is settled stays so. -/
theorem PairFile.Settled.step (settled : s.Settled key) (goes : s.Goes s')
    (fresh : ∀ given, s'.handed = given :: s.handed → ∀ other ∈ s.handed, other.key ≠ given.key) :
    s'.Settled key := by
  obtain ⟨p, member, same⟩ := settled.known
  refine ⟨⟨p, goes.handed member, same⟩, ?_⟩
  intro t task given here gives
  rcases goes.given here gives with ⟨before, was, gave⟩ | ⟨minted, _⟩
  · exact settled.free t before given was gave
  · rw [← same]
    exact (fresh given minted p member).symm

/-- A settled token that is not read any more. -/
structure PairFile.Retired (s : PairFile) (key : Key) : Prop extends s.Settled key where
  gone : ∀ p, readPair s.volume = .ok p → p.key ≠ key

/-- What is retired stays so. -/
theorem PairFile.Retired.step (retired : s.Retired key) (whole : s.Whole) (goes : s.Goes s')
    (fresh : ∀ given, s'.handed = given :: s.handed → ∀ other ∈ s.handed, other.key ≠ given.key) :
    s'.Retired key := by
  refine ⟨retired.toSettled.step goes fresh, ?_⟩
  intro p read
  rcases goes.reads whole with same | ⟨t, task, given, here, gives, published, _⟩
  · exact retired.gone p (same ▸ read)
  · -- Whatever is published now was about to be, and the token was not.
    cases published.symm.trans read
    exact retired.free t task p here gives

/-- A reset that has replaced the published file: its rename succeeded. -/
def PairTask.replaced (task : PairTask) : Prop :=
  task.purpose = .after ∨ (task.purpose = .replace ∧ task.doing = .removing (.ok ()))

instance (task : PairTask) : Decidable task.replaced :=
  inferInstanceAs (Decidable (_ ∨ _))

/-- A load that has its result has replaced nothing by it. -/
theorem replaced_of_finish {task : PairTask} {result : Except Error Pairing}
    (replaced : (task.finish result).replaced) : task.purpose = .after := by
  unfold PairTask.finish at replaced
  split at replaced
  · rcases replaced with after | ⟨_, removing⟩
    · cases after
    · cases removing
  · rcases replaced with after | ⟨_, removing⟩
    · exact after
    · cases removing

/-- A publish that has its result has replaced the file if it is good. -/
theorem replaced_of_published {task : PairTask} {moved : Except Error Unit}
    (replaced : (task.published moved).replaced) :
    task.purpose = .after ∨ (task.purpose = .replace ∧ moved = .ok ()) := by
  unfold PairTask.published at replaced
  split at replaced
  · rename_i purpose
    exact .inr ⟨purpose, rfl⟩
  · rcases replaced with after | ⟨_, removing⟩
    · exact .inl after
    · cases removing
  · rcases replaced with after | ⟨_, removing⟩
    · exact .inl after
    · cases removing

/-- A call on its way to something else has replaced nothing, unless it had before. -/
theorem replaced_of_moving {task : PairTask} {doing : Doing} (other : doing ≠ .removing (.ok ()))
    (replaced : ({ task with doing } : PairTask).replaced) : task.replaced := by
  rcases replaced with after | ⟨_, removing⟩
  · exact .inl after
  · exact absurd removing other

/-- A call that fails has replaced the file before. -/
theorem replaced_of_fail {task next : PairTask} {volume volume' : PairVolume} {error : Error}
    {written : Nat} (failed : task.fail volume error written = some (next, volume'))
    (replaced : next.replaced) : task.replaced := by
  unfold PairTask.fail at failed
  split at failed <;> cases failed
  case h_4 | h_5 | h_6 =>
    -- What comes before the move ends the call, or leads to the read behind it.
    exact .inl ((replaced_of_published replaced).resolve_right fun moved => by cases moved.2)
  case h_7 => exact replaced_of_moving (fun removing => by cases removing) replaced
  case h_8 moved removing =>
    rcases replaced_of_published replaced with after | ⟨purpose, rfl⟩
    · exact .inl after
    · exact .inr ⟨purpose, removing⟩
  all_goals exact .inl (replaced_of_finish replaced)

/-- A call comes to have replaced the file by its move. -/
theorem replaced_of_act {task next : PairTask} {volume volume' : PairVolume} {op : FileOp}
    (acted : task.act volume op = some (next, volume')) (replaced : next.replaced) :
    task.replaced ∨ ∃ given file, task.doing = .moving given file ∧
      task.move volume = .ok volume' := by
  unfold PairTask.act at acted
  split at acted
  · -- The first read of a load.
    split at acted
    · cases acted
      exact .inl (.inl (replaced_of_finish replaced))
    · split at acted <;> cases acted
      · exact .inl (replaced_of_moving (fun removing => by cases removing) replaced)
      · exact .inl (.inl (replaced_of_finish replaced))
  · cases acted
    exact .inl (.inl (replaced_of_finish replaced))
  · split at acted <;> cases acted
    exact .inl (replaced_of_moving (fun removing => by cases removing) replaced)
  · cases acted
    exact .inl (replaced_of_moving (fun removing => by cases removing) replaced)
  · cases acted
    exact .inl (replaced_of_moving (fun removing => by cases removing) replaced)
  · cases acted
    exact .inl (replaced_of_moving (fun removing => by cases removing) replaced)
  · rename_i given file moving
    split at acted <;> cases acted
    · rename_i move
      exact .inr ⟨given, file, moving, move⟩
    · exact .inl (replaced_of_moving (fun removing => by cases removing) replaced)
  · rename_i moved removing
    cases acted
    rcases replaced_of_published replaced with after | ⟨purpose, rfl⟩
    · exact .inl (.inl after)
    · exact .inl (.inr ⟨purpose, removing⟩)
  · exact .inl (replaced_of_fail acted replaced)
  · cases acted

/-- A reset that has replaced the file had done so before, or published its pairing in this step. -/
theorem PairFile.Whole.replaced (whole : s.Whole) {a : PairAction} (enabled : s.step a = some s')
    {t : Nat} {task : PairTask} (here : s'.tasks[t]? = some task) (replaced : task.replaced) :
    (∃ before, s.tasks[t]? = some before ∧ before.replaced) ∨
      ∃ (before : PairTask) (given : Pairing), s.tasks[t]? = some before ∧
        before.doing.given = some given ∧ readPair s'.volume = .ok given := by
  -- A call that was just made has replaced nothing.
  have called : ∀ new : PairTask, ¬ new.replaced → (s.tasks ++ [new])[t]? = some task →
      ∃ before, s.tasks[t]? = some before ∧ before.replaced := by
    intro new not there
    rcases Nat.lt_or_ge t s.tasks.length with old | behind
    · rw [List.getElem?_append_left old] at there
      exact ⟨task, there, replaced⟩
    · rw [List.getElem?_append_right behind] at there
      rw [List.mem_singleton.mp (List.mem_of_getElem? there)] at replaced
      exact absurd replaced not
  cases a with
  | load process =>
    cases enabled
    exact .inl (called _ (by simp [PairTask.replaced]) here)
  | reset process =>
    cases enabled
    exact .inl (called _ (by simp [PairTask.replaced]) here)
  | crash process =>
    cases enabled
    rw [List.getElem?_map] at here
    obtain ⟨old, before, rfl⟩ := Option.map_eq_some_iff.mp here
    refine .inl ⟨old, before, ?_⟩
    unfold PairTask.crash at replaced
    split at replaced
    · exact replaced
    · split at replaced
      · exact replaced_of_moving (fun removing => by cases removing) replaced
      · exact replaced
  | act u op =>
    obtain ⟨old, was, mapped⟩ := Option.bind_eq_some_iff.mp enabled
    obtain ⟨⟨next, volume⟩, acted, rfl⟩ := Option.map_eq_some_iff.mp mapped
    rcases set_cases here with ⟨rfl, rfl⟩ | ⟨_, before⟩
    · rcases replaced_of_act acted replaced with had | ⟨given, file, moving, move⟩
      · exact .inl ⟨old, was, had⟩
      · exact .inr ⟨old, given, was, by rw [moving]; rfl, whole.reads_moved was moving move⟩
    · exact .inl ⟨task, before, replaced⟩

end Zapd
