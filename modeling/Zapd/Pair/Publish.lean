import Zapd.Pair.File

/-! The pairing file is published whole, as long as no two publishes share a temporary file. -/

namespace Zapd

open Utf8 Files

variable {s s' : PairFile}

/-- The pairing that a call is publishing, until it is moved into place. -/
def Doing.given : Doing → Option Pairing
  | .creating given | .writing given _ | .syncing given _ | .moving given _ => some given
  | _ => none

/-- The file that a call has open, and what it has put there. -/
def Doing.holds : Doing → Option (Inode × Bytes)
  | .writing _ file => some (file, [])
  | .syncing given file | .moving given file => some (file, given.text)
  | _ => none

/-- A file that is open holds a pairing that is being published. -/
theorem given_of_file {doing : Doing} {file : Inode} (isOpen : doing.file = some file) :
    ∃ given, doing.given = some given := by
  cases doing <;> simp_all [Doing.file, Doing.given]

/-- A file that holds something is open. -/
theorem file_of_holds {doing : Doing} {file : Inode} {data : Bytes}
    (holds : doing.holds = some (file, data)) : doing.file = some file := by
  cases doing <;> simp_all [Doing.file, Doing.holds]

/-- One operation on the pairing file, one case for each way it can turn out. -/
inductive PairFile.Goes (s : PairFile) : PairFile → Prop
  | called {task : PairTask} (reading : task.doing = .reading) :
    Goes s { s with tasks := s.tasks ++ [task] }
  | crashed (process : Pid) : Goes s { s with tasks := s.tasks.map (PairTask.crash process) }
  /-- A call goes on, or returns, without touching a file. -/
  | on {t : Nat} {task next : PairTask} (here : s.tasks[t]? = some task)
    (purpose : next.purpose = .load → task.purpose = .load) (given : next.doing.given = none)
    (result : ∀ p, next.doing = .returned (.ok p) → readPair s.volume = .ok p) :
    Goes s { s with tasks := s.tasks.set t next }
  | minted {t : Nat} {task : PairTask} {given : Pairing} (here : s.tasks[t]? = some task)
    (minting : task.doing = .minting) (port : freePort given.port = true) :
    Goes s { s with
      tasks := s.tasks.set t { task with doing := .creating given }
      handed := given :: s.handed }
  | opened {t : Nat} {task : PairTask} {given : Pairing} (here : s.tasks[t]? = some task)
    (creating : task.doing = .creating given) (free : s.free task = true) :
    Goes s { s with
      volume := (s.volume.create (.temp task.process)).1
      tasks := s.tasks.set t
        { task with doing := .writing given (s.volume.create (.temp task.process)).2 } }
  | wrote {t : Nat} {task : PairTask} {given : Pairing} {file : Inode}
    (here : s.tasks[t]? = some task) (writing : task.doing = .writing given file) :
    Goes s { s with
      volume := s.volume.write file given.text
      tasks := s.tasks.set t { task with doing := .syncing given file } }
  /-- A write that failed may have left anything in its file. -/
  | torn {t : Nat} {task : PairTask} {given : Pairing} {file : Inode} {data : Bytes} {error : Error}
    (here : s.tasks[t]? = some task) (writing : task.doing = .writing given file) :
    Goes s { s with
      volume := s.volume.write file data
      tasks := s.tasks.set t (task.published (.error error)) }
  | synced {t : Nat} {task : PairTask} {given : Pairing} {file : Inode}
    (here : s.tasks[t]? = some task) (syncing : task.doing = .syncing given file) :
    Goes s { s with tasks := s.tasks.set t { task with doing := .moving given file } }
  | moved {t : Nat} {task : PairTask} {given : Pairing} {file : Inode} {volume : PairVolume}
    (here : s.tasks[t]? = some task) (moving : task.doing = .moving given file)
    (move : task.move s.volume = .ok volume) :
    Goes s { s with
      volume := volume
      tasks := s.tasks.set t { task with doing := .removing (.ok ()) } }
  | removed {t : Nat} {task : PairTask} {moved : Except Error Unit}
    (here : s.tasks[t]? = some task) (removing : task.doing = .removing moved) :
    Goes s { s with
      volume := s.volume.unlink (.temp task.process)
      tasks := s.tasks.set t (task.published moved) }

/-- A load that has its result publishes nothing more by itself. -/
theorem finish_spec (task : PairTask) (result : Except Error Pairing) :
    ((task.finish result).purpose = .load → task.purpose = .load) ∧
      (task.finish result).doing.given = none ∧
      ∀ p, (task.finish result).doing = .returned (.ok p) → result = .ok p := by
  -- Only the load that a reset starts with goes on, and not as a load.
  unfold PairTask.finish
  split
  · simp [Doing.given]
  · simp [Doing.given]

/-- A publish that has its result leaves a read to do, or an error. -/
theorem published_spec (task : PairTask) (moved : Except Error Unit) :
    ((task.published moved).purpose = .load → task.purpose = .load) ∧
      (task.published moved).doing.given = none ∧
      ∀ p, (task.published moved).doing ≠ .returned (.ok p) := by
  -- A load reads next whatever became of its publish.
  unfold PairTask.published
  split <;> simp [Doing.given]

/-- A load returns what it read. -/
theorem goes_finish {t : Nat} {task : PairTask} {result : Except Error Pairing}
    (here : s.tasks[t]? = some task) (read : ∀ p, result = .ok p → readPair s.volume = .ok p) :
    s.Goes { s with tasks := s.tasks.set t (task.finish result) } := by
  obtain ⟨purpose, given, returned⟩ := finish_spec task result
  exact .on here purpose given fun p is => read p (returned p is)

/-- A publish goes on to the read behind it, or to its error. -/
theorem goes_published {t : Nat} {task : PairTask} {moved : Except Error Unit}
    (here : s.tasks[t]? = some task) :
    s.Goes { s with tasks := s.tasks.set t (task.published moved) } := by
  obtain ⟨purpose, given, returned⟩ := published_spec task moved
  exact .on here purpose given fun p is => absurd is (returned p)

/-- A call that fails goes on without a file, or leaves a torn one. -/
theorem goes_of_fail {t : Nat} {task next : PairTask} {error : Error} {written : Nat}
    {volume : PairVolume} (here : s.tasks[t]? = some task)
    (failed : task.fail s.volume error written = some (next, volume)) :
    s.Goes { s with volume := volume, tasks := s.tasks.set t next } := by
  -- One case for each operation that can fail.
  unfold PairTask.fail at failed
  split at failed <;> cases failed
  · exact goes_finish here (by simp)
  · exact goes_finish here (by simp)
  · exact goes_finish here (by simp)
  · exact goes_published here
  · exact goes_published here
  · -- Of these only a write has touched its file.
    exact .torn here (by assumption)
  · exact .on here id rfl (by simp)
  · exact goes_published here

/-- One operation of a call is one of the cases, if a call opens its file only when it may. -/
theorem goes_of_act {t : Nat} {task next : PairTask} {op : FileOp} {volume : PairVolume}
    (here : s.tasks[t]? = some task) (free : op = .create → s.free task = true)
    (acted : task.act s.volume op = some (next, volume)) :
    s.Goes { volume := volume, tasks := s.tasks.set t next, handed := op.hand s.handed } := by
  unfold PairTask.act at acted
  split at acted
  · -- The first read of a load.
    split at acted
    · rename_i found
      cases acted
      exact goes_finish here fun p same => by cases same; exact found
    · split at acted <;> cases acted
      · exact .on here id rfl (by simp)
      · exact goes_finish here (by simp)
  · cases acted
    exact goes_finish here fun p read => read
  · split at acted <;> cases acted
    exact .minted here (by assumption) (by assumption)
  · cases acted
    -- The one place where the condition on temporary files is used.
    exact .opened here (by assumption) (free rfl)
  · cases acted
    exact .wrote here (by assumption)
  · cases acted
    exact .synced here (by assumption)
  · split at acted <;> cases acted
    · exact .moved here (by assumption) (by assumption)
    · exact .on here id rfl (by simp)
  · cases acted
    exact .removed here (by assumption)
  · exact goes_of_fail here acted
  · cases acted

/-- Every step whose action meets the condition is one of the cases. -/
theorem goes_of_step {a : PairAction} (alone : s.Alone a) (enabled : s.step a = some s') :
    s.Goes s' := by
  cases a with
  | load process =>
    cases enabled
    exact .called rfl
  | reset process =>
    cases enabled
    exact .called rfl
  | act t op =>
    obtain ⟨task, here, acted⟩ := Option.bind_eq_some_iff.mp enabled
    obtain ⟨⟨next, volume⟩, taken, same⟩ := Option.map_eq_some_iff.mp acted
    cases same
    -- The call takes its own next operation, and opens a file only if it may.
    refine goes_of_act here ?_ taken
    rintro rfl
    have may : s.tasks[t]?.all s.free = true := alone
    rwa [here] at may
  | crash process =>
    cases enabled
    exact .crashed process

/-- The file a call has open: only its own temporary name can lead to it. -/
structure PairFile.Held (s : PairFile) (task : PairTask) (file : Inode) : Prop where
  exists_ : file < s.volume.next
  hidden : s.volume.names .pair ≠ some file
  temp : s.volume.names (.temp task.process) = some file ∨
    s.volume.names (.temp task.process) = none
  own : ∀ process, s.volume.names (.temp process) = some file → process = task.process

/-- What every step preserves. -/
structure PairFile.Whole (s : PairFile) : Prop where
  sound : s.volume.Sound
  temps : ∀ p q file, s.volume.names (.temp p) = some file →
    s.volume.names (.temp q) = some file → p = q
  held : ∀ (t : Nat) (task : PairTask) (file : Inode), s.tasks[t]? = some task →
    task.doing.file = some file → s.Held task file
  /-- No two calls of one process have a file open, and no two calls have the same one. -/
  alone : ∀ (t u : Nat) (task other : PairTask) (file file' : Inode), s.tasks[t]? = some task →
    s.tasks[u]? = some other → task.doing.file = some file → other.doing.file = some file' →
      task.process = other.process ∨ file = file' → t = u
  content : ∀ (t : Nat) (task : PairTask) (file : Inode) (data : Bytes),
    s.tasks[t]? = some task → task.doing.holds = some (file, data) → s.volume.content file = data
  handed : ∀ (t : Nat) (task : PairTask) (given : Pairing), s.tasks[t]? = some task →
    task.doing.given = some given → given ∈ s.handed
  named : ∀ given ∈ s.handed, given.port ≠ 0
  published : ∀ file, s.volume.names .pair = some file →
    ∃ given ∈ s.handed, s.volume.content file = given.text

/-- No file exists, and nothing was called. -/
theorem PairFile.Whole.initial : PairFile.initial.Whole where
  sound name file bound := by cases bound
  temps p q file bound := by cases bound
  held t task file here := by cases here
  alone t u task other file file' here := by cases here
  content t task file data here := by cases here
  handed t task given here := by cases here
  named given member := by cases member
  published file bound := by cases bound

/-- Calls may begin, end or give up their file. -/
theorem PairFile.Whole.release (whole : s.Whole) {tasks : List PairTask}
    (released : ∀ (t : Nat) (task : PairTask), tasks[t]? = some task →
      task.doing.given = none ∨ s.tasks[t]? = some task) :
    ({ s with tasks := tasks } : PairFile).Whole := by
  have before : ∀ (t : Nat) (task : PairTask) (given : Pairing), tasks[t]? = some task →
      task.doing.given = some given → s.tasks[t]? = some task := by
    intro t task given here gives
    -- A call that still holds a pairing is one of those before.
    rcases released t task here with nothing | same
    · rw [nothing] at gives
      cases gives
    · exact same
  have opened : ∀ (t : Nat) (task : PairTask) (file : Inode), tasks[t]? = some task →
      task.doing.file = some file → s.tasks[t]? = some task := by
    intro t task file here isOpen
    obtain ⟨given, gives⟩ := given_of_file isOpen
    exact before t task given here gives
  -- Whoever has a file open had it open before.
  constructor
  · exact whole.sound
  · exact whole.temps
  · intro t task file here isOpen
    obtain ⟨exists_, hidden, temp, own⟩ :=
      whole.held t task file (opened t task file here isOpen) isOpen
    exact ⟨exists_, hidden, temp, own⟩
  · intro t u task other file file' here there isOpen isOpen' shared
    exact whole.alone t u task other file file' (opened t task file here isOpen)
      (opened u other file' there isOpen') isOpen isOpen' shared
  · intro t task file data here holds
    exact whole.content t task file data (opened t task file here (file_of_holds holds)) holds
  · intro t task given here gives
    exact whole.handed t task given (before t task given here gives) gives
  · exact whole.named
  · exact whole.published

/-- A list with one element replaced holds the new one there, and the old ones elsewhere. -/
theorem set_cases {α : Type} {list : List α} {i j : Nat} {new found : α}
    (there : (list.set i new)[j]? = some found) :
    (i = j ∧ found = new) ∨ (i ≠ j ∧ list[j]? = some found) := by
  by_cases same : i = j
  · subst same
    rw [List.getElem?_set_self'] at there
    obtain ⟨_, _, isNew⟩ := Option.map_eq_some_iff.mp there
    exact .inl ⟨rfl, isNew.symm⟩
  · rw [List.getElem?_set_ne same] at there
    exact .inr ⟨same, there⟩

/-- A call that holds no pairing any more has released its file. -/
theorem PairFile.Whole.drop (whole : s.Whole) (t : Nat) (next : PairTask)
    (given : next.doing.given = none) :
    ({ s with tasks := s.tasks.set t next } : PairFile).Whole := by
  refine whole.release fun u task there => ?_
  rcases set_cases there with ⟨_, rfl⟩ | ⟨_, before⟩
  · exact .inl given
  · exact .inr before

/-- A call goes on with what its file holds, and with a pairing that was given to it. -/
theorem PairFile.Whole.goesOn (whole : s.Whole) {t : Nat} {next : PairTask}
    (given : ∀ pairing, next.doing.given = some pairing → pairing ∈ s.handed)
    (content : ∀ file data, next.doing.holds = some (file, data) →
      s.volume.content file = data) :
    (∀ (u : Nat) (other : PairTask) (file : Inode) (data : Bytes),
      (s.tasks.set t next)[u]? = some other → other.doing.holds = some (file, data) →
        s.volume.content file = data) ∧
    ∀ (u : Nat) (other : PairTask) (pairing : Pairing), (s.tasks.set t next)[u]? = some other →
      other.doing.given = some pairing → pairing ∈ s.handed := by
  -- Only the call that goes on is new; the others are as they were.
  constructor
  · intro u other file data there holds
    rcases set_cases there with ⟨_, rfl⟩ | ⟨_, before⟩
    · exact content file data holds
    · exact whole.content u other file data before holds
  · intro u other pairing there gives
    rcases set_cases there with ⟨_, rfl⟩ | ⟨_, before⟩
    · exact given pairing gives
    · exact whole.handed u other pairing before gives

/-- A call goes on with the file it has open, or with none. -/
theorem PairFile.Whole.advance (whole : s.Whole) {t : Nat} {task next : PairTask}
    (here : s.tasks[t]? = some task) (process : next.process = task.process)
    (file : next.doing.file = task.doing.file)
    (given : ∀ pairing, next.doing.given = some pairing → pairing ∈ s.handed)
    (content : ∀ file data, next.doing.holds = some (file, data) →
      s.volume.content file = data) :
    ({ s with tasks := s.tasks.set t next } : PairFile).Whole := by
  -- Whoever has a file open had it open before, in the same process.
  have opened : ∀ (u : Nat) (other : PairTask) (inode : Inode),
      (s.tasks.set t next)[u]? = some other → other.doing.file = some inode →
        ∃ old, s.tasks[u]? = some old ∧
          old.process = other.process ∧ old.doing.file = some inode := by
    intro u other inode there isOpen
    rcases set_cases there with ⟨rfl, rfl⟩ | ⟨_, before⟩
    · exact ⟨task, here, process.symm, file ▸ isOpen⟩
    · exact ⟨other, before, rfl, isOpen⟩
  constructor
  · exact whole.sound
  · exact whole.temps
  · intro u other inode there isOpen
    obtain ⟨old, before, same, wasOpen⟩ := opened u other inode there isOpen
    obtain ⟨exists_, hidden, temp, own⟩ := whole.held u old inode before wasOpen
    rw [same] at temp own
    exact ⟨exists_, hidden, temp, own⟩
  · intro u v first second inode inode' there there' isOpen isOpen' shared
    obtain ⟨old, before, same, wasOpen⟩ := opened u first inode there isOpen
    obtain ⟨old', before', same', wasOpen'⟩ := opened v second inode' there' isOpen'
    refine whole.alone u v old old' inode inode' before before' wasOpen wasOpen' ?_
    rw [same, same']
    exact shared
  · exact (whole.goesOn given content).1
  · exact (whole.goesOn given content).2
  · exact whole.named
  · exact whole.published

/-- A file that is neither published nor open may change. -/
theorem PairFile.Whole.change (whole : s.Whole) {file : Inode} (data : Bytes)
    (hidden : s.volume.names .pair ≠ some file)
    (closed : ∀ (t : Nat) (task : PairTask), s.tasks[t]? = some task →
      task.doing.file ≠ some file) :
    ({ s with volume := { s.volume with content := Function.update s.volume.content file data } } :
      PairFile).Whole := by
  constructor
  · exact whole.sound
  · exact whole.temps
  · intro t task inode here isOpen
    obtain ⟨exists_, hidden, temp, own⟩ := whole.held t task inode here isOpen
    exact ⟨exists_, hidden, temp, own⟩
  · exact whole.alone
  · intro t task inode held here holds
    -- What is open and what is published are other files.
    have other : inode ≠ file := by
      rintro rfl
      exact closed t task here (file_of_holds holds)
    simp only [Function.update_of_ne other]
    exact whole.content t task inode held here holds
  · exact whole.handed
  · exact whole.named
  · intro inode bound
    have other : inode ≠ file := by
      rintro rfl
      exact hidden bound
    simp only [Function.update_of_ne other]
    exact whole.published inode bound

/-- A file that nobody has open any more and that holds a whole pairing may be published. -/
theorem PairFile.Whole.publish (whole : s.Whole) {file : Inode} (exists_ : file < s.volume.next)
    (closed : ∀ (t : Nat) (task : PairTask), s.tasks[t]? = some task →
      task.doing.file ≠ some file)
    (holds : ∃ given ∈ s.handed, s.volume.content file = given.text) :
    ({ s with volume :=
        { s.volume with names := Function.update s.volume.names .pair (some file) } } :
      PairFile).Whole := by
  constructor
  · -- The name is bound to a file that exists.
    refine whole.sound.bind ?_
    rintro _ ⟨⟩
    exact exists_
  · exact whole.temps
  · -- What is open stays unpublished, since this file is not.
    intro t task inode here isOpen
    obtain ⟨bound, _, temp, own⟩ := whole.held t task inode here isOpen
    refine ⟨bound, ?_, temp, own⟩
    simp only [Function.update_self]
    rintro ⟨⟩
    exact closed t task here isOpen
  · exact whole.alone
  · exact whole.content
  · exact whole.handed
  · exact whole.named
  · -- What is published now is this file.
    intro inode bound
    simp only [Function.update_self] at bound
    cases bound
    exact holds

/-- A temporary name may be removed by anyone. -/
theorem PairFile.Whole.unlink (whole : s.Whole) (process : Pid) :
    ({ s with volume := s.volume.unlink (.temp process) } : PairFile).Whole := by
  -- No name is bound to more than it was.
  have before : ∀ name file, (s.volume.unlink (.temp process)).names name = some file →
      s.volume.names name = some file := by
    intro name file bound
    by_cases same : name = .temp process
    · subst same
      simp [Volume.unlink] at bound
    · simpa [Volume.unlink, Function.update_of_ne same] using bound
  constructor
  · exact fun name file bound => whole.sound name file (before name file bound)
  · exact fun p q file first second =>
      whole.temps p q file (before _ file first) (before _ file second)
  · intro t task file here isOpen
    obtain ⟨exists_, hidden, temp, own⟩ := whole.held t task file here isOpen
    refine ⟨exists_, fun bound => hidden (before _ file bound), ?_,
      fun p bound => own p (before _ file bound)⟩
    -- The call whose name is removed may go on: its move will fail.
    by_cases same : PairName.temp task.process = .temp process
    · exact .inr (by simp [Volume.unlink, same])
    · simpa [Volume.unlink, Function.update_of_ne same] using temp
  · exact whole.alone
  · exact whole.content
  · exact whole.handed
  · exact whole.named
  · exact fun file bound => whole.published file (before _ file bound)

/-- A call has a file open that nobody else has, as the only one of its process. -/
theorem PairFile.Whole.hold (whole : s.Whole) (t : Nat) (task next : PairTask) {file : Inode}
    (process : next.process = task.process)
    (isOpen : next.doing.file = some file) (held : s.Held task file)
    (closed : ∀ (u : Nat) (other : PairTask) (inode : Inode), s.tasks[u]? = some other →
      other.doing.file = some inode → other.process ≠ task.process ∧ inode ≠ file)
    (given : ∀ pairing, next.doing.given = some pairing → pairing ∈ s.handed)
    (content : ∀ file data, next.doing.holds = some (file, data) →
      s.volume.content file = data) :
    ({ s with tasks := s.tasks.set t next } : PairFile).Whole := by
  constructor
  · exact whole.sound
  · exact whole.temps
  · intro u other inode there isOpen'
    rcases set_cases there with ⟨_, rfl⟩ | ⟨_, before⟩
    · cases isOpen.symm.trans isOpen'
      obtain ⟨exists_, hidden, temp, own⟩ := held
      rw [← process] at temp own
      exact ⟨exists_, hidden, temp, own⟩
    · obtain ⟨exists_, hidden, temp, own⟩ := whole.held u other inode before isOpen'
      exact ⟨exists_, hidden, temp, own⟩
  · intro u v first second inode inode' there there' firstOpen secondOpen shared
    -- The new file is shared with nobody, and neither is the process.
    rcases set_cases there with ⟨atT, rfl⟩ | ⟨_, before⟩ <;>
      rcases set_cases there' with ⟨atT', rfl⟩ | ⟨_, before'⟩
    · rw [← atT, ← atT']
    · cases isOpen.symm.trans firstOpen
      obtain ⟨other, differ⟩ := closed v second inode' before' secondOpen
      rw [process] at shared
      rcases shared with same | same
      · exact absurd same.symm other
      · exact absurd same.symm differ
    · cases isOpen.symm.trans secondOpen
      obtain ⟨other, differ⟩ := closed u first inode before firstOpen
      rw [process] at shared
      rcases shared with same | same
      · exact absurd same other
      · exact absurd same differ
    · exact whole.alone u v first second inode inode' before before' firstOpen secondOpen shared
  · exact (whole.goesOn given content).1
  · exact (whole.goesOn given content).2
  · exact whole.named
  · exact whole.published

/-- A new temporary file may be created for a process that has none open. -/
theorem PairFile.Whole.make (whole : s.Whole) {process : Pid}
    (closed : ∀ (t : Nat) (task : PairTask) (file : Inode), s.tasks[t]? = some task →
      task.doing.file = some file → task.process ≠ process) :
    ({ s with volume :=
        { names := Function.update s.volume.names (.temp process) (some s.volume.next)
          content := Function.update s.volume.content s.volume.next []
          next := s.volume.next + 1 } } : PairFile).Whole := by
  -- The new file has this one name, and it is older than nothing.
  have named : ∀ name file,
      Function.update s.volume.names (.temp process) (some s.volume.next) name = some file →
        (name = .temp process ∧ file = s.volume.next) ∨
        (s.volume.names name = some file ∧ file < s.volume.next) := by
    intro name file bound
    by_cases same : name = .temp process
    · subst same
      rw [Function.update_self] at bound
      exact .inl ⟨rfl, (Option.some.inj bound).symm⟩
    · rw [Function.update_of_ne same] at bound
      exact .inr ⟨bound, whole.sound name file bound⟩
  have old : ∀ file, file < s.volume.next →
      Function.update s.volume.content s.volume.next [] file = s.volume.content file := by
    intro file bound
    exact Function.update_of_ne (Nat.ne_of_lt bound) ..
  constructor
  · intro name file bound
    rcases named name file bound with ⟨_, rfl⟩ | ⟨_, before⟩
    · exact Nat.lt_succ_self _
    · exact Nat.lt_succ_of_lt before
  · intro p q file first second
    -- Two processes cannot share the new file, which has one name.
    rcases named _ file first with ⟨isP, isNew⟩ | ⟨firstBound, before⟩ <;>
      rcases named _ file second with ⟨isQ, isNew'⟩ | ⟨secondBound, before'⟩
    · exact PairName.temp.inj (isP.trans isQ.symm)
    · exact absurd isNew (Nat.ne_of_lt before')
    · exact absurd isNew' (Nat.ne_of_lt before)
    · exact whole.temps p q file firstBound secondBound
  · intro t task file here isOpen
    obtain ⟨exists_, hidden, temp, own⟩ := whole.held t task file here isOpen
    have other : PairName.temp task.process ≠ .temp process := fun same =>
      closed t task file here isOpen (PairName.temp.inj same)
    refine ⟨Nat.lt_succ_of_lt exists_, hidden, ?_, ?_⟩
    · simpa only [Function.update_of_ne other] using temp
    · intro p bound
      rcases named _ file bound with ⟨_, isNew⟩ | ⟨before, _⟩
      · exact absurd isNew (Nat.ne_of_lt exists_)
      · exact own p before
  · exact whole.alone
  · intro t task file data here holds
    exact (old file (whole.held t task file here (file_of_holds holds)).exists_).trans
      (whole.content t task file data here holds)
  · exact whole.handed
  · exact whole.named
  · intro file bound
    rcases named .pair file bound with ⟨isTemp, _⟩ | ⟨before, exists_⟩
    · cases isTemp
    · obtain ⟨given, member, same⟩ := whole.published file before
      exact ⟨given, member, (old file exists_).trans same⟩

/-- A call that may open its temporary file finds no other publish at it. -/
theorem free_spec {task : PairTask} (free : s.free task = true) :
    (∀ (u : Nat) (other : PairTask) (file : Inode), s.tasks[u]? = some other →
      other.doing.file = some file → other.process ≠ task.process) ∧
    ∀ file, s.volume.names (.temp task.process) = some file → s.volume.names .pair ≠ some file := by
  obtain ⟨others, apart⟩ := Bool.and_eq_true_iff.mp free
  constructor
  · intro u other file there isOpen same
    have alone := List.all_eq_true.mp others other (List.mem_of_getElem? there)
    simp [same, isOpen] at alone
  · intro file bound isPair
    simp [bound, isPair] at apart

/-- A call opens its temporary file. -/
theorem PairFile.Whole.opens (whole : s.Whole) {t : Nat} {task : PairTask} {given : Pairing}
    (here : s.tasks[t]? = some task) (creating : task.doing = .creating given)
    (free : s.free task = true) :
    ({ s with
      volume := (s.volume.create (.temp task.process)).1
      tasks := s.tasks.set t
        { task with doing := .writing given (s.volume.create (.temp task.process)).2 } } :
      PairFile).Whole := by
  obtain ⟨others, apart⟩ := free_spec free
  have mine : given ∈ s.handed := whole.handed t task given here (by rw [creating]; rfl)
  rcases create_cases s.volume (.temp task.process) with ⟨file, bound, same⟩ | ⟨missing, same⟩ <;>
    rw [same]
  · -- The file that has the name is emptied: nobody has it open, or has published it.
    have closed : ∀ (u : Nat) (other : PairTask) (inode : Inode), s.tasks[u]? = some other →
        other.doing.file = some inode → other.process ≠ task.process ∧ inode ≠ file := by
      intro u other inode there isOpen
      refine ⟨others u other inode there isOpen, ?_⟩
      rintro rfl
      have mine := (whole.held u other inode there isOpen).own _ bound
      exact others u other inode there isOpen mine.symm
    have emptied := whole.change [] (apart file bound) fun u other there isOpen =>
      (closed u other file there isOpen).2 rfl
    refine emptied.hold t task _ rfl rfl
      ⟨whole.sound _ file bound, apart file bound, .inl bound, ?_⟩ closed ?_ ?_
    · exact fun p also => whole.temps p task.process file also bound
    · rintro pairing ⟨⟩
      exact mine
    · rintro inode data ⟨⟩
      exact Function.update_self ..
  · -- A missing file is made, and it is nobody's yet.
    have made := whole.make others
    refine made.hold t task _ rfl rfl
      ⟨Nat.lt_succ_self _, ?_, .inl (Function.update_self ..), ?_⟩ ?_ ?_ ?_
    · intro bound
      exact absurd (whole.sound .pair _ bound) (Nat.lt_irrefl _)
    · intro p bound
      exact made.temps p task.process _ bound (Function.update_self ..)
    · intro u other inode there isOpen
      refine ⟨others u other inode there isOpen, ?_⟩
      exact Nat.ne_of_lt (whole.held u other inode there isOpen).exists_
    · rintro pairing ⟨⟩
      exact mine
    · rintro inode data ⟨⟩
      exact Function.update_self ..

/-- What a move that succeeded did: the temporary name may be gone, and its file is published. -/
theorem move_spec {task : PairTask} {volume : PairVolume}
    (move : task.move s.volume = .ok volume) :
    ∃ file, s.volume.names (.temp task.process) = some file ∧
      ((task.purpose ≠ .replace ∧ s.volume.names .pair = none ∧ volume =
        { s.volume with names := Function.update s.volume.names .pair (some file) }) ∨
      (task.purpose = .replace ∧ (s.volume.names .pair ≠ some file → volume =
        { s.volume.unlink (.temp task.process) with
          names := Function.update (s.volume.unlink (.temp task.process)).names .pair
            (some file) }))) := by
  -- A reset renames, and a load links.
  unfold PairTask.move at move
  split at move
  · rename_i replaces
    split at move <;> cases move
    rename_i renamed
    obtain ⟨file, bound, moved⟩ := rename_eq_some renamed
    exact ⟨file, bound, .inr ⟨replaces, moved⟩⟩
  · rename_i loads
    split at move <;> cases move
    rename_i linked
    obtain ⟨file, bound, missing, moved⟩ := link_eq_some linked
    exact ⟨file, bound, .inl ⟨loads, missing, moved⟩⟩

/-- When a call lets go of its file, nobody has it open, and nobody of its process has any. -/
theorem PairFile.Whole.others (whole : s.Whole) {t : Nat} {task next : PairTask} {file : Inode}
    (here : s.tasks[t]? = some task) (isOpen : task.doing.file = some file)
    (gone : next.doing.file = none) (u : Nat) (other : PairTask) (inode : Inode)
    (there : (s.tasks.set t next)[u]? = some other) (isOpen' : other.doing.file = some inode) :
    other.process ≠ task.process ∧ inode ≠ file := by
  rcases set_cases there with ⟨_, rfl⟩ | ⟨differ, before⟩
  · cases gone.symm.trans isOpen'
  · have alone := whole.alone t u task other file inode here before isOpen isOpen'
    exact ⟨fun same => differ (alone (.inl same.symm)), fun same => differ (alone (.inr same.symm))⟩

/-- A call that lets go of its file may leave anything in it. -/
theorem PairFile.Whole.tears (whole : s.Whole) {t : Nat} {task : PairTask} {file : Inode}
    (data : Bytes) (next : PairTask) (here : s.tasks[t]? = some task)
    (isOpen : task.doing.file = some file) (given : next.doing.given = none) :
    ({ s with volume := s.volume.write file data, tasks := s.tasks.set t next } :
      PairFile).Whole := by
  -- What gives no pairing has no file open.
  have gone : next.doing.file = none := by
    rw [Option.eq_none_iff_forall_ne_some]
    intro inode isOpen
    obtain ⟨pairing, gives⟩ := given_of_file isOpen
    cases given.symm.trans gives
  refine (whole.drop t next given).change _ (whole.held t task file here isOpen).hidden ?_
  intro u other there isOpen'
  exact (whole.others here isOpen gone u other file there isOpen').2 rfl

/-- A call writes its pairing. -/
theorem PairFile.Whole.writes (whole : s.Whole) {t : Nat} {task : PairTask} {given : Pairing}
    {file : Inode} (here : s.tasks[t]? = some task) (writing : task.doing = .writing given file) :
    ({ s with
      volume := s.volume.write file given.text
      tasks := s.tasks.set t { task with doing := .syncing given file } } : PairFile).Whole := by
  have isOpen : task.doing.file = some file := by rw [writing]; rfl
  have mine : given ∈ s.handed := whole.handed t task given here (by rw [writing]; rfl)
  have empty : s.volume.content file = [] :=
    whole.content t task file [] here (by rw [writing]; rfl)
  obtain ⟨exists_, hidden, temp, own⟩ := whole.held t task file here isOpen
  -- The call lets go of the file, which is written, and takes it up again.
  have torn := whole.tears given.text { task with doing := .crashed } here isOpen rfl
  have held := torn.hold t task { task with doing := .syncing given file } rfl rfl
    ⟨exists_, hidden, temp, own⟩ (whole.others here isOpen rfl) ?_ ?_
  · simpa only [List.set_set] using held
  · rintro pairing ⟨⟩
    exact mine
  · rintro inode data ⟨⟩
    simp [Volume.write, empty]

/-- A call moves its temporary file into place. -/
theorem PairFile.Whole.moves (whole : s.Whole) {t : Nat} {task : PairTask} {given : Pairing}
    {file : Inode} {volume : PairVolume} (here : s.tasks[t]? = some task)
    (moving : task.doing = .moving given file) (move : task.move s.volume = .ok volume) :
    ({ s with
      volume := volume
      tasks := s.tasks.set t { task with doing := .removing (.ok ()) } } : PairFile).Whole := by
  have isOpen : task.doing.file = some file := by rw [moving]; rfl
  have holds : s.volume.content file = given.text :=
    whole.content t task file given.text here (by rw [moving]; rfl)
  have mine : given ∈ s.handed := whole.handed t task given here (by rw [moving]; rfl)
  have held := whole.held t task file here isOpen
  -- The call lets go of the file, and then it is published.
  have dropped := whole.drop t { task with doing := .removing (.ok ()) } rfl
  have closed : ∀ (u : Nat) (other : PairTask),
      (s.tasks.set t { task with doing := .removing (.ok ()) })[u]? = some other →
        other.doing.file ≠ some file := by
    intro u other there isOpen'
    exact (whole.others here isOpen rfl u other file there isOpen').2 rfl
  obtain ⟨bound, named, how⟩ := move_spec move
  have same : bound = file := by
      -- The name leads to the file that the call wrote, or nothing was moved.
    rcases held.temp with temp | missing
    · exact Option.some.inj (named.symm.trans temp)
    · cases named.symm.trans missing
  subst same
  rcases how with ⟨_, _, rfl⟩ | ⟨_, moved⟩
  · exact dropped.publish held.exists_ closed ⟨given, mine, holds⟩
  · rw [moved held.hidden]
    exact (dropped.unlink task.process).publish held.exists_ closed ⟨given, mine, holds⟩

end Zapd
