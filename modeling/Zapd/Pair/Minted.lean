import Zapd.Pair.Publish

/-! Every read of the published file finds one whole pairing, and all loads agree on it. -/

namespace Zapd

open Utf8 Files

variable {s s' : PairFile}

/-- No door is at port 0. -/
theorem freePort_ne_zero {port : UInt16} (free : freePort port = true) : port ≠ 0 := by
  -- Port 0 is neither well known nor in the range.
  rintro rfl
  revert free
  decide

/-- A call that is not over does not begin with a pairing of its own. -/
theorem crash_released (process : Pid) (task : PairTask) :
    (task.crash process).doing.given = none ∨ task.crash process = task := by
  -- A dead call publishes nothing, and a returned one stays as it was.
  unfold PairTask.crash
  split
  · exact .inr rfl
  · split
    · exact .inl rfl
    · exact .inr rfl

/-- A call that has returned is not changed by a crash. -/
theorem crash_returned {process : Pid} {task : PairTask} {result : Except Error Pairing}
    (returned : (task.crash process).doing = .returned result) : task.crash process = task := by
  unfold PairTask.crash at returned ⊢
  split at returned
  · rfl
  · split at returned
    · cases returned
    · rename_i other _ alive
      simp [alive]

/-- Every step preserves what is published, and what is about to be. -/
theorem PairFile.Whole.step (whole : s.Whole) (goes : s.Goes s') : s'.Whole := by
  cases goes with
  | @called task reading =>
    refine whole.release fun t other there => ?_
    by_cases old : t < s.tasks.length
    · rw [List.getElem?_append_left old] at there
      exact .inr there
    · -- The new call is behind the others.
      rw [List.getElem?_append_right (Nat.le_of_not_lt old)] at there
      have isNew := List.mem_singleton.mp (List.mem_of_getElem? there)
      exact .inl (by rw [isNew, reading]; rfl)
  | crashed process =>
    refine whole.release fun t other there => ?_
    rw [List.getElem?_map] at there
    obtain ⟨old, before, rfl⟩ := Option.map_eq_some_iff.mp there
    rcases crash_released process old with gone | same
    · exact .inl gone
    · exact .inr (same.symm ▸ before)
  | on _ _ given _ => exact whole.drop _ _ given
  | @minted t task given here minting port =>
    -- One more pairing may be published.
    have handed : ({ s with handed := given :: s.handed } : PairFile).Whole := by
      refine { whole with handed := ?_, named := ?_, published := ?_, held := ?_ }
      · exact fun t task file here isOpen =>
          let ⟨exists_, hidden, temp, own⟩ := whole.held t task file here isOpen
          ⟨exists_, hidden, temp, own⟩
      · exact fun t task pairing here gives =>
          List.mem_cons_of_mem given (whole.handed t task pairing here gives)
      · exact List.forall_mem_cons.mpr ⟨freePort_ne_zero port, whole.named⟩
      · intro file bound
        obtain ⟨pairing, member, same⟩ := whole.published file bound
        exact ⟨pairing, List.mem_cons_of_mem given member, same⟩
    refine handed.advance here rfl (by rw [minting]; rfl) ?_ ?_
    · rintro pairing ⟨⟩
      exact List.mem_cons_self
    · rintro file data ⟨⟩
  | opened here creating free => exact whole.opens here creating free
  | wrote here writing => exact whole.writes here writing
  | torn here writing =>
    exact whole.tears _ _ here (by rw [writing]; rfl) (published_spec _ _).2.1
  | @synced t task given file here syncing =>
    have holds : task.doing.holds = some (file, given.text) := by rw [syncing]; rfl
    refine whole.advance here rfl (file_of_holds holds).symm ?_ ?_
    · rintro pairing ⟨⟩
      exact whole.handed t task given here (by rw [syncing]; rfl)
    · rintro inode data ⟨⟩
      exact whole.content t task file given.text here holds
  | moved here moving move => exact whole.moves here moving move
  | removed here removing => exact (whole.drop _ _ (published_spec _ _).2.1).unlink _

/-- What a pairing is written as reads back as the pairing. -/
theorem readPair_text {volume : PairVolume} {p : Pairing} (named : p.port ≠ 0)
    (found : volume.read .pair = some p.text) : readPair volume = .ok p := by
  have valid : Valid p.text := ⟨_, rfl⟩
  have text : fromUtf8Lossy p.text = p.code ++ "\n" := fromUtf8Lossy_asBytes _
  simp [readPair, found, valid, text, parse_line p named]

/-- Whatever is published is the whole text of a pairing that was handed over. -/
theorem PairFile.Whole.read (whole : s.Whole) {bytes : Bytes}
    (found : s.volume.read .pair = some bytes) :
    ∃ given ∈ s.handed, bytes = given.text ∧ readPair s.volume = .ok given := by
  obtain ⟨file, bound, rfl⟩ := Option.map_eq_some_iff.mp found
  -- The file it names was moved into place whole, and was not touched since.
  obtain ⟨given, member, same⟩ := whole.published file bound
  refine ⟨given, member, same, readPair_text (whole.named given member) ?_⟩
  rw [← same]
  exact found

/-- Only the published file is read. -/
theorem readPair_congr {volume volume' : PairVolume} {p : Pairing} (read : readPair volume = .ok p)
    (kept : ∀ bytes, volume.read .pair = some bytes → volume'.read .pair = some bytes) :
    readPair volume' = .ok p := by
  -- A pairing was read, so there was something to read.
  cases found : volume.read .pair with
  | none => simp [readPair, found] at read
  | some bytes => simpa [readPair, found, kept bytes found] using read

/-- Replacing a call by one for the same purpose hides no reset. -/
theorem loads_of_set {t : Nat} {task next : PairTask} (here : s.tasks[t]? = some task)
    (loads : ∀ other ∈ s.tasks.set t next, other.purpose = .load)
    (purpose : next.purpose = .load → task.purpose = .load) : s.OnlyLoads := by
  intro other member
  obtain ⟨u, there⟩ := List.getElem?_of_mem member
  obtain ⟨inside, _⟩ := List.getElem?_eq_some_iff.mp here
  -- The replaced call is judged by the one in its place.
  by_cases same : t = u
  · subst same
    cases here.symm.trans there
    exact purpose (loads next (List.mem_set inside next))
  · exact loads other (List.mem_of_getElem? ((List.getElem?_set_ne same).trans there))

/-- A run without a reset so far had none before. -/
theorem PairFile.Goes.loads (goes : s.Goes s') (loads : s'.OnlyLoads) : s.OnlyLoads := by
  cases goes with
  | called => exact fun task member => loads task (List.mem_append_left _ member)
  | crashed process =>
    intro task member
    -- A crash does not change what a call is for.
    have kept : (task.crash process).purpose = task.purpose := by
      unfold PairTask.crash
      split
      · rfl
      · split <;> rfl
    rw [← kept]
    exact loads _ (List.mem_map_of_mem member)
  | on here purpose => exact loads_of_set here loads purpose
  | minted here | opened here | wrote here | synced here | moved here =>
    exact loads_of_set here loads id
  | torn here => exact loads_of_set here loads (published_spec _ _).1
  | removed here => exact loads_of_set here loads (published_spec _ _).1

/-- Without a reset, what was once published stays. -/
theorem PairFile.Goes.kept (goes : s.Goes s') (whole : s.Whole) (loads : s'.OnlyLoads)
    {bytes : Bytes} (found : s.volume.read .pair = some bytes) :
    s'.volume.read .pair = some bytes := by
  have before := goes.loads loads
  cases goes with
  | called | crashed | on | minted | synced => exact found
  | opened here creating free =>
    rw [read_create whole.sound (by simp) (free_spec free).2]
    exact found
  | @wrote t task given file here writing =>
    rw [read_write _ (whole.held t task file here (by rw [writing]; rfl)).hidden]
    exact found
  | @torn t task given file data error here writing =>
    rw [read_write _ (whole.held t task file here (by rw [writing]; rfl)).hidden]
    exact found
  | @moved t task given file volume here moving move =>
    -- Nothing replaces it, and a link needs the name to be free.
    obtain ⟨inode, _, ⟨_, missing, _⟩ | ⟨replaces, _⟩⟩ := move_spec move
    · rw [Volume.read, missing] at found
      cases found
    · cases replaces.symm.trans (before task (List.mem_of_getElem? here))
  | removed here removing =>
    rw [read_unlink (by simp)]
    exact found

/-- A call that has returned a pairing read it in this step, or had returned it before. -/
theorem PairFile.Goes.returned (goes : s.Goes s') {task : PairTask} {p : Pairing}
    (member : task ∈ s'.tasks) (result : task.doing = .returned (.ok p)) :
    task ∈ s.tasks ∨ Zapd.readPair s.volume = .ok p := by
  cases goes with
  | called reading =>
    rcases List.mem_append.mp member with old | new
    · exact .inl old
    · rw [List.mem_singleton.mp new, reading] at result
      cases result
  | crashed process =>
    obtain ⟨old, before, rfl⟩ := List.mem_map.mp member
    -- Whatever has returned was not crashed.
    exact .inl (by rwa [crash_returned result])
  | on _ _ _ read =>
    rcases List.mem_or_eq_of_mem_set member with old | rfl
    · exact .inl old
    · exact .inr (read p result)
  | minted | opened | wrote | synced | moved =>
    rcases List.mem_or_eq_of_mem_set member with old | rfl
    · exact .inl old
    · cases result
  | torn | removed =>
    rcases List.mem_or_eq_of_mem_set member with old | rfl
    · exact .inl old
    · exact absurd result ((published_spec _ _).2.2 p)

/-- Every call that returned a pairing returned the published one, if nobody called `reset`. -/
def PairFile.Agreed (s : PairFile) : Prop :=
  s.OnlyLoads → ∀ task ∈ s.tasks, ∀ p, task.doing = .returned (.ok p) →
    readPair s.volume = .ok p

/-- Every step preserves the agreement of the loads. -/
theorem PairFile.Agreed.step (agreed : s.Agreed) (whole : s.Whole) (goes : s.Goes s') :
    s'.Agreed := by
  intro loads task member p result
  refine readPair_congr ?_ fun bytes found => goes.kept whole loads found
  -- A new result was read just now, and an old one agreed before.
  rcases goes.returned member result with before | read
  · exact agreed (goes.loads loads) task before p result
  · exact read

/-- Both hold in every state of a run in which temporary files are not shared. -/
theorem PairFile.Whole.reachable
    (reached : Transition.GuardedReachable PairFile.Alone PairFile.step PairFile.initial s) :
    s.Whole ∧ s.Agreed := by
  refine reached.induction (P := fun s => s.Whole ∧ s.Agreed) ⟨Whole.initial, ?_⟩ ?_
  · intro _ task member
    cases member
  · rintro state action next _ alone ⟨whole, agreed⟩ enabled
    have goes := goes_of_step alone enabled
    exact ⟨whole.step goes, agreed.step whole goes⟩

/-- As long as no call opens a temporary file that another call of its process is about to move,
or that is the published file: what is published is always one whole pairing, and without a reset
all loads return the same. -/
theorem pairing_published
    (reached : Transition.GuardedReachable PairFile.Alone PairFile.step PairFile.initial s) :
    (∀ bytes, s.volume.read .pair = some bytes →
      ∃ given ∈ s.handed, bytes = given.text ∧ readPair s.volume = .ok given) ∧
    (s.OnlyLoads → ∀ task ∈ s.tasks, ∀ other ∈ s.tasks, ∀ p q,
      task.doing = .returned (.ok p) → other.doing = .returned (.ok q) → p = q) := by
  obtain ⟨whole, agreed⟩ := PairFile.Whole.reachable reached
  refine ⟨fun bytes found => whole.read found, ?_⟩
  intro loads task member other member' p q result result'
  -- Both are what the published file reads as.
  have first := agreed loads task member p result
  have second := agreed loads other member' q result'
  exact Except.ok.inj (first.symm.trans second)

/-- Two calls that were both made to load. -/
theorem onlyLoads_of_purposes (purposes : s.tasks.map PairTask.purpose = [.load, .load]) :
    s.OnlyLoads := by
  intro task member
  -- The purposes are listed, and each is to load.
  have mapped := List.mem_map_of_mem (f := PairTask.purpose) member
  rw [purposes] at mapped
  simpa using mapped

/-- The pairing a call returned, once it has. -/
def PairTask.result (task : PairTask) : Option Pairing :=
  match task.doing with
  | .returned (.ok p) => some p
  | _ => none

/-- Two processes that mint at once agree on the pairing that was linked first. -/
theorem pairing_published_raced : ∃ s : PairFile,
    Transition.GuardedReachable PairFile.Alone PairFile.step PairFile.initial s ∧
      s.tasks.map PairTask.result =
        [some ⟨9998, Key.all 1⟩, some ⟨9998, Key.all 1⟩] ∧
      ∃ given ∈ s.handed, s.volume.read .pair = some given.text := by
  let first : Pairing := ⟨9998, Key.all 1⟩
  let second : Pairing := ⟨9998, Key.all 2⟩
  let actions : List PairAction := [.load 7, .load 8, .act 0 .read, .act 1 .read,
    .act 0 (.mint first), .act 1 (.mint second), .act 0 .create, .act 1 .create, .act 1 .write,
    .act 0 .write, .act 1 .sync, .act 0 .sync, .act 0 .move, .act 1 .move, .act 1 .remove,
    .act 0 .remove, .act 0 .read, .act 1 .read]
  -- Each process has a temporary file of its own.
  have met : Transition.Guarded PairFile.Alone PairFile.step PairFile.initial actions := by
    decide +kernel
  have ran : (Transition.run PairFile.step PairFile.initial actions).map
      (fun s => (s.tasks.map PairTask.result, s.volume.read .pair)) =
        some ([some first, some first], some first.text) := by
    decide +kernel
  obtain ⟨s, reached, facts⟩ := Option.map_eq_some_iff.mp ran
  obtain ⟨results, found⟩ := Prod.mk.inj facts
  -- The published file is what was handed over for it.
  obtain ⟨given, member, same, _⟩ := (pairing_published ⟨_, met, reached⟩).1 _ found
  exact ⟨s, ⟨_, met, reached⟩, results, given, member, same ▸ found⟩

/-- Two threads of one process share a temporary file: one of them empties what the other has
published, and two loads return different pairings. -/
theorem pairing_torn :
    (∃ s : PairFile, Transition.Reachable PairFile.step PairFile.initial s ∧ s.OnlyLoads ∧
      s.volume.read .pair = some []) ∧
    ∃ s : PairFile, Transition.Reachable PairFile.step PairFile.initial s ∧ s.OnlyLoads ∧
      s.tasks.map PairTask.result = [some ⟨9998, Key.all 1⟩, some ⟨9998, Key.all 2⟩] := by
  let first : Pairing := ⟨9998, Key.all 1⟩
  let second : Pairing := ⟨9998, Key.all 2⟩
  let both : List PairAction := [.load 7, .load 7, .act 0 .read, .act 1 .read,
    .act 0 (.mint first), .act 1 (.mint second), .act 0 .create]
  constructor
  · -- The second call empties the file that the first has just linked.
    have ran : (Transition.run PairFile.step PairFile.initial
        (both ++ [.act 0 .write, .act 0 .sync, .act 0 .move, .act 1 .create])).map
        (fun s => (s.tasks.map PairTask.purpose, s.volume.read .pair)) =
          some ([.load, .load], some []) := by
      decide +kernel
    obtain ⟨s, reached, facts⟩ := Option.map_eq_some_iff.mp ran
    obtain ⟨purposes, found⟩ := Prod.mk.inj facts
    exact ⟨s, ⟨_, reached⟩, onlyLoads_of_purposes purposes, found⟩
  · -- Both calls write to one file, and each reads what it wrote.
    have ran : (Transition.run PairFile.step PairFile.initial
        (both ++ [.act 1 .create, .act 0 .write, .act 0 .sync, .act 0 .move, .act 0 .remove,
          .act 0 .read, .act 1 .write, .act 1 .sync, .act 1 .move, .act 1 .remove,
          .act 1 .read])).map
        (fun s => (s.tasks.map PairTask.purpose, s.tasks.map PairTask.result)) =
          some ([.load, .load], [some first, some second]) := by
      decide +kernel
    obtain ⟨s, reached, facts⟩ := Option.map_eq_some_iff.mp ran
    obtain ⟨purposes, results⟩ := Prod.mk.inj facts
    exact ⟨s, ⟨_, reached⟩, onlyLoads_of_purposes purposes, results⟩

end Zapd
