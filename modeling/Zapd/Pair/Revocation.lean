import Zapd.Pair.Agreement
import Zapd.Pair.Reset

/-! The door loads its token from the pairing file: a reset takes effect at once. -/

namespace Zapd

open Transition Utf8 Symbolic

/-- The pairing file, the proofs, and the call that each door session loads its pairing by. -/
structure Paired where
  file : PairFile
  proofs : Handshake
  loads : ProofId → Option Nat

/-- Nothing was called, and no session has begun. -/
def Paired.initial : Paired :=
  { file := .initial, proofs := .initial, loads := fun _ => none }

/-- One step of the file's calls, or of a session. -/
inductive PairedAction
  /-- Some process loads, resets or dies, or one of these calls goes on. -/
  | file (a : PairAction)
  /-- `prove` begins in the router's process, and loads. -/
  | prove (d : ProofId) (router : Pid)
  /-- A door session goes on behind its load, or a client does, or the attacker. -/
  | proofs (a : ProofAction)

/-- The token that a door session's load returned, once it has. -/
def Paired.loaded (s : Paired) (d : ProofId) : Option Key :=
  (s.loads d).bind fun t => (s.file.tasks[t]?.bind PairTask.result).map Pairing.key

/-- A door session goes on with the token that its own load returned. -/
def Paired.allows (s : Paired) : ProofAction → Bool
  | .prove d key => s.loaded d = some key
  | _ => true

/-- One atomic step, if it is enabled. -/
def Paired.step (leaked : Key → Bool) (s : Paired) : PairedAction → Option Paired
  | .file a => (s.file.step a).map fun file => { s with file }
  | .prove d router =>
    if s.loads d = none then
      (s.file.step (.load router)).map fun file =>
        { s with file, loads := Function.update s.loads d (some s.file.tasks.length) }
    else none
  | .proofs a =>
    if s.allows a then (s.proofs.step leaked a).map fun proofs => { s with proofs } else none

/-- Temporary files are not shared, and no token is drawn twice. -/
def Paired.Careful (s : Paired) : PairedAction → Prop
  | .file a => s.file.Careful a
  | _ => True

instance (s : Paired) : (a : PairedAction) → Decidable (s.Careful a)
  | .file a => inferInstanceAs (Decidable (s.file.Careful a))
  | .prove .. | .proofs _ => .isTrue trivial

/-- The token a door session goes on with. -/
def Proving.token : Proving → Option Key
  | .hailing key | .hailed key _ | .challenged key _ _ | .proved key _ _ => some key
  | .idle | .refused => none

variable {leaked : Key → Bool} {s s' : Paired} {key : Key} {d : ProofId}

/-- A session that hears a message goes on with its token, or with none. -/
theorem key_of_hear {door next : Proving} {m : ProofMessage} (heard : door.hear m = some next)
    (keyed : next.token = some key) : door.token = some key := by
  unfold Proving.hear at heard
  split at heard
  · split at heard
    · cases heard
      cases keyed
    · split at heard
      · cases heard
        cases keyed
      · cases heard
        exact keyed
  · split at heard
    · cases heard
      cases keyed
    · split at heard
      · cases heard
        exact keyed
      · cases heard
        cases keyed
  · cases heard

/-- A session has its token from before, or begins with it in this step. -/
theorem key_of_step {p p' : Handshake} {a : ProofAction} (enabled : p.step leaked a = some p')
    (keyed : (p'.doors d).token = some key) :
    (p.doors d).token = some key ∨ a = .prove d key := by
  -- One session goes on, and the others are as before.
  have one : ∀ {e : ProofId} {door : Proving},
      (Function.update p.doors e door d).token = some key →
      (e = d → door.token = some key → (p.doors d).token = some key ∨ a = .prove d key) →
      (p.doors d).token = some key ∨ a = .prove d key := by
    intro e door after own
    by_cases same : d = e
    · subst same
      rw [Function.update_self] at after
      exact own rfl after
    · rw [Function.update_of_ne same] at after
      exact .inl after
  cases a with
  | prove e given =>
    simp only [Handshake.step] at enabled
    split at enabled <;> cases enabled
    refine one keyed ?_
    rintro rfl ⟨⟩
    exact .inr rfl
  | toDoor e m =>
    obtain ⟨_, heard⟩ := Option.ite_none_right_eq_some.mp enabled
    obtain ⟨door, hears, rfl⟩ := Option.map_eq_some_iff.mp heard
    refine one keyed ?_
    rintro rfl after
    exact .inl (key_of_hear hears after)
  | challenge e ns =>
    simp only [Handshake.step] at enabled
    split at enabled
    · rename_i given nc hailed
      obtain ⟨_, same⟩ := Option.ite_none_right_eq_some.mp enabled
      cases same
      refine one keyed ?_
      rintro rfl after
      exact .inl (by rw [hailed]; exact after)
    · cases enabled
  | abort e =>
    simp only [Handshake.step] at enabled
    split at enabled <;> cases enabled
    refine one keyed ?_
    rintro rfl ⟨⟩
  | hail c given nc =>
    simp only [Handshake.step] at enabled
    split at enabled
    · obtain ⟨_, same⟩ := Option.ite_none_right_eq_some.mp enabled
      cases same
      exact .inl keyed
    · cases enabled
  | toClient c m =>
    obtain ⟨_, heard⟩ := Option.ite_none_right_eq_some.mp enabled
    obtain ⟨next, _, rfl⟩ := Option.map_eq_some_iff.mp heard
    exact .inl keyed
  | quit c =>
    simp only [Handshake.step] at enabled
    split at enabled <;> cases enabled
    exact .inl keyed

/-- A call that has returned stays as it is. -/
theorem PairFile.returned_kept {f f' : PairFile} {a : PairAction} (enabled : f.step a = some f')
    {t : Nat} {task : PairTask} {result : Except Error Pairing} (here : f.tasks[t]? = some task)
    (returned : task.doing = .returned result) : f'.tasks[t]? = some task := by
  have inside := (List.getElem?_eq_some_iff.mp here).1
  cases a with
  | load process | reset process =>
    cases enabled
    rwa [List.getElem?_append_left inside]
  | crash process =>
    cases enabled
    rw [List.getElem?_map, here]
    simp [PairTask.crash, returned]
  | act u op =>
    obtain ⟨old, was, mapped⟩ := Option.bind_eq_some_iff.mp enabled
    obtain ⟨⟨next, volume⟩, acted, rfl⟩ := Option.map_eq_some_iff.mp mapped
    -- A call that has returned takes no operation.
    have differ : u ≠ t := by
      rintro rfl
      cases was.symm.trans here
      cases op <;> simp [PairTask.act, PairTask.fail, returned] at acted
    rwa [List.getElem?_set_ne differ]

/-- A call has returned a pairing before, or has read it in this step. -/
theorem PairFile.Goes.returned_at {f f' : PairFile} (goes : f.Goes f') {t : Nat} {task : PairTask}
    {p : Pairing} (here : f'.tasks[t]? = some task) (result : task.doing = .returned (.ok p)) :
    f.tasks[t]? = some task ∨ readPair f.volume = .ok p := by
  -- Whatever replaces a call in the list has returned nothing, or has just read.
  have replaced : ∀ {u : Nat} {next : PairTask}, next.doing ≠ .returned (.ok p) →
      (f.tasks.set u next)[t]? = some task → f.tasks[t]? = some task := by
    intro u next other there
    rcases set_cases there with ⟨_, rfl⟩ | ⟨_, before⟩
    · exact absurd result other
    · exact before
  cases goes with
  | @called new reading =>
    rcases Nat.lt_or_ge t f.tasks.length with old | behind
    · rw [List.getElem?_append_left old] at here
      exact .inl here
    · rw [List.getElem?_append_right behind] at here
      rw [List.mem_singleton.mp (List.mem_of_getElem? here), reading] at result
      cases result
  | crashed process =>
    rw [List.getElem?_map] at here
    obtain ⟨old, before, rfl⟩ := Option.map_eq_some_iff.mp here
    rw [crash_returned result]
    exact .inl before
  | on was _ _ read =>
    rcases set_cases here with ⟨_, rfl⟩ | ⟨_, before⟩
    · exact .inr (read p result)
    · exact .inl before
  | minted | opened | wrote | synced | moved => exact .inl (replaced (by simp) here)
  | torn | removed => exact .inl (replaced ((published_spec _ _).2.2 p) here)

/-- What holds of every careful run. -/
structure Paired.Sound (leaked : Key → Bool) (s : Paired) : Prop where
  whole : s.file.Whole
  distinct : s.file.Distinct
  agreeing : s.proofs.Agreeing leaked
  keyed : ∀ d key, (s.proofs.doors d).token = some key → s.loaded d = some key

/-- Nothing was called, and no session has begun. -/
theorem Paired.Sound.initial : Paired.initial.Sound leaked where
  whole := .initial
  distinct := .initial
  agreeing := .initial
  keyed d key keyed := by cases keyed

/-- What a step of the pairing file does to the file is careful. -/
theorem PairFile.Careful.keeps {f f' : PairFile} {a : PairAction} (careful : f.Careful a)
    (enabled : f.step a = some f') (whole : f.Whole) (distinct : f.Distinct) :
    f'.Whole ∧ f'.Distinct := by
  have goes := goes_of_step careful.alone enabled
  exact ⟨whole.step goes, distinct.step whole goes fun _ => fresh_of_step careful enabled⟩

/-- The pairing that a call has returned. -/
theorem PairTask.result_eq_some {task : PairTask} {p : Pairing} :
    task.result = some p ↔ task.doing = .returned (.ok p) := by
  unfold PairTask.result
  split
  · rename_i found returned
    simp [returned]
  · rename_i other
    simp only [reduceCtorEq, false_iff]
    exact other p

/-- A session's load has returned when its call has. -/
theorem loaded_eq_some : s.loaded d = some key ↔ ∃ (t : Nat) (task : PairTask) (p : Pairing),
    s.loads d = some t ∧ s.file.tasks[t]? = some task ∧ task.doing = .returned (.ok p) ∧
      p.key = key := by
  simp only [Paired.loaded, Option.bind_eq_some_iff, Option.map_eq_some_iff,
    PairTask.result_eq_some]
  constructor
  · rintro ⟨t, loads, p, ⟨task, here, returned⟩, same⟩
    exact ⟨t, task, p, loads, here, returned, same⟩
  · rintro ⟨t, task, p, loads, here, returned, same⟩
    exact ⟨t, loads, p, ⟨task, here, returned⟩, same⟩

/-- What a step does: one of the file's calls goes on, a session begins to load, or one goes on. -/
theorem Paired.step_cases {a : PairedAction} (enabled : s.step leaked a = some s') :
    (∃ b file, a = .file b ∧ s.file.step b = some file ∧ s' = { s with file }) ∨
    (∃ e router file, a = .prove e router ∧ s.loads e = none ∧
      s.file.step (.load router) = some file ∧ s' = { s with
        file, loads := Function.update s.loads e (some s.file.tasks.length) }) ∨
    ∃ b proofs, a = .proofs b ∧ s.allows b = true ∧ s.proofs.step leaked b = some proofs ∧
      s' = { s with proofs } := by
  cases a with
  | file b =>
    obtain ⟨file, stepped, rfl⟩ := Option.map_eq_some_iff.mp enabled
    exact .inl ⟨b, file, rfl, stepped, rfl⟩
  | prove e router =>
    obtain ⟨idle, mapped⟩ := Option.ite_none_right_eq_some.mp enabled
    obtain ⟨file, stepped, rfl⟩ := Option.map_eq_some_iff.mp mapped
    exact .inr (.inl ⟨e, router, file, rfl, idle, stepped, rfl⟩)
  | proofs b =>
    obtain ⟨allowed, mapped⟩ := Option.ite_none_right_eq_some.mp enabled
    obtain ⟨proofs, stepped, rfl⟩ := Option.map_eq_some_iff.mp mapped
    exact .inr (.inr ⟨b, proofs, rfl, allowed, stepped, rfl⟩)

/-- What a step does to the file is a careful step of the file, if it is anything. -/
theorem Paired.Careful.file {a : PairedAction} (careful : s.Careful a)
    (enabled : s.step leaked a = some s') :
    s'.file = s.file ∨ ∃ b, s.file.Careful b ∧ s.file.step b = some s'.file := by
  rcases Paired.step_cases enabled with ⟨b, file, rfl, stepped, rfl⟩ |
    ⟨e, router, file, rfl, _, stepped, rfl⟩ | ⟨b, proofs, rfl, _, _, rfl⟩
  · exact .inr ⟨b, careful, stepped⟩
  · exact .inr ⟨.load router, trivial, stepped⟩
  · exact .inl rfl

/-- What a session's load has returned stays returned. -/
theorem loaded_kept {a : PairedAction} (enabled : s.step leaked a = some s')
    (loaded : s.loaded d = some key) : s'.loaded d = some key := by
  obtain ⟨t, task, p, loads, here, returned, same⟩ := loaded_eq_some.mp loaded
  rcases Paired.step_cases enabled with ⟨b, file, rfl, stepped, rfl⟩ |
    ⟨e, router, file, rfl, idle, stepped, rfl⟩ | ⟨b, proofs, rfl, _, _, rfl⟩
  · exact loaded_eq_some.mpr
      ⟨t, task, p, loads, PairFile.returned_kept stepped here returned, returned, same⟩
  · -- The session that begins is another one.
    have other : d ≠ e := by
      rintro rfl
      cases loads.symm.trans idle
    refine loaded_eq_some.mpr
      ⟨t, task, p, ?_, PairFile.returned_kept stepped here returned, returned, same⟩
    show Function.update s.loads e _ d = some t
    rw [Function.update_of_ne other]
    exact loads
  · exact loaded

/-- A session's load has returned its token before, or has read it in this step. -/
theorem Paired.Careful.loaded {a : PairedAction} (careful : s.Careful a)
    (enabled : s.step leaked a = some s') (loaded : s'.loaded d = some key) :
    s.loaded d = some key ∨ ∃ p, readPair s.file.volume = .ok p ∧ p.key = key := by
  obtain ⟨t, task, p, loads, here, returned, same⟩ := loaded_eq_some.mp loaded
  have before : s.file.tasks[t]? = some task ∨ readPair s.file.volume = .ok p := by
    rcases careful.file enabled with kept | ⟨b, careful, stepped⟩
    · exact .inl (kept ▸ here)
    · exact (goes_of_step careful.alone stepped).returned_at here returned
  rcases before with was | read
  swap
  · exact .inr ⟨p, read, same⟩
  rcases Paired.step_cases enabled with ⟨b, file, rfl, stepped, rfl⟩ |
    ⟨e, router, file, rfl, idle, stepped, rfl⟩ | ⟨b, proofs, rfl, _, _, rfl⟩
  · exact .inl (loaded_eq_some.mpr ⟨t, task, p, loads, was, returned, same⟩)
  · change Function.update s.loads e (some s.file.tasks.length) d = some t at loads
    by_cases own : d = e
    · -- The call that a session begins with was not there before.
      subst own
      rw [Function.update_self] at loads
      cases loads
      rw [List.getElem?_eq_none (Nat.le_refl _)] at was
      cases was
    · rw [Function.update_of_ne own] at loads
      exact .inl (loaded_eq_some.mpr ⟨t, task, p, loads, was, returned, same⟩)
  · exact .inl loaded

/-- Every careful step keeps all of this. -/
theorem Paired.Sound.step (sound : s.Sound leaked) {a : PairedAction} (careful : s.Careful a)
    (enabled : s.step leaked a = some s') : s'.Sound leaked := by
  have file : s'.file.Whole ∧ s'.file.Distinct := by
    rcases careful.file enabled with kept | ⟨b, careful, stepped⟩
    · rw [kept]
      exact ⟨sound.whole, sound.distinct⟩
    · exact careful.keeps stepped sound.whole sound.distinct
  refine ⟨file.1, file.2, ?_, ?_⟩
  · rcases Paired.step_cases enabled with ⟨b, file, rfl, stepped, rfl⟩ |
      ⟨e, router, file, rfl, idle, stepped, rfl⟩ | ⟨b, proofs, rfl, _, stepped, rfl⟩
    · exact sound.agreeing
    · exact sound.agreeing
    · exact sound.agreeing.step (proves_of_step stepped)
  · intro d key keyed
    have before : (s.proofs.doors d).token = some key ∨ a = .proofs (.prove d key) := by
      rcases Paired.step_cases enabled with ⟨b, file, rfl, stepped, rfl⟩ |
        ⟨e, router, file, rfl, idle, stepped, rfl⟩ | ⟨b, proofs, rfl, _, stepped, rfl⟩
      · exact .inl keyed
      · exact .inl keyed
      · exact (key_of_step stepped keyed).imp_right fun same => by rw [same]
    rcases before with had | rfl
    · exact loaded_kept enabled (sound.keyed d key had)
    · -- The session goes on with what its load returned.
      obtain ⟨allowed, _⟩ := Option.ite_none_right_eq_some.mp enabled
      exact loaded_kept enabled (of_decide_eq_true allowed)

/-- A token that is settled stays so, and one that is retired too. -/
theorem Paired.Careful.settled {a : PairedAction} (careful : s.Careful a)
    (enabled : s.step leaked a = some s') (whole : s.file.Whole) :
    (s.file.Settled key → s'.file.Settled key) ∧ (s.file.Retired key → s'.file.Retired key) := by
  rcases careful.file enabled with kept | ⟨b, careful, stepped⟩
  · rw [kept]
    exact ⟨id, id⟩
  · have goes := goes_of_step careful.alone stepped
    have fresh : ∀ given, s'.file.handed = given :: s.file.handed →
        ∀ other ∈ s.file.handed, other.key ≠ given.key :=
      fun given handed => fresh_of_step careful stepped handed
    exact ⟨fun settled => settled.step goes fresh, fun retired => retired.step whole goes fresh⟩

/-- What a reset leaves behind once it has replaced the file, for every later state. -/
structure Paired.Revoked (leaked : Key → Bool) (key : Key) (s before : Paired) : Prop where
  sound : s.Sound leaked
  retired : s.file.Retired key
  calls : ∀ (u : Nat) (call : PairTask) (p : Pairing), s.file.tasks[u]? = some call →
    call.doing = .returned (.ok p) → p.key = key → before.file.tasks[u]? = some call
  loads : ∀ d, before.loaded d = none → s.loaded d ≠ some key

/-- Every careful step leaves a replaced token revoked. -/
theorem Paired.Revoked.step {before : Paired} (revoked : s.Revoked leaked key before)
    {a : PairedAction} (careful : s.Careful a) (enabled : s.step leaked a = some s') :
    s'.Revoked leaked key before := by
  obtain ⟨sound, retired, calls, loads⟩ := revoked
  refine ⟨sound.step careful enabled,
    (careful.settled enabled sound.whole).2 retired, ?_, ?_⟩
  · intro u call p here returned same
    rcases careful.file enabled with kept | ⟨b, careful, stepped⟩
    · exact calls u call p (kept ▸ here) returned same
    · rcases (goes_of_step careful.alone stepped).returned_at here returned with was | read
      · exact calls u call p was returned same
      · -- The token cannot be read any more.
        exact absurd same (retired.gone p read)
  · intro d fresh loaded
    rcases careful.loaded enabled loaded with had | ⟨p, read, same⟩
    · exact loads d fresh had
    · exact retired.gone p read same

end Zapd
