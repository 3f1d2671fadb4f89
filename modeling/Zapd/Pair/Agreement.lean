import Zapd.Pair.Handshake

/-! Every admitted session agrees with exactly one honest client on both nonces. -/

namespace Zapd

open Utf8 Symbolic

variable {leaked : Key → Bool} {s s' : Handshake}

/-- The nonce a door session drew, once it has. -/
def Proving.nonce : Proving → Option Symbols
  | .challenged _ _ ns | .proved _ _ ns => some ns
  | .idle | .hailing _ | .hailed .. | .refused => none

/-- The client's nonce, once a door session has read it. -/
def Proving.read : Proving → Option Symbols
  | .hailed _ nc | .challenged _ nc _ | .proved _ nc _ => some nc
  | .idle | .hailing _ | .refused => none

/-- The nonce a client drew, once it has. -/
def Client.nonce : Client → Option Symbols
  | .waiting _ nc | .proven _ nc _ => some nc
  | .idle | .failed => none

/-- A step of the handshake, one case for each way it can be taken. -/
inductive Proves (leaked : Key → Bool) (s : Handshake) : Handshake → Prop
  | loaded {d : ProofId} {key : Key} (idle : s.doors d = .idle) :
    Proves leaked s { s with doors := Function.update s.doors d (.hailing key) }
  | refused {d : ProofId} :
    Proves leaked s { s with doors := Function.update s.doors d .refused }
  | hailed {d : ProofId} {key : Key} {nc : Symbols} (hailing : s.doors d = .hailing key)
    (width : nc.length = NONCE) :
    Proves leaked s { s with doors := Function.update s.doors d (.hailed key nc) }
  | challenged {d : ProofId} {key : Key} {nc : Symbols} {ns : Bytes}
    (hailed : s.doors d = .hailed key nc) (width : ns.length = NONCE) (fresh : ns ∉ s.drawn) :
    Proves leaked s { s with
      doors := Function.update s.doors d (.challenged key nc (plain ns))
      drawn := ns :: s.drawn
      seen := s.seen ++ (plain ns ++ proof key ROUTER nc (plain ns)) }
  | proved {d : ProofId} {key : Key} {nc ns : Symbols}
    (challenged : s.doors d = .challenged key nc ns)
    (written : (proof key CLIENT nc ns).all (known leaked s.seen) = true) :
    Proves leaked s { s with doors := Function.update s.doors d (.proved key nc ns) }
  | hails {c : ProofId} {key : Key} {nc : Bytes} (idle : s.clients c = .idle)
    (width : nc.length = NONCE) (fresh : nc ∉ s.drawn) :
    Proves leaked s { s with
      clients := Function.update s.clients c (.waiting key (plain nc))
      drawn := nc :: s.drawn
      seen := s.seen ++ plain nc }
  | failed {c : ProofId} (waiting : ∃ key nc, s.clients c = .waiting key nc) :
    Proves leaked s { s with clients := Function.update s.clients c .failed }
  | proven {c : ProofId} {key : Key} {nc ns : Symbols} (waiting : s.clients c = .waiting key nc) :
    Proves leaked s { s with
      clients := Function.update s.clients c (.proven key nc ns)
      seen := s.seen ++ proof key CLIENT nc ns }

/-- What a door session can make of a message that the attacker wrote. -/
theorem proves_of_toDoor {d : ProofId} {m : ProofMessage} {door : Proving}
    (written : s.writable leaked m = true) (heard : (s.doors d).hear m = some door) :
    Proves leaked s { s with doors := Function.update s.doors d door } := by
  -- Only a session that awaits a message hears one.
  unfold Proving.hear at heard
  split at heard
  · rename_i key hailing
    split at heard
    · cases heard
      exact .refused
    · split at heard
      · cases heard
        exact .refused
      · rename_i width
        cases heard
        exact .hailed hailing (not_not.mp width)
  · rename_i key nc ns challenged
    split at heard
    · cases heard
      exact .refused
    · rename_i given payload
      split at heard <;> cases heard
      · -- The payload that verified was written by the attacker.
        rename_i verified
        have same := of_decide_eq_true verified
        refine .proved challenged ?_
        cases m with
        | other => cases payload
        | frame typ sent =>
          obtain ⟨_, isSent⟩ := Option.ite_none_right_eq_some.mp payload
          cases isSent
          rw [← same]
          exact written
      · exact .refused
  · cases heard

/-- What a client can make of a message, whoever wrote it. -/
theorem proves_of_toClient {c : ProofId} {m : ProofMessage} {next : Client × Symbols}
    (heard : (s.clients c).hear m = some next) :
    Proves leaked s
      { s with clients := Function.update s.clients c next.1, seen := s.seen ++ next.2 } := by
  -- A client that gives up sends nothing.
  have failed : (∃ key nc, s.clients c = .waiting key nc) → Proves leaked s
      { s with clients := Function.update s.clients c .failed, seen := s.seen ++ [] } := by
    rw [List.append_nil]
    exact .failed
  unfold Client.hear at heard
  split at heard
  · rename_i key nc waiting
    split at heard
    · cases heard
      exact failed ⟨key, nc, waiting⟩
    · split at heard
      · cases heard
        exact failed ⟨key, nc, waiting⟩
      · dsimp only at heard
        split at heard <;> cases heard
        · exact .proven waiting
        · exact failed ⟨key, nc, waiting⟩
  · cases heard

/-- Every enabled step is one of the cases. -/
theorem proves_of_step {a : ProofAction} (enabled : s.step leaked a = some s') :
    Proves leaked s s' := by
  -- Each action is taken in one state of its session at most.
  cases a with
  | prove d key =>
    simp only [Handshake.step] at enabled
    split at enabled <;> cases enabled
    exact .loaded (by assumption)
  | toDoor d m =>
    obtain ⟨written, heard⟩ := Option.ite_none_right_eq_some.mp enabled
    obtain ⟨door, hears, same⟩ := Option.map_eq_some_iff.mp heard
    cases same
    exact proves_of_toDoor written hears
  | challenge d ns =>
    simp only [Handshake.step] at enabled
    split at enabled
    · rename_i hailed
      obtain ⟨⟨width, fresh⟩, same⟩ := Option.ite_none_right_eq_some.mp enabled
      cases same
      exact .challenged hailed width fresh
    · cases enabled
  | abort d =>
    simp only [Handshake.step] at enabled
    split at enabled <;> cases enabled
    exact .refused
  | hail c key nc =>
    simp only [Handshake.step] at enabled
    split at enabled
    · rename_i idle
      obtain ⟨⟨width, fresh⟩, same⟩ := Option.ite_none_right_eq_some.mp enabled
      cases same
      exact .hails idle width fresh
    · cases enabled
  | toClient c m =>
    obtain ⟨_, heard⟩ := Option.ite_none_right_eq_some.mp enabled
    obtain ⟨next, hears, same⟩ := Option.map_eq_some_iff.mp heard
    cases same
    exact proves_of_toClient hears
  | quit c =>
    simp only [Handshake.step] at enabled
    split at enabled <;> cases enabled
    exact .failed ⟨_, _, by assumption⟩

/-- Equal proof inputs are of the same label and nonces: nothing else has the same length. -/
theorem input_inj {label label' : Bytes} {nc nc' ns ns' : Symbols}
    (labels : label.length = label'.length) (nonces : nc.length = nc'.length)
    (same : (plain label ++ nc ++ ns : Symbols) = plain label' ++ nc' ++ ns') :
    label = label' ∧ nc = nc' ∧ ns = ns' := by
  rw [List.append_assoc, List.append_assoc] at same
  -- The label is cut off first, and then the client's nonce.
  obtain ⟨front, rest⟩ := List.append_inj same (by simp [labels])
  obtain ⟨ncSame, nsSame⟩ := List.append_inj rest nonces
  exact ⟨plain_inj.mp front, ncSame, nsSame⟩

/-- The two labels are as long as each other, and they differ. -/
theorem labels_differ : ROUTER.length = CLIENT.length ∧ ROUTER ≠ CLIENT := by decide

/-- The inputs whose codes were sent: those of door sessions, and those of clients that proved. -/
def Handshake.Issues (s : Handshake) (key : Key) (input : Symbols) : Prop :=
  (∃ nc ns : Symbols, nc.length = NONCE ∧ input = plain ROUTER ++ nc ++ ns) ∨
  (∃ c nc ns, s.clients c = .proven key nc ns ∧ nc.length = NONCE ∧
    input = plain CLIENT ++ nc ++ ns)

/-- What every step preserves. -/
structure Handshake.Agreeing (leaked : Key → Bool) (s : Handshake) : Prop where
  issued : Issued s.Issues s.seen
  doors : Drawn (s.drawn.map plain) (Proving.nonce ∘ s.doors)
  clients : Drawn (s.drawn.map plain) (Client.nonce ∘ s.clients)
  width : ∀ nonce ∈ s.drawn, nonce.length = NONCE
  read : ∀ d nc, (s.doors d).read = some nc → nc.length = NONCE
  proved : ∀ d key nc ns, s.doors d = .proved key nc ns → leaked key = false →
    ∃ c, s.clients c = .proven key nc ns

/-- No session has begun. -/
theorem Handshake.Agreeing.initial : Handshake.initial.Agreeing leaked where
  issued := Issued.nil
  doors := .nobody fun _ => rfl
  clients := .nobody fun _ => rfl
  width nonce member := by cases member
  read d nc read := by cases read
  proved d key nc ns proved := by cases proved

/-- The codes that were issued stay so as long as no client that proved changes. -/
theorem Handshake.Issues.mono {key : Key} {input : Symbols} (issues : s.Issues key input)
    (kept : ∀ c key nc ns, s.clients c = .proven key nc ns → s'.clients c = .proven key nc ns) :
    s'.Issues key input := by
  -- Codes of door sessions need no session to stand for them.
  rcases issues with router | ⟨c, nc, ns, proven, width, same⟩
  · exact .inl router
  · exact .inr ⟨c, nc, ns, kept c key nc ns proven, width, same⟩

/-- A client's proof that the attacker can write was sent by a client of the same nonces. -/
theorem Handshake.Agreeing.sender (agreeing : s.Agreeing leaked) {key : Key} {nc ns : Symbols}
    (width : nc.length = NONCE) (secret : leaked key = false)
    (written : (proof key CLIENT nc ns).all (known leaked s.seen) = true) :
    ∃ c, s.clients c = .proven key nc ns := by
  rcases agreeing.issued.of_known (by decide) secret written with
    ⟨nc', ns', width', same⟩ | ⟨c, nc', ns', proven, width', same⟩
  · -- A door's proof carries the other label.
    obtain ⟨label, _⟩ := input_inj labels_differ.1.symm (width.trans width'.symm) same
    exact absurd label.symm labels_differ.2
  · obtain ⟨_, rfl, rfl⟩ := input_inj rfl (width.trans width'.symm) same
    exact ⟨c, proven⟩

/-- A fresh nonce was drawn for nobody. -/
theorem fresh_plain {drawn : List Bytes} {nonce : Bytes} (fresh : nonce ∉ drawn) :
    (plain nonce : Symbols) ∉ drawn.map plain := by
  intro member
  obtain ⟨bytes, isDrawn, same⟩ := List.mem_map.mp member
  -- Plain strings are equal only as bytes.
  rw [plain_inj.mp same] at isDrawn
  exact fresh isDrawn

/-- The nonce of a client session is as long as all nonces. -/
theorem Handshake.Agreeing.clientWidth (agreeing : s.Agreeing leaked) {c : ProofId} {nc : Symbols}
    (owns : (s.clients c).nonce = some nc) : nc.length = NONCE := by
  obtain ⟨bytes, isDrawn, rfl⟩ := List.mem_map.mp (agreeing.clients.within c nc owns)
  rw [plain_length]
  exact agreeing.width bytes isDrawn

/-- Every nonce is as long as the rest when a new one of that length is drawn. -/
theorem Handshake.Agreeing.drawn (agreeing : s.Agreeing leaked) {nonce : Bytes}
    (width : nonce.length = NONCE) : ∀ drawn ∈ nonce :: s.drawn, drawn.length = NONCE :=
  List.forall_mem_cons.mpr ⟨width, agreeing.width⟩

/-- A door session that goes on in order leaves what all sessions read and proved in order. -/
theorem Handshake.Agreeing.turn (agreeing : s.Agreeing leaked) {d : ProofId} {door : Proving}
    (read : ∀ nc, door.read = some nc → nc.length = NONCE)
    (proved : ∀ key nc ns, door = .proved key nc ns → leaked key = false →
      ∃ c, s.clients c = .proven key nc ns) :
    (∀ e nc, (Function.update s.doors d door e).read = some nc → nc.length = NONCE) ∧
    (∀ e key nc ns, Function.update s.doors d door e = .proved key nc ns → leaked key = false →
      ∃ c, s.clients c = .proven key nc ns) := by
  constructor
  · intro e nc reads
    by_cases same : e = d
    · subst same
      rw [Function.update_self] at reads
      exact read nc reads
    · rw [Function.update_of_ne same] at reads
      exact agreeing.read e nc reads
  · intro e key nc ns isProved secret
    -- The clients are as before, so an old proof still has its sender.
    by_cases same : e = d
    · subst same
      rw [Function.update_self] at isProved
      exact proved key nc ns isProved secret
    · rw [Function.update_of_ne same] at isProved
      exact agreeing.proved e key nc ns isProved secret

/-- A door session goes on with the nonce it has, or with none, and sends nothing. -/
theorem Handshake.Agreeing.door (agreeing : s.Agreeing leaked) {d : ProofId} {door : Proving}
    (nonce : door.nonce = (s.doors d).nonce ∨ door.nonce = none)
    (read : ∀ nc, door.read = some nc → nc.length = NONCE)
    (proved : ∀ key nc ns, door = .proved key nc ns → leaked key = false →
      ∃ c, s.clients c = .proven key nc ns) :
    ({ s with doors := Function.update s.doors d door } : Handshake).Agreeing leaked := by
  obtain ⟨reads, proves⟩ := agreeing.turn (d := d) read proved
  refine ⟨agreeing.issued, ?_, agreeing.clients, agreeing.width, reads, proves⟩
  rw [Function.comp_update]
  exact agreeing.doors.keep nonce

/-- A client session that had not proven goes on, and no session that had changes. -/
theorem proven_kept {c : ProofId} (client : Client)
    (unproven : ∀ key nc ns, s.clients c ≠ .proven key nc ns) (e : ProofId) (key : Key)
    (nc ns : Symbols) (proven : s.clients e = .proven key nc ns) :
    Function.update s.clients c client e = .proven key nc ns := by
  -- The session that goes on is another one.
  have other : e ≠ c := by
    rintro rfl
    exact unproven key nc ns proven
  rw [Function.update_of_ne other]
  exact proven

/-- A client session that had not proven goes on and sends something. -/
theorem Handshake.Agreeing.client (agreeing : s.Agreeing leaked) {c : ProofId} (client : Client)
    {drawn : List Bytes} {sent : Symbols} (unproven : ∀ key nc ns, s.clients c ≠ .proven key nc ns)
    (issued : Issued ({ s with clients := Function.update s.clients c client } : Handshake).Issues
      sent)
    (doors : Drawn (drawn.map plain) (Proving.nonce ∘ s.doors))
    (clients : Drawn (drawn.map plain)
      (Function.update (Client.nonce ∘ s.clients) c client.nonce))
    (width : ∀ nonce ∈ drawn, nonce.length = NONCE) :
    ({ s with
      clients := Function.update s.clients c client
      drawn := drawn
      seen := s.seen ++ sent } : Handshake).Agreeing leaked := by
  -- Nobody relied on this session yet, and whoever was relied on is as before.
  have kept := proven_kept client unproven
  refine ⟨?_, doors, ?_, width, agreeing.read, ?_⟩
  · exact (agreeing.issued.mono fun _ _ issues => issues.mono kept).append issued
  · rw [Function.comp_update]
    exact clients
  · intro d key nc ns proved secret
    obtain ⟨e, proven⟩ := agreeing.proved d key nc ns proved secret
    exact ⟨e, kept e key nc ns proven⟩

/-- Every step preserves agreement. -/
theorem Handshake.Agreeing.step (agreeing : s.Agreeing leaked) (taken : Proves leaked s s') :
    s'.Agreeing leaked := by
  cases taken with
  | loaded | refused => exact agreeing.door (.inr rfl) (by simp [Proving.read]) (by simp)
  | hailed hailing width =>
    exact agreeing.door (.inr rfl) (by simp [Proving.read, width]) (by simp)
  | @challenged d key nc ns hailed width fresh =>
    have readBefore : nc.length = NONCE := agreeing.read d nc (by rw [hailed]; rfl)
    obtain ⟨reads, proves⟩ := agreeing.turn (d := d)
      (show ∀ other, (Proving.challenged key nc (plain ns)).read = some other → other.length = NONCE
        by simp [Proving.read, readBefore]) (by simp)
    refine ⟨?_, ?_, agreeing.clients.more _, agreeing.drawn width, reads, proves⟩
    · -- The router's proof is the one new code, over a nonce whose width was checked.
      refine agreeing.issued.append ((Issued.plain ns).append (Issued.tag ?_))
      exact .inl ⟨nc, plain ns, readBefore, rfl⟩
    · rw [Function.comp_update]
      exact agreeing.doors.give d (fresh_plain fresh)
  | @proved d key nc ns challenged written =>
    have readBefore : nc.length = NONCE := agreeing.read d nc (by rw [challenged]; rfl)
    refine agreeing.door (.inl (by rw [challenged]; rfl)) (by simp [Proving.read, readBefore]) ?_
    -- Without the key, the proof that was accepted must be one that a client sent.
    rintro _ _ _ ⟨⟩ secret
    exact agreeing.sender readBefore secret written
  | @hails c key nc idle width fresh =>
    exact agreeing.client _ (by simp [idle]) (Issued.plain nc) (agreeing.doors.more _)
      (agreeing.clients.give c (fresh_plain fresh)) (agreeing.drawn width)
  | @failed c waiting =>
    obtain ⟨key, nc, waiting⟩ := waiting
    have silent := agreeing.client (c := c) .failed (by simp [waiting]) Issued.nil
      agreeing.doors (agreeing.clients.keep (.inr rfl)) agreeing.width
    rwa [List.append_nil] at silent
  | @proven c key nc ns waiting =>
    have width : nc.length = NONCE := agreeing.clientWidth (c := c) (by rw [waiting]; rfl)
    refine agreeing.client _ (by simp [waiting]) (Issued.tag ?_) agreeing.doors
      (agreeing.clients.keep (.inl (by rw [Function.comp_apply, waiting]; rfl))) agreeing.width
    -- The client's proof is the one new code, and the client stands for it.
    exact .inr ⟨c, nc, ns, Function.update_self .., width, rfl⟩

/-- Agreement holds in every reachable state. -/
theorem Handshake.Agreeing.reachable
    (reached : Transition.Reachable (Handshake.step leaked) Handshake.initial s) :
    s.Agreeing leaked := by
  refine reached.invariant Handshake.Agreeing.initial ?_
  intro state action next agreeing enabled
  exact agreeing.step (proves_of_step enabled)

/-- Both labels are of one length. -/
theorem proofLabel_length {label : Bytes} (isLabel : label ∈ [ROUTER, CLIENT]) :
    label.length = ROUTER.length := by
  rcases List.mem_pair.mp isLabel with rfl | rfl
  · rfl
  · exact labels_differ.1.symm

/-- An admitted session has exactly one client session of the same nonces, and no two share one:
proof inputs are told apart by their lengths, and proofs by their labels. -/
theorem pairing_agreement
    (reached : Transition.Reachable (Handshake.step leaked) Handshake.initial s) :
    (∀ d key nc ns, s.doors d = .proved key nc ns → leaked key = false →
      ∃! c, s.clients c = .proven key nc ns) ∧
    (∀ c d e key nc ns, s.clients c = .proven key nc ns → s.doors d = .proved key nc ns →
      s.doors e = .proved key nc ns → d = e) ∧
    (∀ label ∈ [ROUTER, CLIENT], ∀ label' ∈ [ROUTER, CLIENT], ∀ nc nc' ns ns' : Symbols,
      nc.length = NONCE → nc'.length = NONCE →
      plain label ++ nc ++ ns = plain label' ++ nc' ++ ns' → label = label' ∧ nc = nc' ∧ ns = ns') ∧
    (∀ (key key' : Key) (nc nc' ns ns' : Symbols), nc.length = NONCE → nc'.length = NONCE →
      verify key CLIENT nc ns (proof key' ROUTER nc' ns') = false) := by
  have agreeing := Handshake.Agreeing.reachable reached
  refine ⟨?_, ?_, ?_, ?_⟩
  · intro d key nc ns proved secret
    obtain ⟨c, proven⟩ := agreeing.proved d key nc ns proved secret
    refine ⟨c, proven, fun e also => ?_⟩
    -- The nonce of the client is its own.
    exact agreeing.clients.distinct e c nc (by simp [also, Client.nonce])
      (by simp [proven, Client.nonce])
  · intro c d e key nc ns _ first second
    exact agreeing.doors.distinct d e ns (by simp [first, Proving.nonce])
      (by simp [second, Proving.nonce])
  · intro label isLabel label' isLabel' nc nc' ns ns' width width' same
    exact input_inj ((proofLabel_length isLabel).trans (proofLabel_length isLabel').symm)
      (width.trans width'.symm) same
  · intro key key' nc nc' ns ns' width width'
    refine decide_eq_false fun serves => ?_
    -- One code is of one input, and the labels of the two differ.
    obtain ⟨_, same⟩ := (tag_inj (by decide)).mp serves
    obtain ⟨label, _⟩ := input_inj labels_differ.1 (width'.trans width.symm) same
    exact labels_differ.2 label

/-- A client that holds the key is admitted. -/
theorem pairing_agreement_admitted : ∃ s : Handshake,
    Transition.Reachable (Handshake.step fun _ => false) Handshake.initial s ∧
      ∃ nc ns : Symbols, s.doors 4 = .proved (Key.all 9) nc ns ∧
        ∃! c, s.clients c = .proven (Key.all 9) nc ns := by
  let nc : Bytes := List.replicate 32 1
  let ns : Bytes := List.replicate 32 2
  -- The client and the door exchange nonces and proofs, and nobody interferes.
  have ran : (Transition.run (Handshake.step fun _ => false) Handshake.initial
      [.prove 4 (Key.all 9), .hail 7 (Key.all 9) nc, .toDoor 4 (.frame AUTH (plain nc)),
        .challenge 4 ns,
        .toClient 7 (.frame AUTH (plain ns ++ proof (Key.all 9) ROUTER (plain nc) (plain ns))),
        .toDoor 4 (.frame AUTH (proof (Key.all 9) CLIENT (plain nc) (plain ns)))]).map
        (fun s => s.doors 4) = some (.proved (Key.all 9) (plain nc) (plain ns)) := by
    decide +kernel
  obtain ⟨s, reached, proved⟩ := Option.map_eq_some_iff.mp ran
  exact ⟨s, ⟨_, reached⟩, _, _, proved,
    (pairing_agreement ⟨_, reached⟩).1 4 _ _ _ proved rfl⟩

end Zapd
