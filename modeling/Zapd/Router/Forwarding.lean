import Zapd.Codec.FrameLaws
import Zapd.Router.Answers

/-! Stamping a sender's id on a frame can take it past the limit the frame itself kept. -/

namespace Zapd

open Utf8

/-- Every reachable router has the host it started with. -/
theorem RouterReachable.host {host : String} {door : ConnId → Bool} {s : Router}
    (reached : RouterReachable host door s) : s.host = host :=
  reached.invariant (P := fun s => s.host = host) rfl fun _ _ _ same enabled =>
    (step_host enabled).trans same

/-- Registered ids are short. -/
theorem RouterReachable.claimed_length {hostname : String} {door : ConnId → Bool} {s : Router}
    (reached : RouterReachable (label hostname) door s) {id : String} {c : ConnId}
    (claimed : (id, c) ∈ s.claims) : (asBytes id).length ≤ 41 := by
  -- A registered id was stamped with the host's label.
  obtain ⟨proposed, stamped⟩ := reached.wellFormed.genuine id c claimed
  rw [reached.host] at stamped
  exact stamp_length stamped

/-- The frame with a sender's id stamped over what it claimed. -/
def Frame.stampedFrom (f : Frame) (id : String) : Frame := { f with from_ := id }

/--
A forwarded frame is accepted by both decoders, as the frame with only its sender changed,
exactly when it is within the limit under the id stamped on it.
-/
theorem forwarded_readable {hostname : String} {door : ConnId → Bool} {s : Router}
    (reached : RouterReachable (label hostname) door s) {b a : ConnId} {n : Nat} {q : Queued}
    (member : q ∈ s.queues b) (relayed : q.origin = .relayed a n) :
    ∃ f, (s.conns a).received[n]? = some f ∧
      ((Frame.read q.frame.encode = .ok (some (f.stampedFrom (s.conns a).id, [])) ∧
          Frame.decode q.frame.encode = .ok (f.stampedFrom (s.conns a).id)) ↔
        HEADER + (asBytes (s.conns a).id).length + (asBytes f.to_).length + f.payload.length ≤
          MAX_FRAME) := by
  have traced := reached.traced member
  obtain ⟨f, read, _, claimed, built⟩ : Origin.Accounts s (.relayed a n) q.frame :=
    relayed ▸ traced.accounted
  have same : q.frame = f.stampedFrom (s.conns a).id := built
  -- Both ids are registered ones, so only the size of the body is in question.
  have sourceShort := reached.claimed_length claimed
  have destinationShort : (asBytes f.to_).length ≤ 41 := by
    have addressed := traced.addressed
    rw [built] at addressed
    exact addressed ▸ reached.claimed_length traced.claimed
  refine ⟨f, read, ?_⟩
  rw [same, read_encode_ok, decode_encode_ok]
  simp only [and_true, and_self]
  constructor
  · exact fun fits => fits.size
  · -- Both ids are far below what their length fields hold.
    intro size
    refine ⟨?_, ?_, size⟩
    · simp only [Frame.stampedFrom]
      omega
    · simp only [Frame.stampedFrom]
      omega

/-- The steps by which one node sends another a frame. -/
def sends (a : ConnId) (f : Frame) : List Action := [.read a (.ok (some f)), .advance a]

/-- A node sends another one byte, which arrives. -/
theorem forwarded_readable_byte : ∃ s, RouterReachable (label "dgx") (fun _ => false) s ∧
    Frame.decode (Frame.new ROUTE "agent/dgx/a" "agent/dgx/b" [7]).encode =
      .ok ((Frame.new ROUTE "" "agent/dgx/b" [7]).stampedFrom (s.conns 0).id) := by
  have reached : RouterReachable (label "dgx") (fun _ => false) _ :=
    ⟨joins 0 "agent/a" ++ joins 1 "agent/b" ++ sends 0 (Frame.new ROUTE "" "agent/dgx/b" [7]), rfl⟩
  obtain ⟨f, read, readable⟩ := forwarded_readable reached (b := 1) (a := 0) (n := 0)
    (q := ⟨Frame.new ROUTE "agent/dgx/a" "agent/dgx/b" [7], .relayed 0 0⟩) (by decide) rfl
  cases read
  exact ⟨_, reached, (readable.mpr (by decide)).2⟩

/-- Whatever its payload, a frame to a registered node is queued there under the sender's id. -/
theorem sends_queued (payload : Bytes) : ∃ s, RouterReachable (label "dgx") (fun _ => false) s ∧
    s.queues 1 = [⟨Frame.new WELCOME "zapd" "agent/dgx/b" [], .welcome 1⟩,
      ⟨(Frame.new ROUTE "" "agent/dgx/b" payload).stampedFrom "agent/dgx/a", .relayed 0 0⟩] := by
  have reached : RouterReachable (label "dgx") (fun _ => false) _ :=
    ⟨joins 0 "agent/a" ++ joins 1 "agent/b" ++
      sends 0 (Frame.new ROUTE "" "agent/dgx/b" payload), rfl⟩
  exact ⟨_, reached, rfl⟩

/-- A frame at the limit without a sender is past it with one. -/
theorem stamped_too_long {payload : Bytes} (full : payload.length = MAX_FRAME - 22) :
    (Frame.new ROUTE "" "agent/dgx/b" payload).Fits ∧
      ¬ ((Frame.new ROUTE "" "agent/dgx/b" payload).stampedFrom "agent/dgx/a").Fits := by
  have id : (asBytes "agent/dgx/a").length = 11 := by decide
  have dest : (asBytes "agent/dgx/b").length = 11 := by decide
  refine ⟨⟨by simp [Frame.new], by simp [Frame.new, dest], ?_⟩, fun fits => ?_⟩
  · simp [Frame.bodyLength, Frame.new, HEADER, dest, full, MAX_FRAME]
  · -- The sender's id adds its eleven bytes.
    have size := fits.size
    simp [Frame.bodyLength, Frame.stampedFrom, Frame.new, HEADER, id, dest, full, MAX_FRAME] at size

/-- A frame its reader accepts is forwarded as bytes that no reader accepts. -/
theorem forwarded_unreadable : ∃ s, RouterReachable (label "dgx") (fun _ => false) s ∧
    ∃ f : Frame, f = Frame.new ROUTE "" "agent/dgx/b" (List.replicate (MAX_FRAME - 22) 0) ∧
      Frame.read f.encode = .ok (some (f, [])) ∧
      ⟨f.stampedFrom "agent/dgx/a", .relayed 0 0⟩ ∈ s.queues 1 ∧
      (∀ g, Frame.read (f.stampedFrom "agent/dgx/a").encode ≠ .ok (some (g, []))) ∧
      ∀ g, Frame.decode (f.stampedFrom "agent/dgx/a").encode ≠ .ok g := by
  obtain ⟨payload, zeros⟩ : ∃ payload : Bytes, payload = List.replicate (MAX_FRAME - 22) 0 :=
    ⟨_, rfl⟩
  -- The payload fits without a sender, and no longer fits with one.
  have full : payload.length = MAX_FRAME - 22 := by rw [zeros, List.length_replicate]
  obtain ⟨fits, tooLong⟩ := stamped_too_long full
  obtain ⟨s, reached, queue⟩ := sends_queued payload
  rw [← zeros]
  refine ⟨s, reached, _, rfl, read_encode_ok.mpr ⟨fits, rfl⟩, by simp [queue], fun g read => ?_,
    fun g decoded => ?_⟩
  · exact tooLong (read_encode_ok.mp read).1
  · exact tooLong (decode_encode_ok.mp decoded).1

end Zapd
