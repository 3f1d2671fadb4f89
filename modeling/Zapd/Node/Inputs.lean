import Zapd.Codec.ControlLaws
import Zapd.Node.Steps
import Zapd.Router.Model

/-! Which inputs of a caller reach the router as they were given. -/

namespace Zapd

open Utf8

/-- What a joined node writes first in every session. A hello is refused by nobody. -/
def joinHello (id : String) (role : UInt8) (brand : String) (caps : List String) : Bytes :=
  (helloOf id role brand caps).encode

/-- The router reads these bytes as one HELLO with this descriptor. -/
def RegisteredAs (written : Bytes) (desc : Descriptor) : Prop :=
  ∃ f, Frame.read written = .ok (some (f, [])) ∧ f.typ = HELLO ∧ decodeHello f.payload = .ok desc

/-- The router reads these bytes as one frame with this payload, which it routes to this id. -/
def RoutedAs (written : Bytes) (to_ : String) (payload : Bytes) : Prop :=
  ∃ f, Frame.read written = .ok (some (f, [])) ∧ dispatch f = .forwarding f ∧
    f.to_ = to_ ∧ f.payload = payload

variable {τ : Type} {n n' : Node τ} {k : AskId}

/-- A send queues a frame that the router takes as this call, or it queues nothing. -/
def SentAsGiven (n n' : Node τ) (k : AskId) (to_ : String) (payload : Bytes) : Prop :=
  n' = n.goOn k .unsent ∨
    ∃ sent, n'.outbox = n.outbox ++ [sent] ∧ RoutedAs sent.frame.encode to_ payload

/-- A hello is registered as it was given exactly when it fits, and so do its texts and counts. -/
theorem registeredAs_joinHello {id brand : String} {role : UInt8} {caps : List String} :
    RegisteredAs (joinHello id role brand caps) { role, brand, caps, attrs := [] } ↔
      (helloOf id role brand caps).Fits ∧ Short brand ∧ caps.length < 2 ^ 16 ∧
        ∀ cap ∈ caps, Short cap := by
  constructor
  -- What is read back is the hello itself, so it fits.
  · rintro ⟨f, read, _, decoded⟩
    obtain ⟨fits, rfl⟩ := read_encode_ok.mp read
    -- The body is the encoded descriptor, which decodes to itself only if it fits.
    have descFits := decodeHello_encodeHello.mp decoded
    exact ⟨fits, descFits.brand, descFits.capCount, descFits.caps⟩
  · rintro ⟨fits, brandShort, few, capsShort⟩
    refine ⟨_, read_encode_ok.mpr ⟨fits, rfl⟩, rfl, ?_⟩
    exact decodeHello_encodeHello.mpr ⟨brandShort, few, capsShort, by simp, by simp⟩

/-- A call is routed as it was given exactly when it names a destination and its frame fits. -/
theorem routedAs_call {to_ : String} {payload : Bytes} :
    RoutedAs (Request.call to_ payload).frame.encode to_ payload ↔
      to_ ≠ "" ∧ (Request.call to_ payload).frame.Fits := by
  constructor
  -- What is read back is the call itself, so it fits.
  · rintro ⟨f, read, routed, rfl, rfl⟩
    obtain ⟨fits, same⟩ := read_encode_ok.mp read
    refine ⟨fun unnamed => ?_, fits⟩
    -- Without a destination the frame is for the router itself.
    unfold dispatch at routed
    rw [if_pos unnamed] at routed
    split at routed
    · cases routed
    · split at routed <;> cases routed
  · rintro ⟨named, fits⟩
    refine ⟨_, read_encode_ok.mpr ⟨fits, rfl⟩, ?_, rfl, rfl⟩
    exact if_neg named

/-- What a send does to a node: it queues the frame, or nobody takes it. -/
theorem node_sends (enabled : n.step (.send k) = some n') :
    ((n.tx = none ∨ n.writer = false) ∧ n' = n.goOn k .unsent) ∨
    (n.tx ≠ none ∧ n.writer = true ∧ ∃ sent, sent.frame = (n.asks k).request.frame ∧
      n'.outbox = n.outbox ++ [sent]) := by
  -- The frame is queued only with a session whose writer takes frames.
  simp only [Node.step] at enabled
  split at enabled
  · rename_i session _ taken
    split at enabled <;> cases enabled
    · rename_i alive
      exact .inr ⟨by simp [taken], alive, ⟨session, k, _⟩, rfl, rfl⟩
    · rename_i dead
      exact .inl ⟨.inr (by simpa using dead), rfl⟩
  · cases enabled
    exact .inl ⟨.inl (by assumption), rfl⟩
  · cases enabled

/--
A hello, and every call that is sent at all, reaches the router as it was given exactly when it
fits.

A call also has to name a destination, or the router takes it for a control frame.
-/
theorem inputs_as_given :
    (∀ (id : String) (role : UInt8) (brand : String) (caps : List String),
      RegisteredAs (joinHello id role brand caps) { role, brand, caps, attrs := [] } ↔
        (helloOf id role brand caps).Fits ∧ Short brand ∧ caps.length < 2 ^ 16 ∧
          ∀ cap ∈ caps, Short cap) ∧
    (∀ (n n' : Node τ) (k : AskId) (to_ : String) (payload : Bytes),
      (n.asks k).request = .call to_ payload → n.step (.send k) = some n' →
        (SentAsGiven n n' k to_ payload ↔
          (n.tx = none ∨ n.writer = false) ∨
            to_ ≠ "" ∧ (Request.call to_ payload).frame.Fits)) := by
  refine ⟨fun id role brand caps => registeredAs_joinHello, ?_⟩
  intro n n' k to_ payload asked enabled
  rcases node_sends enabled with ⟨refused, rfl⟩ | ⟨linked, alive, sent, frame, queued⟩
  · exact ⟨fun _ => .inl refused, fun _ => .inl rfl⟩
  · -- Nothing was refused here, so the frame that was queued decides.
    rw [asked] at frame
    have taken : ¬ (n.tx = none ∨ n.writer = false) := by simp [linked, alive]
    constructor
    · -- The frame was queued, so it is the one that has to be routed.
      rintro (rfl | ⟨other, grown, routed⟩)
      · simp at queued
      · rw [queued] at grown
        obtain rfl := List.singleton_inj.mp (List.append_cancel_left grown)
        rw [frame] at routed
        exact .inr (routedAs_call.mp routed)
    · rintro (refused | fits)
      · exact absurd refused taken
      · refine .inr ⟨sent, queued, ?_⟩
        rw [frame]
        exact routedAs_call.mpr fits

/-- A run of one character. -/
def letters (count : Nat) : String := String.ofList (List.replicate count 'a')

@[simp] theorem asBytes_letters (count : Nat) :
    asBytes (letters count) = List.replicate count 97 := by
  -- Each letter is written as one byte.
  have one : String.utf8EncodeChar 'a' = List.replicate 1 97 := by decide
  simp only [asBytes, letters, String.toList_ofList, List.flatMap_replicate, one]
  rw [List.flatten_replicate_replicate, Nat.mul_one]

/-- As many empty texts behind each other are twice as many zero bytes. -/
theorem flatMap_empty (count : Nat) :
    (List.replicate count "").flatMap putStr = List.replicate (count * 2) 0 := by
  have one : putStr "" = List.replicate 2 0 := by decide
  rw [List.flatMap_replicate, one, List.flatten_replicate_replicate]

theorem flatMap_emptyAttr (count : Nat) :
    (List.replicate count ("", "")).flatMap putAttr = List.replicate (count * 4) 0 := by
  -- An empty attribute is two empty texts.
  have one : putAttr ("", "") = List.replicate 4 0 := by decide
  rw [List.flatMap_replicate, one, List.flatten_replicate_replicate]

/-- A text that holds two others, each behind its length. -/
def nested : String := "~?" ++ letters 16254 ++ "\x7f@" ++ letters 16511

/-- The text is written as its own length, and then as the two it holds. -/
theorem putStr_nested :
    putStr nested = le16 32769 ++ (putStr (letters 16254) ++ putStr (letters 16511)) := by
  have first : asBytes "~?" = le16 16254 := by decide
  have second : asBytes "\x7f@" = le16 16511 := by decide
  simp only [putStr, nested, asBytes_append, asBytes_letters, List.length_append,
    List.length_replicate, first, second, le16_length, List.append_assoc]
  rfl

/-- Caps whose count wraps to nothing. -/
def wrappedCaps : List String := nested :: List.replicate 65535 ""

/-- What they are registered as: no caps at all, and attributes that nobody gave. -/
def wrappedDescriptor : Descriptor :=
  { role := 1, brand := "", caps := []
    attrs := (letters 16254, letters 16511) :: List.replicate 32768 ("", "") }

/-- The caps and the attributes they are taken for are the same bytes. -/
theorem encodeHello_wrapped :
    encodeHello { role := 1, brand := "", caps := wrappedCaps, attrs := [] } =
      encodeHello wrappedDescriptor := by
  -- Both counts wrap, to nothing and to one more than half.
  have capCount : wrappedCaps.length.toUInt16 = 0 := by
    rw [wrappedCaps, List.length_cons, List.length_replicate]
    decide
  have attrCount : wrappedDescriptor.attrs.length.toUInt16 = 32769 := by
    rw [wrappedDescriptor, List.length_cons, List.length_replicate]
    decide
  have none_ : le16 0 = List.replicate 2 0 := by decide
  -- The count of the attributes, which is nothing, reads as one more empty text.
  have zeros : List.replicate (65535 * 2) (0 : UInt8) ++ le16 0 =
      List.replicate (32768 * 4) 0 := by
    rw [none_, List.replicate_append_replicate]
  have caps : putAll putStr wrappedCaps ++ le16 0 =
      le16 0 ++ putAll putAttr wrappedDescriptor.attrs := by
    rw [putAll, putAll, capCount, attrCount, wrappedCaps, wrappedDescriptor, List.flatMap_cons,
      List.flatMap_cons, flatMap_empty, flatMap_emptyAttr, putStr_nested, putAttr, ← zeros]
    simp only [List.append_assoc]
  have attrs : putAll putAttr ([] : List (String × String)) = le16 0 := rfl
  have nothing : putAll putStr ([] : List String) = le16 0 := rfl
  simp only [encodeHello, Descriptor.put, List.append_assoc, attrs, caps]
  rw [wrappedDescriptor, nothing]

/-- The descriptor they are taken for fits its fields. -/
theorem wrappedDescriptor_fits : wrappedDescriptor.Fits where
  brand := by decide
  capCount := Nat.two_pow_pos 16
  caps := nofun
  attrCount := by
    rw [wrappedDescriptor, List.length_cons, List.length_replicate]
    omega
  attrs attr member := by
    -- One attribute is long, and the rest are empty.
    rcases List.mem_cons.mp member with rfl | empty
    · simp only [ShortAttr, Short, asBytes_letters, List.length_replicate]
      omega
    · rw [List.eq_of_mem_replicate empty]
      decide

/-- The size of a descriptor with one long attribute and many empty ones. -/
theorem size_attrs (first second count : Nat) :
    Descriptor.size { role := 1, brand := "", caps := []
                      attrs := (letters first, letters second) ::
                        List.replicate count ("", "") } =
      11 + first + second + count * 4 := by
  -- Each empty attribute takes four bytes, and the long one its letters besides.
  simp only [Descriptor.size, textSize, asBytes_letters, asBytes_empty, List.map_cons,
    List.map_nil, List.map_replicate, List.sum_cons, List.sum_replicate_nat, List.sum_nil,
    List.length_replicate, List.length_nil]
  omega

/-- Its hello is far below the limit of a frame. -/
theorem wrappedHello_fits : (helloOf "cli/me" 1 "" wrappedCaps).Fits := by
  have name : (asBytes "cli/me").length = 6 := by decide
  have size : wrappedDescriptor.size = _ := size_attrs 16254 16511 32768
  -- Both addresses are short, and the wrapped descriptor is not too large.
  refine ⟨?_, ?_, ?_⟩
  · rw [helloOf, Frame.new, name]
    omega
  · rw [helloOf, Frame.new, asBytes_empty, List.length_nil]
    omega
  · rw [helloOf, new_bodyLength, encodeHello_wrapped, encodeHello, descriptor_length, name, size,
      asBytes_empty, List.length_nil, HEADER, MAX_FRAME]
    omega

/--
Wrapped caps are registered as another descriptor, and nothing tells the caller.

A call without a destination is taken for a control frame, and an oversize one ends the connection.
-/
theorem inputs_mistaken :
    (RegisteredAs (joinHello "cli/me" 1 "" wrappedCaps) wrappedDescriptor ∧
      wrappedDescriptor.caps ≠ wrappedCaps) ∧
    (∃ f, Frame.read (Request.call "" []).frame.encode = .ok (some (f, [])) ∧
      dispatch f = .unknown) ∧
    (∃ payload, Frame.read (Request.call "agent/h/a" payload).frame.encode =
      .error badLength) := by
  refine ⟨⟨⟨_, read_encode_ok.mpr ⟨wrappedHello_fits, rfl⟩, rfl, ?_⟩, ?_⟩, ?_, ?_⟩
  · -- The router reads the descriptor that the bytes are the encoding of.
    rw [helloOf, new_payload, encodeHello_wrapped]
    exact decodeHello_encodeHello.mpr wrappedDescriptor_fits
  · exact nofun
  -- A frame without a destination is for the router.
  · exact ⟨_, read_encode_ok.mpr ⟨by decide, rfl⟩, rfl⟩
  · -- A payload as long as a whole frame leaves no room for its header.
    obtain ⟨payload, long⟩ : ∃ payload : Bytes, payload.length = MAX_FRAME :=
      ⟨List.replicate MAX_FRAME 0, List.length_replicate⟩
    have name : (asBytes "agent/h/a").length = 9 := by decide
    have length : (Request.call "agent/h/a" payload).frame.bodyLength = 20 + MAX_FRAME := by
      rw [Request.frame, new_bodyLength, name, long, asBytes_empty, List.length_nil, HEADER]
    refine ⟨payload, ?_⟩
    rw [← List.append_nil (Frame.encode _)]
    exact read_oversize (by omega) (by rw [length, MAX_FRAME]; omega) []

/-- A node about to send its only call. -/
def Node.calling (to_ : String) (payload : Bytes) : Node Unit :=
  { id := "cli/h/me", tx := some 1, up := true, link := .reading, session := 1, writer := true
    asks := fun _ => { request := .call to_ payload, phase := .stored } }

/-- A small hello is registered, and a small call is sent, as they were given. -/
theorem inputs_as_given_small :
    RegisteredAs (joinHello "cli/me" 1 "hanzo" ["navigate"]) ⟨1, "hanzo", ["navigate"], []⟩ ∧
      ∃ n', (Node.calling "agent/h/a" [1, 2, 3]).step (.send 0) = some n' ∧
        SentAsGiven (Node.calling "agent/h/a" [1, 2, 3]) n' 0 "agent/h/a" [1, 2, 3] := by
  have given := @inputs_as_given Unit
  refine ⟨(given.1 "cli/me" 1 "hanzo" ["navigate"]).mpr (by decide), _, rfl, ?_⟩
  exact (given.2 _ _ 0 "agent/h/a" [1, 2, 3] rfl rfl).mpr (.inr (by decide))

end Zapd
