import Zapd.Codec.Control
import Zapd.Codec.FrameLaws

/-! Which control bodies are read back as what was written into them. -/

namespace Zapd

open Utf8 Parse

/-- A text short enough for its 16-bit length. -/
def Short (s : String) : Prop := (asBytes s).length < 2 ^ 16

instance (s : String) : Decidable (Short s) := inferInstanceAs (Decidable (_ < _))

/-- Both texts of an attribute are short. -/
def ShortAttr (attr : String × String) : Prop := Short attr.1 ∧ Short attr.2

instance (attr : String × String) : Decidable (ShortAttr attr) :=
  inferInstanceAs (Decidable (_ ∧ _))

/-- Every text and every count of a descriptor is within its field. -/
structure Descriptor.Fits (d : Descriptor) : Prop where
  brand : Short d.brand
  capCount : d.caps.length < 2 ^ 16
  caps : ∀ cap ∈ d.caps, Short cap
  attrCount : d.attrs.length < 2 ^ 16
  attrs : ∀ attr ∈ d.attrs, ShortAttr attr

/-- An entry whose id and descriptor are within their fields. -/
structure Entry.Fits (e : Entry) : Prop where
  id : Short e.id
  desc : e.desc.Fits

/-- A text is read as the lossy decoding of as many bytes as its length says. -/
theorem str_ok {bytes rest : Bytes} {s : String} :
    Cursor.str bytes = .ok (s, rest) ↔
      ∃ taken : Bytes, taken.length < 2 ^ 16 ∧
        bytes = le16 taken.length.toUInt16 ++ (taken ++ rest) ∧ s = fromUtf8Lossy taken := by
  simp only [Cursor.str, bind_ok, Cursor.u16_ok, Cursor.string_ok]
  constructor
  · -- As many bytes were taken as the length said.
    rintro ⟨count, _, rfl, taken, width, rfl, rfl⟩
    exact ⟨taken, width ▸ count.toNat_lt, by rw [eq_toUInt16 width], rfl⟩
  · rintro ⟨taken, fits, rfl, rfl⟩
    exact ⟨_, _, rfl, taken, (toNat_toUInt16 fits).symm, rfl, rfl⟩

/-- A text is read back exactly when it is short: a longer one loses its end to the cast. -/
theorem inverts_str : Inverts Cursor.str putStr Short where
  reads s short rest := str_ok.mpr ⟨asBytes s, short, by simp [putStr], by simp⟩
  only s rest left read := by
    obtain ⟨taken, fits, same, decoded⟩ := str_ok.mp read
    rw [putStr, List.append_assoc] at same
    obtain ⟨lengths, same⟩ := List.append_inj same (by simp)
    have residue := congrArg UInt16.toNat (le16_inj.mp lengths)
    rw [toNat_toUInt16 fits, Nat.toUInt16_eq, UInt16.toNat_ofNat'] at residue
    have cut := Nat.mod_le (asBytes s).length (2 ^ 16)
    by_cases short : Short s
    · -- The stated length is the true one, so the bytes taken are the text's own.
      rw [Nat.mod_eq_of_lt short] at residue
      exact ⟨short, (List.append_inj same residue).2.symm⟩
    · -- Otherwise what was taken is a cut of the text, too short to decode to all of it.
      have prefixed : taken = (asBytes s).take taken.length := by
        have front := congrArg (List.take taken.length) same
        rw [List.take_append_of_le_length (by omega), List.take_left] at front
        exact front.symm
      have small := lossy_take_length_le s taken.length
      rw [← prefixed, ← decoded] at small
      simp only [Short] at short
      omega

/-- Counted items are read back when they are few enough and each of them is. -/
theorem inverts_takeAll {α : Type} {item : Cursor α} {put : α → Bytes} {fits : α → Prop}
    (each : Inverts item put fits) :
    Inverts (takeAll item) (putAll put)
      (fun items => items.length < 2 ^ 16 ∧ ∀ value ∈ items, fits value) where
  reads items bounds rest := by
    -- The count is read back as it is, and then that many items.
    obtain ⟨few, fit⟩ := bounds
    refine bind_ok.mpr ⟨items.length.toUInt16, items.flatMap put ++ rest, ?_, ?_⟩
    · rw [putAll, List.append_assoc]
      exact Cursor.u16_ok.mpr rfl
    · rw [toNat_toUInt16 few]
      exact reads_times (fun value member => each.reads value (fit value member)) rest
  only items rest left read := by
    obtain ⟨count, mid, counted, more⟩ := bind_ok.mp read
    have same := Cursor.u16_ok.mp counted
    rw [putAll, List.append_assoc] at same
    obtain ⟨_, rfl⟩ := List.append_inj same (by simp)
    -- The list that was read has as many items as the count said, so the count did not wrap.
    have length := times_length more
    rw [← length] at more
    obtain ⟨fit, left⟩ := each.times more
    exact ⟨⟨length ▸ count.toNat_lt, fit⟩, left⟩

theorem inverts_takeAttr : Inverts takeAttr putAttr ShortAttr where
  reads attr short :=
    (inverts_str.reads _ short.1).bind
      (by simpa using (inverts_str.reads _ short.2).map (attr.1, ·))
  only attr rest left read := by
    obtain ⟨k, mid, keyRead, more⟩ := bind_ok.mp read
    obtain ⟨v, mid', valueRead, finished⟩ := bind_ok.mp more
    obtain ⟨rfl, rfl⟩ := pure_ok.mp finished
    rw [putAttr, List.append_assoc] at keyRead
    -- The key was read back as itself, so the value begins where it was written.
    obtain ⟨keyShort, rfl⟩ := inverts_str.only _ _ _ keyRead
    obtain ⟨valueShort, rest⟩ := inverts_str.only _ _ _ valueRead
    exact ⟨⟨keyShort, valueShort⟩, rest⟩

/-- A descriptor is read back exactly when all its texts and counts fit. -/
theorem inverts_descriptor : Inverts Descriptor.take Descriptor.put Descriptor.Fits where
  reads d fits rest := by
    simp only [Descriptor.take, bind_ok, pure_ok]
    refine ⟨d.role, putStr d.brand ++ (putAll putStr d.caps ++ (putAll putAttr d.attrs ++ rest)),
      Cursor.u8_ok.mpr (by simp [Descriptor.put]), d.brand, _, inverts_str.reads _ fits.brand _,
      d.caps, _, (inverts_takeAll inverts_str).reads _ ⟨fits.capCount, fits.caps⟩ _,
      d.attrs, _, (inverts_takeAll inverts_takeAttr).reads _ ⟨fits.attrCount, fits.attrs⟩ _,
      rfl, rfl⟩
  only d rest left read := by
    simp only [Descriptor.take, bind_ok, pure_ok, Cursor.u8_ok] at read
    obtain ⟨role, _, same, brand, _, brandRead, caps, _, capsRead, attrs, _, attrsRead,
      rfl, rfl⟩ := read
    simp only [Descriptor.put, List.cons_append, List.append_assoc,
      List.cons.injEq, true_and] at same
    -- Each field was read back as itself, so the next begins where it was written.
    subst same
    obtain ⟨brandShort, rfl⟩ := inverts_str.only _ _ _ brandRead
    obtain ⟨⟨capCount, capsShort⟩, rfl⟩ := (inverts_takeAll inverts_str).only _ _ _ capsRead
    obtain ⟨⟨attrCount, attrsShort⟩, same⟩ :=
      (inverts_takeAll inverts_takeAttr).only _ _ _ attrsRead
    exact ⟨⟨brandShort, capCount, capsShort, attrCount, attrsShort⟩, same⟩

theorem inverts_entry : Inverts Entry.take Entry.put Entry.Fits where
  reads e fits :=
    (inverts_str.reads _ fits.id).bind
      (by simpa using (inverts_descriptor.reads _ fits.desc).map (Entry.mk e.id ·))
  only e rest left read := by
    obtain ⟨id, mid, idRead, more⟩ := bind_ok.mp read
    obtain ⟨desc, mid', descRead, finished⟩ := bind_ok.mp more
    obtain ⟨rfl, rfl⟩ := pure_ok.mp finished
    rw [Entry.put, List.append_assoc] at idRead
    -- The id was read back as itself, so the descriptor begins where it was written.
    obtain ⟨idShort, rfl⟩ := inverts_str.only _ _ _ idRead
    obtain ⟨fits, same⟩ := inverts_descriptor.only _ _ _ descRead
    exact ⟨⟨idShort, fits⟩, same⟩

/-- A whole body is accepted exactly when the reader takes all of it. -/
theorem wholeBody_ok {α : Type} {reader : Cursor α} {payload : Bytes} {value : α} :
    wholeBody reader payload = .ok value ↔ reader payload = .ok (value, []) := by
  unfold wholeBody
  cases read : reader payload with
  | error e => simp
  | ok pair =>
    obtain ⟨v, rest⟩ := pair
    -- Bytes that are left are refused as trailing.
    cases rest <;> simp [Cursor.finish]

/-- A body written by a writer its reader undoes is accepted as what was written when that fits. -/
theorem Inverts.wholeBody {α : Type} {reader : Cursor α} {write : α → Bytes} {fits : α → Prop}
    (inverts : Inverts reader write fits) {value : α} :
    Zapd.wholeBody reader (write value) = .ok value ↔ fits value := by
  rw [wholeBody_ok]
  constructor
  · -- Nothing follows what was written.
    intro read
    rw [← List.append_nil (write value)] at read
    exact (inverts.only _ _ _ read).1
  · intro fit
    simpa using inverts.reads value fit []

/-- A hello body is read back exactly when the descriptor fits. -/
theorem decodeHello_encodeHello {d : Descriptor} :
    decodeHello (encodeHello d) = .ok d ↔ d.Fits := Inverts.wholeBody inverts_descriptor

/-- A provider list is read back exactly when there are few enough entries and each of them fits. -/
theorem decodeProviders_encodeProviders {entries : List Entry} :
    decodeProviders (encodeProviders entries) = .ok entries ↔
      entries.length < 2 ^ 16 ∧ ∀ e ∈ entries, e.Fits :=
  Inverts.wholeBody (inverts_takeAll inverts_entry)

theorem local_u8 : Local Cursor.u8 := (local_take _ _).bind fun _ => local_pure _

theorem local_u16 : Local Cursor.u16 := (local_take _ _).bind fun _ => local_pure _

theorem local_str : Local Cursor.str :=
  local_u16.bind fun _ => (local_take _ _).bind fun _ => local_pure _

/-- A counted list is read locally when each item is. -/
theorem local_takeAll {α : Type} {item : Cursor α} (each : Local item) : Local (takeAll item) :=
  local_u16.bind fun count => local_times each count.toNat

theorem local_takeAttr : Local takeAttr :=
  local_str.bind fun _ => local_str.bind fun _ => local_pure _

theorem local_descriptor : Local Descriptor.take :=
  local_u8.bind fun _ => local_str.bind fun _ => (local_takeAll local_str).bind fun _ =>
    (local_takeAll local_takeAttr).bind fun _ => local_pure _

theorem local_entry : Local Entry.take :=
  local_str.bind fun _ => local_descriptor.bind fun _ => local_pure _

/-- A body is read as this value, and neither a proper prefix nor a proper extension is read. -/
structure ExactBody {α : Type} (decode : Bytes → Except Error α) (body : Bytes) (value : α) :
    Prop where
  whole : decode body = .ok value
  prefixes : ∀ front, front <+: body → front ≠ body → ∃ e, decode front = .error e
  extensions : ∀ more, more ≠ [] → ∃ e, decode (body ++ more) = .error e

/-- What is not accepted as any value is refused with an error. -/
theorem refused_of_not_ok {α : Type} {result : Except Error α} (never : ∀ v, result ≠ .ok v) :
    ∃ e, result = .error e := by
  cases result with
  | ok value => exact absurd rfl (never value)
  | error e => exact ⟨e, rfl⟩

/-- A body that a local reader takes whole is exact. -/
theorem exactBody_of_local {α : Type} {reader : Cursor α} (isLocal : Local reader) {body : Bytes}
    {value : α} (accepted : wholeBody reader body = .ok value) :
    ExactBody (wholeBody reader) body value where
  whole := accepted
  prefixes front isPrefix proper := by
    obtain ⟨more, rfl⟩ := isPrefix
    apply refused_of_not_ok
    intro other read
    -- Were the prefix read whole, nothing would be missing from it.
    have empty := isLocal.whole_prefix (wholeBody_ok.mp accepted) (wholeBody_ok.mp read)
    exact proper (by rw [empty, List.append_nil])
  extensions more extra := by
    apply refused_of_not_ok
    intro other read
    -- The body is read as before, and what extends it is left over.
    exact extra (isLocal.whole_prefix (wholeBody_ok.mp read) (wholeBody_ok.mp accepted))

/-- Bodies whose texts and counts fit are read back, and no part or extension of them is read. -/
theorem control_bodies_exact :
    (∀ d : Descriptor, d.Fits → ExactBody decodeHello (encodeHello d) d) ∧
    (∀ entries : List Entry, entries.length < 2 ^ 16 → (∀ e ∈ entries, e.Fits) →
      ExactBody decodeProviders (encodeProviders entries) entries) := by
  constructor
  · intro d fits
    exact exactBody_of_local local_descriptor (decodeHello_encodeHello.mpr fits)
  · intro entries few fit
    exact exactBody_of_local (local_takeAll local_entry)
      (decodeProviders_encodeProviders.mpr ⟨few, fit⟩)

/-- The body of a browser that names one cap and one attribute is exact. -/
theorem control_bodies_exact_browser :
    ExactBody decodeProviders
      (encodeProviders [⟨"browser/h/n1", ⟨1, "hanzo", ["navigate"], [("os", "linux")]⟩⟩])
      [⟨"browser/h/n1", ⟨1, "hanzo", ["navigate"], [("os", "linux")]⟩⟩] := by
  apply control_bodies_exact.2 _ (by decide)
  intro e member
  obtain rfl := List.mem_singleton.mp member
  exact ⟨by decide, by decide, by decide, by decide, by decide, by decide⟩

/-- The counts of a decoded descriptor fit, whatever the length of its texts. -/
theorem decodeHello_counts {payload : Bytes} {d : Descriptor}
    (decoded : decodeHello payload = .ok d) : d.caps.length < 2 ^ 16 ∧ d.attrs.length < 2 ^ 16 := by
  have read := wholeBody_ok.mp decoded
  simp only [Descriptor.take, takeAll, bind_ok, pure_ok] at read
  -- Both lists were read as many times as a 16-bit count said.
  obtain ⟨_, _, _, _, _, _, caps, _, ⟨capCount, _, _, capsRead⟩, attrs, _,
    ⟨attrCount, _, _, attrsRead⟩, rfl, _⟩ := read
  exact ⟨times_length capsRead ▸ capCount.toNat_lt, times_length attrsRead ▸ attrCount.toNat_lt⟩

/-- A short brand behind its length is the filter a list request asks for. -/
theorem decodeBrandFilter_putStr {brand : String} (short : Short brand) :
    decodeBrandFilter (putStr brand) = brand := by
  have read := inverts_str.reads brand short []
  rw [List.append_nil] at read
  unfold decodeBrandFilter
  -- A request with a length in it is not empty.
  rw [if_neg (by simp [putStr, le16, leBytes]), read]

/-- A presence body with a short id is read back as that id. -/
theorem str_encodePeer {id : String} (short : Short id) :
    Cursor.str (encodePeer id) = .ok (id, []) := by
  simpa [encodePeer] using inverts_str.reads id short []

/-- The bytes of a text behind its length. -/
def textSize (s : String) : Nat := 2 + (asBytes s).length

/-- The bytes of a descriptor. -/
def Descriptor.size (d : Descriptor) : Nat :=
  1 + textSize d.brand + (2 + (d.caps.map textSize).sum) +
    (2 + (d.attrs.map fun attr => textSize attr.1 + textSize attr.2).sum)

/-- The bytes of an entry in a provider list. -/
def Entry.size (e : Entry) : Nat := textSize e.id + e.desc.size

/-- Every text is written in full, whatever its length field can say. -/
@[simp] theorem putStr_length (s : String) : (putStr s).length = textSize s := by
  simp [putStr, textSize]

/-- Items are written one after the other behind their count. -/
theorem putAll_length {α : Type} {put : α → Bytes} {size : α → Nat}
    (each : ∀ item, (put item).length = size item) (items : List α) :
    (putAll put items).length = 2 + (items.map size).sum := by
  -- The items' own lengths add up behind the two bytes of the count.
  simp only [putAll, List.length_append, le16_length, List.length_flatMap, each]

theorem descriptor_length (d : Descriptor) : d.put.length = d.size := by
  have caps := putAll_length putStr_length d.caps
  have attr : ∀ attr, (putAttr attr).length = textSize attr.1 + textSize attr.2 := by
    simp [putAttr]
  -- Every attribute is two texts.
  have attrs := putAll_length attr d.attrs
  simp only [Descriptor.put, Descriptor.size, List.length_append, List.length_cons, List.length_nil,
    putStr_length, caps, attrs]

/-- A provider list is as long as its entries, whether or not they fit their fields. -/
theorem encodeProviders_length (entries : List Entry) :
    (encodeProviders entries).length = 2 + (entries.map Entry.size).sum :=
  putAll_length (fun e => by simp [Entry.put, Entry.size, descriptor_length]) entries

end Zapd
