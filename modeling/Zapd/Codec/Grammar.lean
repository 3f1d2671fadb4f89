import Zapd.Base.Grammar
import Zapd.Codec.ControlLaws

/-! The control bodies' grammar: which bytes are accepted, and which are written as they were. -/

namespace Zapd

open Utf8 Parse

/-- A text's bytes behind their length, whether or not they are UTF-8. -/
def textBytes (text : Bytes) : Bytes := le16 text.length.toUInt16 ++ text

/-- The bytes of each item, behind the count of the items. -/
def allBytes {ρ : Type} (bytes : ρ → Bytes) (raws : List ρ) : Bytes :=
  le16 raws.length.toUInt16 ++ raws.flatMap bytes

/-- Few enough items for their count, each of which fits. -/
def AllFit {ρ : Type} (fits : ρ → Prop) (raws : List ρ) : Prop :=
  raws.length < 2 ^ 16 ∧ ∀ raw ∈ raws, fits raw

/-- A key and its value, as bytes. -/
abbrev RawAttr := Bytes × Bytes

def RawAttr.bytes (raw : RawAttr) : Bytes := textBytes raw.1 ++ textBytes raw.2

def RawAttr.value (raw : RawAttr) : String × String := (fromUtf8Lossy raw.1, fromUtf8Lossy raw.2)

/-- A text that is within its length. -/
def TextFits (text : Bytes) : Prop := text.length < 2 ^ 16

def RawAttr.Fits (raw : RawAttr) : Prop := TextFits raw.1 ∧ TextFits raw.2

def RawAttr.Textual (raw : RawAttr) : Prop := Valid raw.1 ∧ Valid raw.2

/-- A descriptor as the grammar has it: its texts are bytes. -/
structure RawDescriptor where
  role : UInt8
  brand : Bytes
  caps : List Bytes
  attrs : List RawAttr

namespace RawDescriptor

/-- The fields in their order on the wire. -/
def bytes (raw : RawDescriptor) : Bytes :=
  [raw.role] ++ textBytes raw.brand ++ allBytes textBytes raw.caps ++
    allBytes RawAttr.bytes raw.attrs

/-- What the fields are read as. -/
def value (raw : RawDescriptor) : Descriptor :=
  { role := raw.role, brand := fromUtf8Lossy raw.brand, caps := raw.caps.map fromUtf8Lossy
    attrs := raw.attrs.map RawAttr.value }

/-- Every text and every count is within its field. -/
structure Fits (raw : RawDescriptor) : Prop where
  brand : TextFits raw.brand
  caps : AllFit TextFits raw.caps
  attrs : AllFit RawAttr.Fits raw.attrs

/-- Every text is UTF-8. -/
structure Textual (raw : RawDescriptor) : Prop where
  brand : Valid raw.brand
  caps : ∀ cap ∈ raw.caps, Valid cap
  attrs : ∀ attr ∈ raw.attrs, RawAttr.Textual attr

end RawDescriptor

/-- An entry of a provider list as the grammar has it. -/
structure RawEntry where
  id : Bytes
  desc : RawDescriptor

namespace RawEntry

def bytes (raw : RawEntry) : Bytes := textBytes raw.id ++ raw.desc.bytes

def value (raw : RawEntry) : Entry := { id := fromUtf8Lossy raw.id, desc := raw.desc.value }

structure Fits (raw : RawEntry) : Prop where
  id : TextFits raw.id
  desc : raw.desc.Fits

structure Textual (raw : RawEntry) : Prop where
  id : Valid raw.id
  desc : raw.desc.Textual

end RawEntry

/-- A text is accepted exactly as its length and so many bytes. -/
theorem spells_str : Spells Cursor.str textBytes fromUtf8Lossy TextFits := by
  intro input text rest
  rw [str_ok]
  simp only [textBytes, TextFits, List.append_assoc]

theorem unambiguous_text : Unambiguous textBytes TextFits := by
  intro raw raw' rest rest' fits fits' same
  rw [textBytes, textBytes, List.append_assoc, List.append_assoc] at same
  obtain ⟨lengths, behind⟩ := List.append_inj same (by simp)
  -- Each text is as long as its length says.
  have length := congrArg UInt16.toNat (le16_inj.mp lengths)
  rw [toNat_toUInt16 fits, toNat_toUInt16 fits'] at length
  exact List.append_inj behind length

theorem restores_text : Restores putStr textBytes fromUtf8Lossy Valid where
  grows raw := by
    have grows := lossy_length_ge raw
    simp only [putStr, textBytes, List.length_append, le16_length]
    omega
  same raw := by
    rw [← asBytes_fromUtf8Lossy, putStr, textBytes]
    constructor
    · intro same
      exact (List.append_inj same (by simp)).2
    · intro same
      rw [same]

section

variable {α ρ : Type} {item : Cursor α} {put : α → Bytes} {bytes : ρ → Bytes} {value : ρ → α}
  {fits sound : ρ → Prop}

/-- Items are accepted exactly as their count and so many of them. -/
theorem spells_takeAll (each : Spells item bytes value fits) :
    Spells (takeAll item) (allBytes bytes) (List.map value) (AllFit fits) := by
  intro input values rest
  simp only [takeAll, bind_ok, each.times, Cursor.u16_ok]
  constructor
  · rintro ⟨count, _, rfl, raws, length, fit, rfl, rfl⟩
    refine ⟨raws, ⟨length ▸ count.toNat_lt, fit⟩, ?_, rfl⟩
    rw [allBytes, eq_toUInt16 length, List.append_assoc]
  · rintro ⟨raws, ⟨few, fit⟩, rfl, rfl⟩
    refine ⟨raws.length.toUInt16, raws.flatMap bytes ++ rest, ?_, raws,
      (toNat_toUInt16 few).symm, fit, rfl, rfl⟩
    rw [allBytes, List.append_assoc]

theorem unambiguous_all (each : Unambiguous bytes fits) :
    Unambiguous (allBytes bytes) (AllFit fits) := by
  intro raws raws' rest rest' fit fit' same
  rw [allBytes, allBytes, List.append_assoc, List.append_assoc] at same
  obtain ⟨counts, behind⟩ := List.append_inj same (by simp)
  -- There are as many items as the count says.
  have length := congrArg UInt16.toNat (le16_inj.mp counts)
  rw [toNat_toUInt16 fit.1, toNat_toUInt16 fit'.1] at length
  exact each.flatMap fit.2 fit'.2 length behind

theorem restores_all (each : Restores put bytes value sound) :
    Restores (putAll put) (allBytes bytes) (List.map value)
      (fun raws => ∀ raw ∈ raws, sound raw) where
  grows raws := by
    have grows := each.flatMap.grows raws
    simp only [putAll, allBytes, List.length_append, le16_length]
    omega
  same raws := by
    rw [← each.flatMap.same, putAll, allBytes, List.length_map]
    constructor
    · intro same
      exact (List.append_inj same (by simp)).2
    · intro same
      rw [same]

end

/-- A key is accepted, and then its value. -/
theorem spells_attr : Spells takeAttr RawAttr.bytes RawAttr.value RawAttr.Fits := by
  intro input attr rest
  simp only [takeAttr, bind_ok, pure_ok]
  constructor
  · rintro ⟨_, _, keyRead, _, _, valueRead, rfl, rfl⟩
    obtain ⟨key, keyFits, rfl, rfl⟩ := (spells_str _ _ _).mp keyRead
    obtain ⟨value, valueFits, rfl, rfl⟩ := (spells_str _ _ _).mp valueRead
    exact ⟨(key, value), ⟨keyFits, valueFits⟩, by simp [RawAttr.bytes], rfl⟩
  · rintro ⟨raw, fits, rfl, rfl⟩
    exact ⟨_, textBytes raw.2 ++ rest,
      (spells_str _ _ _).mpr ⟨raw.1, fits.1, by simp [RawAttr.bytes], rfl⟩, _, rest,
      (spells_str _ _ _).mpr ⟨raw.2, fits.2, rfl, rfl⟩, rfl, rfl⟩

theorem unambiguous_attr : Unambiguous RawAttr.bytes RawAttr.Fits := by
  intro raw raw' rest rest' fits fits' same
  rw [RawAttr.bytes, RawAttr.bytes, List.append_assoc, List.append_assoc] at same
  obtain ⟨key, behind⟩ := unambiguous_text _ _ _ _ fits.1 fits'.1 same
  obtain ⟨value, end_⟩ := unambiguous_text _ _ _ _ fits.2 fits'.2 behind
  exact ⟨Prod.ext key value, end_⟩

theorem restores_attr : Restores putAttr RawAttr.bytes RawAttr.value RawAttr.Textual where
  grows raw := by
    have key := restores_text.grows raw.1
    have value := restores_text.grows raw.2
    simp only [putAttr, RawAttr.bytes, RawAttr.value, List.length_append]
    omega
  same raw := by
    show putStr (fromUtf8Lossy raw.1) ++ putStr (fromUtf8Lossy raw.2) = _ ↔ _
    rw [RawAttr.bytes, append_restored (restores_text.grows raw.1) (restores_text.grows raw.2)]
    exact and_congr (restores_text.same raw.1) (restores_text.same raw.2)

/-- A descriptor is accepted field by field. -/
theorem spells_descriptor :
    Spells Descriptor.take RawDescriptor.bytes RawDescriptor.value RawDescriptor.Fits := by
  intro input d rest
  simp only [Descriptor.take, bind_ok, pure_ok, Cursor.u8_ok]
  constructor
  · rintro ⟨role, _, rfl, _, _, brandRead, _, _, capsRead, _, _, attrsRead, rfl, rfl⟩
    obtain ⟨brand, brandFits, rfl, rfl⟩ := (spells_str _ _ _).mp brandRead
    obtain ⟨caps, capsFit, rfl, rfl⟩ := (spells_takeAll spells_str _ _ _).mp capsRead
    obtain ⟨attrs, attrsFit, rfl, rfl⟩ := (spells_takeAll spells_attr _ _ _).mp attrsRead
    exact ⟨⟨role, brand, caps, attrs⟩, ⟨brandFits, capsFit, attrsFit⟩,
      by simp [RawDescriptor.bytes], rfl⟩
  · rintro ⟨raw, fits, rfl, rfl⟩
    refine ⟨raw.role, textBytes raw.brand ++ (allBytes textBytes raw.caps ++
        (allBytes RawAttr.bytes raw.attrs ++ rest)), by simp [RawDescriptor.bytes],
      _, _, (spells_str _ _ _).mpr ⟨raw.brand, fits.brand, rfl, rfl⟩,
      _, _, (spells_takeAll spells_str _ _ _).mpr ⟨raw.caps, fits.caps, rfl, rfl⟩,
      _, _, (spells_takeAll spells_attr _ _ _).mpr ⟨raw.attrs, fits.attrs, rfl, rfl⟩, rfl, rfl⟩

theorem unambiguous_descriptor : Unambiguous RawDescriptor.bytes RawDescriptor.Fits := by
  intro raw raw' rest rest' fits fits' same
  simp only [RawDescriptor.bytes, List.append_assoc, List.cons_append, List.nil_append,
    List.cons.injEq] at same
  obtain ⟨role, same⟩ := same
  -- Each field is told, and so the next begins at the same place.
  obtain ⟨brand, behind⟩ := unambiguous_text _ _ _ _ fits.brand fits'.brand same
  obtain ⟨caps, behind⟩ := unambiguous_all unambiguous_text _ _ _ _ fits.caps fits'.caps behind
  obtain ⟨attrs, behind⟩ := unambiguous_all unambiguous_attr _ _ _ _ fits.attrs fits'.attrs behind
  have whole : raw = raw' := by
    cases raw
    cases raw'
    simp_all
  exact ⟨whole, behind⟩

theorem restores_descriptor : Restores Descriptor.put RawDescriptor.bytes RawDescriptor.value
    RawDescriptor.Textual := by
  have caps := restores_all restores_text
  have attrs := restores_all restores_attr
  have grows : ∀ raw : RawDescriptor, raw.bytes.length ≤ raw.value.put.length := by
    intro raw
    have brandGrows := restores_text.grows raw.brand
    have capsGrow := caps.grows raw.caps
    have attrsGrow := attrs.grows raw.attrs
    simp only [Descriptor.put, RawDescriptor.bytes, RawDescriptor.value, List.length_append]
    omega
  refine ⟨grows, fun raw => ?_⟩
  simp only [Descriptor.put, RawDescriptor.bytes, RawDescriptor.value, List.append_assoc]
  rw [List.append_cancel_left_eq, append_restored (restores_text.grows raw.brand) ?_,
    append_restored (caps.grows raw.caps) (attrs.grows raw.attrs), restores_text.same, caps.same,
    attrs.same]
  · constructor
    · intro textual
      exact ⟨textual.1, textual.2.1, textual.2.2⟩
    · intro textual
      exact ⟨textual.brand, textual.caps, textual.attrs⟩
  · have capsGrow := caps.grows raw.caps
    have attrsGrow := attrs.grows raw.attrs
    simp only [List.length_append]
    omega

theorem spells_entry : Spells Entry.take RawEntry.bytes RawEntry.value RawEntry.Fits := by
  intro input e rest
  simp only [Entry.take, bind_ok, pure_ok]
  constructor
  · rintro ⟨_, _, idRead, _, _, descRead, rfl, rfl⟩
    obtain ⟨id, idFits, rfl, rfl⟩ := (spells_str _ _ _).mp idRead
    obtain ⟨desc, descFits, rfl, rfl⟩ := (spells_descriptor _ _ _).mp descRead
    exact ⟨⟨id, desc⟩, ⟨idFits, descFits⟩, by simp [RawEntry.bytes], rfl⟩
  · rintro ⟨raw, fits, rfl, rfl⟩
    exact ⟨_, raw.desc.bytes ++ rest,
      (spells_str _ _ _).mpr ⟨raw.id, fits.id, by simp [RawEntry.bytes], rfl⟩, _, rest,
      (spells_descriptor _ _ _).mpr ⟨raw.desc, fits.desc, rfl, rfl⟩, rfl, rfl⟩

theorem unambiguous_entry : Unambiguous RawEntry.bytes RawEntry.Fits := by
  intro raw raw' rest rest' fits fits' same
  rw [RawEntry.bytes, RawEntry.bytes, List.append_assoc, List.append_assoc] at same
  obtain ⟨id, behind⟩ := unambiguous_text _ _ _ _ fits.id fits'.id same
  obtain ⟨desc, end_⟩ := unambiguous_descriptor _ _ _ _ fits.desc fits'.desc behind
  have whole : raw = raw' := by
    cases raw
    cases raw'
    simp_all
  exact ⟨whole, end_⟩

theorem restores_entry : Restores Entry.put RawEntry.bytes RawEntry.value RawEntry.Textual where
  grows raw := by
    have id := restores_text.grows raw.id
    have desc := restores_descriptor.grows raw.desc
    simp only [Entry.put, RawEntry.bytes, RawEntry.value, List.length_append]
    omega
  same raw := by
    show putStr (fromUtf8Lossy raw.id) ++ raw.desc.value.put = _ ↔ _
    rw [RawEntry.bytes,
      append_restored (restores_text.grows raw.id) (restores_descriptor.grows raw.desc)]
    constructor
    · rintro ⟨id, desc⟩
      exact ⟨(restores_text.same _).mp id, (restores_descriptor.same _).mp desc⟩
    · intro textual
      exact ⟨(restores_text.same _).mpr textual.id, (restores_descriptor.same _).mpr textual.desc⟩

section

variable {α ρ : Type} {put : α → Bytes} {bytes : ρ → Bytes} {value : ρ → α}

/-- A text is written in at most three times its bytes, with the length it has. -/
theorem stretches_text : Stretches 3 putStr textBytes fromUtf8Lossy := by
  intro raw
  have bound := lossy_length_le raw
  simp only [putStr, textBytes, List.length_append, le16_length]
  omega

theorem stretches_all (each : Stretches 3 put bytes value) :
    Stretches 3 (putAll put) (allBytes bytes) (List.map value) := by
  intro raws
  have bound : ((raws.map value).flatMap put).length ≤ 3 * (raws.flatMap bytes).length :=
    each.flatMap raws
  simp only [putAll, allBytes, List.length_append, le16_length]
  omega

theorem stretches_attr : Stretches 3 putAttr RawAttr.bytes RawAttr.value := by
  intro raw
  have key := stretches_text raw.1
  have value := stretches_text raw.2
  simp only [putAttr, RawAttr.bytes, RawAttr.value, List.length_append]
  omega

/-- A descriptor is written in at most three times the bytes it was read from. -/
theorem stretches_descriptor :
    Stretches 3 Descriptor.put RawDescriptor.bytes RawDescriptor.value := by
  intro raw
  have brand := stretches_text raw.brand
  have caps := stretches_all stretches_text raw.caps
  have attrs := stretches_all stretches_attr raw.attrs
  simp only [Descriptor.put, RawDescriptor.bytes, RawDescriptor.value, List.length_append,
    List.length_singleton]
  omega

end

/-- A whole body is accepted exactly as one spelling. -/
theorem wholeBody_spells {α ρ : Type} {reader : Cursor α} {bytes : ρ → Bytes} {value : ρ → α}
    {fits : ρ → Prop} (spells : Spells reader bytes value fits) (told : Unambiguous bytes fits)
    {payload : Bytes} {v : α} : wholeBody reader payload = .ok v ↔
      ∃! raw, fits raw ∧ bytes raw = payload ∧ value raw = v := by
  rw [wholeBody_ok, spells]
  constructor
  · rintro ⟨raw, fit, rfl, rfl⟩
    refine ⟨raw, ⟨fit, (List.append_nil _).symm, rfl⟩, fun other ⟨fit', same, _⟩ => ?_⟩
    exact (told other raw [] [] fit' fit (by rw [same, List.append_nil])).1
  · rintro ⟨raw, ⟨fit, rfl, rfl⟩, _⟩
    exact ⟨raw, fit, (List.append_nil _).symm, rfl⟩

/-- The decoders of control bodies accept exactly the grammar, each body in one way, with its texts
decoded lossily; and a body is written again as it was exactly where all its texts are UTF-8. -/
theorem control_bodies_spelled :
    (∀ payload d, decodeHello payload = .ok d ↔
      ∃! raw : RawDescriptor, raw.Fits ∧ raw.bytes = payload ∧ raw.value = d) ∧
    (∀ payload entries, decodeProviders payload = .ok entries ↔
      ∃! raws : List RawEntry, AllFit RawEntry.Fits raws ∧
        allBytes RawEntry.bytes raws = payload ∧ raws.map RawEntry.value = entries) ∧
    (∀ raw : RawDescriptor, encodeHello raw.value = raw.bytes ↔ raw.Textual) ∧
    (∀ raws : List RawEntry, encodeProviders (raws.map RawEntry.value) =
      allBytes RawEntry.bytes raws ↔ ∀ raw ∈ raws, raw.Textual) := by
  refine ⟨fun payload d => ?_, fun payload entries => ?_, restores_descriptor.same,
    (restores_all restores_entry).same⟩
  · exact wholeBody_spells spells_descriptor unambiguous_descriptor
  · exact wholeBody_spells (spells_takeAll spells_entry) (unambiguous_all unambiguous_entry)

/-- A brand that is no UTF-8 is read as another one, and so is not written as it was. -/
example : decodeHello [1, 1, 0, 0xFF, 0, 0, 0, 0] = .ok ⟨1, "\uFFFD", [], []⟩ ∧
    encodeHello ⟨1, "\uFFFD", [], []⟩ = [1, 3, 0, 0xEF, 0xBF, 0xBD, 0, 0, 0, 0] := by decide

end Zapd
