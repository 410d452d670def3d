import AttestedUplink.Attestation.Payload
import AttestedUplink.Proofs.Attestation.Shape
import AttestedUplink.Proofs.Cbor.Writing
import AttestedUplink.Proofs.Measurement.Comparison

/-!
# Ways to write a document

A document is written as a map of its fields by name. The fields may come in any order, a field
that the document lacks may be null or left out, and there may be entries of other names between
them. All of these are read as the same document.
-/

namespace AttestedUplink

open Cbor (Value)

/-- Octets that may be missing, as a value. -/
def Payload.optional : Option Bytes → Value
  | some octets => .bytes octets
  | none => .null

/-- A register with its value, as an entry of a map. -/
def Payload.register (entry : Nat × Bytes) : Value × Value := (.integer entry.1, .bytes entry.2)

/-- The value of a field of a document. -/
def Document.value (document : Document) : Payload.Field → Value
  | .moduleId => .text document.moduleId
  | .digest => .text document.digest
  | .timestamp => .integer document.timestamp.toNat
  | .pcrs => .map (document.measurements.entries.map Payload.register)
  | .certificate => .bytes document.certificate
  | .cabundle => .array (document.cabundle.map .bytes)
  | .publicKey => Payload.optional document.publicKey
  | .userData => Payload.optional document.userData
  | .nonce => Payload.optional document.nonce

/-- Whether a document is lost without a field. -/
def Document.Needs (document : Document) : Payload.Field → Prop
  | .publicKey => document.publicKey ≠ none
  | .userData => document.userData ≠ none
  | .nonce => document.nonce ≠ none
  | _ => True

/-- The fields of a document of which those of some names have been read. -/
def Document.fields (document : Document) (given : List Payload.Field) : Payload.Fields where
  moduleId := if .moduleId ∈ given then some document.moduleId else none
  digest := if .digest ∈ given then some document.digest else none
  timestamp := if .timestamp ∈ given then some document.timestamp else none
  pcrs := if .pcrs ∈ given then some document.measurements else none
  certificate := if .certificate ∈ given then some document.certificate else none
  cabundle := if .cabundle ∈ given then some document.cabundle else none
  publicKey := if .publicKey ∈ given then some document.publicKey else none
  userData := if .userData ∈ given then some document.userData else none
  nonce := if .nonce ∈ given then some document.nonce else none

namespace Payload

/-- What an entry of the map is for. -/
inductive Item
  | field (field : Field)
  | other (key : String) (value : Value)

def Item.field? : Item → Option Field
  | .field name => some name
  | .other .. => none

def Item.entry (document : Document) : Item → Value × Value
  | .field name => (.text name.name, document.value name)
  | .other key value => (.text key, value)

/-- The map that the items make. -/
def mapOf (document : Document) (items : List Item) : Value :=
  .map (items.map (Item.entry document))

/-- The items give every field that the document needs and no field twice. The other entries have
short names that are no names of fields, and plain values. -/
structure Complete (document : Document) (items : List Item) : Prop where
  needed : ∀ field, document.Needs field → Item.field field ∈ items
  once : (items.filterMap Item.field?).Nodup
  key_ne : ∀ key value, Item.other key value ∈ items → ∀ field : Field, key ≠ field.name
  length_key : ∀ key value, Item.other key value ∈ items → (Bytes.ofText key).length ≤ 256
  plain : ∀ key value, Item.other key value ∈ items → value.Plain (Cbor.maxNesting - 1)

/-! ### Single values -/

variable {input rest : Bytes} {levels : Nat}

theorem untagged_of_head {head : Cbor.Head} (h : Cbor.Head.read input = some (head, rest))
    (htag : ∀ number, head ≠ .tag number) : untagged input = some (head, rest) := by
  cases input with
  | nil => cases h
  | cons first input =>
    rw [untagged, untaggedFrom, h]
    cases head with
    | tag number => exact absurd rfl (htag number)
    | _ => rfl

theorem readText_write {content : String} (h : (Value.text content).Short) (rest : Bytes) :
    readText ((Value.text content).write ++ rest) = some (content, rest) := by
  rw [readText, untagged_of_head (Value.head_read_write_text h rest) nofun]
  simp only [Cbor.readText, Bytes.split?_append, Option.bind_some, Bytes.toText?_ofText,
    Option.map_some]

theorem readKey_write {key : String} (h : (Value.text key).Short)
    (hlen : (Bytes.ofText key).length ≤ maxKeyLen) (rest : Bytes) :
    readKey ((Value.text key).write ++ rest) = some (Bytes.ofText key, rest) := by
  rw [readKey, untagged_of_head (Value.head_read_write_text h rest) nofun]
  simp only [if_pos hlen, Bytes.split?_append, Option.filter_some, Bytes.toText?_ofText,
    Option.isSome_some, if_true]

theorem readUnsigned_of_head {n : Nat} (h : Cbor.Head.read input = some (.unsigned n, rest)) :
    readUnsigned input input = some (n, rest) := by
  cases input with
  | nil => cases h
  | cons first input => rw [readUnsigned, h]

theorem readBelow_write {n bound : Nat} (hbound : n < bound) (hcapacity : n < Bytes.capacity 8)
    (rest : Bytes) : readBelow bound ((Value.integer n).write ++ rest) = some (n, rest) := by
  rw [readBelow, readUnsigned_of_head (Value.head_read_write_natCast hcapacity rest),
    Option.filter_some, if_pos (decide_eq_true hbound)]

theorem readOctets_write {octets : Bytes} (h : (Value.bytes octets).Short) (rest : Bytes) :
    readOctets levels ((Value.bytes octets).write ++ rest) = some (octets, rest) := by
  rw [readOctets, untagged_of_head (Value.head_read_write_bytes h rest) nofun]
  exact Bytes.split?_append octets rest

theorem readOptional_write {octets : Option Bytes} (h : (optional octets).Short) (rest : Bytes) :
    readOptional levels ((optional octets).write ++ rest) = some (octets, rest) := by
  cases octets with
  | none => rfl
  | some octets =>
    have hhead := Value.head_read_write_bytes h rest
    simp only [readOptional, optional, hhead, readOctets_write h rest, Option.map_some]

theorem readOctetsList_write {list : List Bytes} (h : (Value.array (list.map .bytes)).Short)
    (rest : Bytes) :
    readOctetsList (levels + 1) ((Value.array (list.map .bytes)).write ++ rest) =
      some (list, rest) := by
  have hread : ∀ octets ∈ list, ∀ rest,
      readOctets levels ((Value.bytes octets).write ++ rest) = some (octets, rest) :=
    fun octets hoctets ↦ readOctets_write (h.of_mem_array (List.mem_map_of_mem hoctets))
  rw [readOctetsList, untagged_of_head (Value.head_read_write_array h rest) nofun]
  exact Cbor.readMany_flatMap_map hread rest

theorem readMeasurements_write {set : MeasurementSet}
    (h : (Value.map (set.entries.map register)).Short)
    (hindices : ∀ entry ∈ set.entries, entry.1 < Bytes.capacity 8) (rest : Bytes) :
    readMeasurements (levels + 1) ((Value.map (set.entries.map register)).write ++ rest) =
      some (set, rest) := by
  have hread : ∀ entry ∈ set.entries, ∀ rest,
      Cbor.readPair (readBelow (Bytes.capacity 8)) (readOctets levels)
        ((Value.writeEntry (register entry)) ++ rest) = some (entry, rest) := by
    intro entry hentry rest
    obtain ⟨-, hvalue⟩ := h.of_mem_map (List.mem_map_of_mem hentry)
    have hindex := readBelow_write (hindices entry hentry) (hindices entry hentry)
      ((Value.bytes entry.2).write ++ rest)
    rw [Value.writeEntry, List.append_assoc, Cbor.readPair]
    simp only [register, hindex, readOctets_write hvalue rest, Option.map_some]
  have hhead := untagged_of_head (Value.head_read_write_map h rest) fun _ htag ↦ by cases htag
  have hentries := Cbor.readMany_flatMap_map hread rest
  simp only [readMeasurements, hhead, Nat.add_one_ne_zero, if_false, Nat.add_sub_cancel, hentries,
    Option.map_some, MeasurementSet.ofList_entries]

/-! ### Fields -/

variable {document : Document} {given : List Field} {items : List Item}

theorem fields_nil (document : Document) : document.fields [] = {} := by
  simp [Document.fields]

theorem has_fields (document : Document) (given : List Field) (field : Field) :
    (document.fields given).has field = decide (field ∈ given) := by
  cases field <;> exact apply_ite Option.isSome _ _ _

theorem readField_write {field : Field} (h : (document.value field).Short)
    (hindices : ∀ entry ∈ document.measurements.entries, entry.1 < Bytes.capacity 8)
    (rest : Bytes) :
    readField (levels + 1) (document.fields given) field ((document.value field).write ++ rest) =
      some (document.fields (field :: given), rest) := by
  cases field with
  | moduleId | digest => simp [readField, Document.value, Document.fields, readText_write h rest]
  | timestamp =>
    have htime : document.timestamp.toNat < Bytes.capacity 8 := document.timestamp.toNat_lt
    simp [readField, Document.value, Document.fields, readBelow_write htime htime rest]
  | pcrs =>
    simp [readField, Document.value, Document.fields, readMeasurements_write h hindices rest]
  | certificate => simp [readField, Document.value, Document.fields, readOctets_write h rest]
  | cabundle => simp [readField, Document.value, Document.fields, readOctetsList_write h rest]
  | publicKey | userData | nonce =>
    simp [readField, Document.value, Document.fields, readOptional_write h rest]

theorem toDocument_fields (hneeded : ∀ field, document.Needs field → field ∈ given) :
    (document.fields given).toDocument = .ok document := by
  have hjoin {field : Field} {octets : Option Bytes} (h : octets ≠ none → field ∈ given) :
      (if field ∈ given then some octets else none).join = octets := by
    by_cases hgiven : field ∈ given
    · rw [if_pos hgiven]
      rfl
    · rw [if_neg hgiven]
      exact (Decidable.not_imp_comm.1 h hgiven).symm
  have hpublicKey := hjoin (hneeded .publicKey)
  have huserData := hjoin (hneeded .userData)
  have hnonce := hjoin (hneeded .nonce)
  simp only [Fields.toDocument, Document.fields, if_pos (hneeded .moduleId trivial),
    if_pos (hneeded .digest trivial), if_pos (hneeded .timestamp trivial),
    if_pos (hneeded .pcrs trivial), if_pos (hneeded .certificate trivial),
    if_pos (hneeded .cabundle trivial), hpublicKey, huserData, hnonce]
  rfl

/-! ### Entries -/

theorem length_name_le (field : Field) : (Bytes.ofText field.name).length ≤ maxKeyLen := by
  rw [Bytes.ofText_eq_flatMap]
  cases field <;> decide

theorem ofName?_eq_some_iff {name : Bytes} {field : Field} :
    Field.ofName? name = some field ↔ name = Bytes.ofText field.name := by
  constructor
  · intro h
    unfold Field.ofName? at h
    have hfound := List.find?_some h
    exact (of_decide_eq_true hfound).symm
  · rintro rfl
    have hname (other : Field) : Bytes.ofText other.name = Bytes.ofText field.name ↔
        other.name = field.name := Bytes.ofText_injective.eq_iff
    simp only [Field.ofName?, hname]
    cases field <;> decide

theorem ofName?_eq_none {key : String} (h : ∀ field : Field, key ≠ field.name) :
    Field.ofName? (Bytes.ofText key) = none := by
  cases hname : Field.ofName? (Bytes.ofText key) with
  | none => rfl
  | some field => exact absurd (Bytes.ofText_injective (ofName?_eq_some_iff.1 hname)) (h field)

theorem readEntry_field {field : Field} (hkey : (Value.text field.name).Short)
    (hvalue : (document.value field).Short) (hnew : field ∉ given)
    (hindices : ∀ entry ∈ document.measurements.entries, entry.1 < Bytes.capacity 8)
    (rest : Bytes) :
    readEntry (levels + 1) (document.fields given)
        (Value.writeEntry (Item.entry document (.field field)) ++ rest) =
      .ok (document.fields (field :: given), rest) := by
  have hread := readKey_write hkey (length_name_le field) ((document.value field).write ++ rest)
  have hhas : (document.fields given).has field = false := by
    rw [has_fields, decide_eq_false hnew]
  rw [Item.entry, Value.writeEntry, List.append_assoc, readEntry, hread]
  simp only [ofName?_eq_some_iff.2 rfl, hhas, Bool.false_eq_true, if_false,
    readField_write hvalue hindices rest]

theorem readEntry_other (document : Document) (fields : Fields) {key : String} {value : Value}
    (hkey : (Value.text key).Short) (hvalue : value.Short) (hplain : value.Plain levels)
    (hlen : (Bytes.ofText key).length ≤ 256) (hne : ∀ field : Field, key ≠ field.name)
    (rest : Bytes) :
    readEntry levels fields (Value.writeEntry (Item.entry document (.other key value)) ++ rest) =
      .ok (fields, rest) := by
  have hmax : (Bytes.ofText key).length ≤ maxKeyLen := Nat.le_trans hlen (by decide)
  have hread := readKey_write hkey hmax (value.write ++ rest)
  rw [Item.entry, Value.writeEntry, List.append_assoc, readEntry, hread]
  simp only [ofName?_eq_none hne, hplain.read_write hvalue rest]

/-- Entries are read one after the other on top of the fields that were read before. -/
theorem readCounted_items (hshort : ∀ item ∈ items,
      (item.entry document).1.Short ∧ (item.entry document).2.Short)
    (hindices : ∀ entry ∈ document.measurements.entries, entry.1 < Bytes.capacity 8)
    (hother : ∀ key value, Item.other key value ∈ items → (Bytes.ofText key).length ≤ 256 ∧
      (∀ field : Field, key ≠ field.name) ∧ value.Plain (levels + 1))
    (honce : (items.filterMap Item.field?).Nodup)
    (hnew : ∀ field ∈ items.filterMap Item.field?, field ∉ given) (rest : Bytes) :
    ∃ given', (∀ field, field ∈ given' ↔ field ∈ items.filterMap Item.field? ∨ field ∈ given) ∧
      readCounted (levels + 1) items.length (document.fields given)
        ((items.map (Item.entry document)).flatMap Value.writeEntry ++ rest) =
          .ok (document.fields given') := by
  induction items generalizing given with
  | nil => exact ⟨given, by simp, rfl⟩
  | cons item items ih =>
    obtain ⟨hfirst, hrest⟩ := List.forall_mem_cons.1 hshort
    have hother' := fun key value h ↦ hother key value (List.mem_cons_of_mem item h)
    rw [List.map_cons, List.flatMap_cons, List.append_assoc, List.length_cons, readCounted]
    cases item with
    | field field =>
      obtain ⟨hfresh, honce'⟩ := List.nodup_cons.1 honce
      obtain ⟨hunread, hnew'⟩ := List.forall_mem_cons.1 hnew
      have hnotGiven : ∀ other ∈ items.filterMap Item.field?, other ∉ field :: given := by
        intro other hmem hcons
        rcases List.mem_cons.1 hcons with rfl | hgiven
        · exact hfresh hmem
        · exact hnew' other hmem hgiven
      obtain ⟨given', hmem, hread⟩ := ih hrest hother' honce' hnotGiven
      refine ⟨given', fun other ↦ ?_, ?_⟩
      · rw [hmem, List.mem_cons]
        simp only [List.filterMap_cons, Item.field?, List.mem_cons]
        tauto
      · simp only [readEntry_field hfirst.1 hfirst.2 hunread hindices, hread]
    | other key value =>
      obtain ⟨hlen, hne, hplain⟩ := hother key value List.mem_cons_self
      obtain ⟨given', hmem, hread⟩ := ih hrest hother' honce hnew
      obtain ⟨hkey, hvalue⟩ : (Value.text key).Short ∧ value.Short := hfirst
      have hentry := readEntry_other document (document.fields given) hkey hvalue hplain hlen hne
      refine ⟨given', hmem, ?_⟩
      simp only [hentry, hread]

/-- A document is read from any way in which its fields are written as a map. -/
theorem decode_mapOf (hdocument : document.WellFormed) (hcomplete : Complete document items)
    (hshort : (mapOf document items).Short) (trailing : Bytes) :
    decode ((mapOf document items).write ++ trailing) = .ok document := by
  have hindices : ∀ entry ∈ document.measurements.entries, entry.1 < Bytes.capacity 8 := by
    intro entry hentry
    have hregister := (hdocument.registers _ _ hentry).1
    exact Nat.lt_trans hregister (by decide)
  have hparts : ∀ item ∈ items, (item.entry document).1.Short ∧ (item.entry document).2.Short :=
    fun item hitem ↦ hshort.of_mem_map (List.mem_map_of_mem hitem)
  have hother : ∀ key value, Item.other key value ∈ items → (Bytes.ofText key).length ≤ 256 ∧
      (∀ field : Field, key ≠ field.name) ∧ value.Plain (Cbor.maxNesting - 1) :=
    fun key value hmem ↦ ⟨hcomplete.length_key key value hmem, hcomplete.key_ne key value hmem,
      hcomplete.plain key value hmem⟩
  obtain ⟨given, hgiven, hread⟩ := readCounted_items hparts hindices hother hcomplete.once
    (fun _ _ ↦ List.not_mem_nil) trailing
  have hneeded : ∀ field, document.Needs field → field ∈ given := by
    intro field hneeds
    have hitem := hcomplete.needed field hneeds
    exact (hgiven field).2 (Or.inl (List.mem_filterMap.2 ⟨_, hitem, rfl⟩))
  have hhead : untagged ((mapOf document items).write ++ trailing) = some (.map (some items.length),
      (items.map (Item.entry document)).flatMap Value.writeEntry ++ trailing) := by
    have hmap := Value.head_read_write_map hshort trailing
    rw [List.length_map] at hmap
    exact untagged_of_head hmap nofun
  have hfields : readEntries (Cbor.maxNesting - 1) (some items.length)
      ((items.map (Item.entry document)).flatMap Value.writeEntry ++ trailing) =
        .ok (document.fields given) := by
    rw [readEntries, ← fields_nil document]
    exact hread
  rw [decode, hhead]
  simp only [hfields]
  exact toDocument_fields hneeded

end Payload

end AttestedUplink
