import AttestedUplink.Proofs.Attestation.Precedence
import AttestedUplink.Proofs.Payload.Agreement
import AttestedUplink.Proofs.Payload.Spelling

/-!
# Which fields a payload gives

A payload that is read gives each of the nine fields at most once and none of the first six fewer
times than that. Together with the ways in which a document can be written this says what a payload
has to be.
-/

namespace AttestedUplink

open Cbor (Value)
open Checks

namespace Payload

/-- The octets by which a field goes. -/
def Field.key (field : Field) : Bytes := Bytes.ofText field.name

theorem field_eq_of_key_eq {field other : Field} (h : field.key = other.key) : field = other :=
  Option.some.inj ((ofName?_eq_some_iff.2 rfl).symm.trans (ofName?_eq_some_iff.2 h))

def Field.Mandatory (field : Field) : Prop :=
  field ∉ [Field.publicKey, Field.userData, Field.nonce]

variable {input rest rest' : Bytes} {levels levels' : Nat} {fields fields' : Fields}
  {entry : Value × Value} {entries : List (Value × Value)}

theorem has_readField {field : Field}
    (h : readField levels fields field input = some (fields', rest)) (other : Field) :
    fields'.has other = (decide (other = field) || fields.has other) := by
  cases field <;>
    · obtain ⟨found, -, heq⟩ := Option.map_eq_some_iff.1 h
      cases heq
      cases other <;> rfl

/-- What some entries do to the fields: a field is only there if it was or if an entry can be taken
for it, and no entry spells a field that is there already or that a later entry spells. -/
structure Taken (fields : Fields) (entries : List (Value × Value)) (fields' : Fields) : Prop where
  kept : ∀ field, fields.has field = true → fields'.has field = true
  grew : ∀ field, fields'.has field = true →
    fields.has field = true ∨ ∃ entry ∈ entries, entry.1.MayName field.key
  fresh : ∀ field, ∀ entry ∈ entries, entry.1.spelled? = some field.key → fields.has field = false
  once : entries.Pairwise fun earlier later ↦ ∀ field : Field,
    earlier.1.spelled? = some field.key → later.1.spelled? ≠ some field.key

theorem Taken.nil (fields : Fields) : Taken fields [] fields where
  kept := fun _ h ↦ h
  grew := fun _ h ↦ Or.inl h
  fresh := fun _ _ h ↦ absurd h List.not_mem_nil
  once := .nil

/-- An entry and the field that it sets, if it sets one. -/
structure Sets (fields : Fields) (key : Value) (fields' : Fields) : Prop where
  kept : ∀ field, fields.has field = true → fields'.has field = true
  grew : ∀ field, fields'.has field = true → fields.has field = true ∨ key.MayName field.key
  set : ∀ field, key.spelled? = some field.key →
    fields.has field = false ∧ fields'.has field = true

theorem Sets.refl {key : Value} (h : ∀ field : Field, key.spelled? ≠ some field.key) :
    Sets fields key fields where
  kept := fun _ h ↦ h
  grew := fun _ h ↦ Or.inl h
  set := fun field hfield ↦ absurd hfield (h field)

theorem Sets.of_has {field : Field} {key : Value} (hnew : fields.has field = false)
    (hhas : ∀ other, fields'.has other = (decide (other = field) || fields.has other))
    (hname : key.MayName field.key)
    (hspelled : ∀ spelled, key.spelled? = some spelled → spelled = field.key) :
    Sets fields key fields' where
  kept := by
    intro other hother
    rw [hhas, hother, Bool.or_true]
  grew := by
    intro other hother
    rw [hhas, Bool.or_eq_true, decide_eq_true_eq] at hother
    rcases hother with rfl | hother
    · exact Or.inr hname
    · exact Or.inl hother
  set := by
    intro other hother
    obtain rfl := field_eq_of_key_eq (hspelled _ hother)
    exact ⟨hnew, by rw [hhas, decide_eq_true rfl, Bool.true_or]⟩

theorem Taken.cons {between : Fields} (hfirst : Sets fields entry.1 between)
    (hrest : Taken between entries fields') : Taken fields (entry :: entries) fields' where
  kept := fun field h ↦ hrest.kept field (hfirst.kept field h)
  grew := by
    intro field h
    rcases hrest.grew field h with hbetween | ⟨later, hmem, hname⟩
    · rcases hfirst.grew field hbetween with hfields | hname
      · exact Or.inl hfields
      · exact Or.inr ⟨entry, List.mem_cons_self, hname⟩
    · exact Or.inr ⟨later, List.mem_cons_of_mem entry hmem, hname⟩
  fresh := by
    intro field later hmem hspelled
    rcases List.mem_cons.1 hmem with rfl | hmem
    · exact (hfirst.set field hspelled).1
    · by_contra hhas
      have hbetween := hfirst.kept field (Bool.not_eq_false _ ▸ hhas)
      rw [hrest.fresh field later hmem hspelled] at hbetween
      cases hbetween
  once := by
    refine List.pairwise_cons.2 ⟨fun later hmem field hspelled hlater ↦ ?_, hrest.once⟩
    have hbetween := (hfirst.set field hspelled).2
    rw [hrest.fresh field later hmem hlater] at hbetween
    cases hbetween

/-- Reading an entry takes what it is as a pair of values, and sets the field that its key names. -/
theorem readEntry_eq_ok (h : readEntry levels fields input = .ok (fields', rest'))
    (hpair : Cbor.readPair (Value.read levels') (Value.read levels') input = some (entry, rest)) :
    rest' = rest ∧ Sets fields entry.1 fields' := by
  obtain ⟨tail, hkey, hvalue⟩ := Cbor.readPair_eq_some_iff.1 hpair
  unfold readEntry at h
  split at h
  · cases h
  · rename_i name tail' hname
    obtain ⟨rfl, hmayName, hspelled⟩ := readKey_value hname hkey
    split at h
    · rename_i hother
      have hnone : ∀ field : Field, entry.1.spelled? ≠ some field.key := by
        intro field hfield
        rw [← hspelled _ hfield, Field.key, ofName?_eq_some_iff.2 rfl] at hother
        cases hother
      split at h
      · rename_i value tail'' hread
        cases h
        exact ⟨Value.agrees_read levels' levels hvalue hread, .refl hnone⟩
      · cases h
    · rename_i field hfield
      obtain rfl := ofName?_eq_some_iff.1 hfield
      split at h
      · cases h
      · rename_i hnew
        split at h
        · rename_i found hread
          cases h
          exact ⟨agrees_readField levels' levels fields field hvalue hread,
            .of_has (Bool.eq_false_iff.2 hnew) (has_readField hread) hmayName hspelled⟩
        · cases h

/-- An entry comes before what is read after it. -/
theorem exists_taken_cons {done : List (Value × Value)} {between : Fields}
    (hfirst : Sets fields entry.1 between)
    (h : ∃ read, entries = (entry :: done).reverse ++ read ∧ Taken between read fields') :
    ∃ read, entries = done.reverse ++ read ∧ Taken fields read fields' := by
  obtain ⟨read, hentries, htaken⟩ := h
  refine ⟨entry :: read, ?_, htaken.cons hfirst⟩
  rw [hentries, List.reverse_cons, List.append_assoc, List.singleton_append]

theorem readCounted_succ (levels count : Nat) (fields : Fields) (input : Bytes) :
    readCounted levels (count + 1) fields input =
      readEntry levels fields input >>= fun (fields, rest) ↦
        readCounted levels count fields rest := by
  rw [readCounted]
  cases readEntry levels fields input <;> rfl

/-- Entries of a closed number, from the reader of payloads and from the one of values. -/
theorem readCounted_eq_ok {count : Nat} {done : List (Value × Value)}
    (h : readCounted levels count fields input = .ok fields')
    (hread : Cbor.readCounted (Cbor.readPair (Value.read levels') (Value.read levels')) count done
      input = some (entries, rest)) :
    ∃ read, entries = done.reverse ++ read ∧ Taken fields read fields' := by
  induction count generalizing fields done input with
  | zero =>
    cases h
    cases hread
    exact ⟨[], (List.append_nil _).symm, .nil _⟩
  | succ count ih =>
    rw [readCounted_succ] at h
    rw [Cbor.readCounted_succ] at hread
    obtain ⟨⟨between, tail⟩, hentry, h⟩ := bind_eq_ok_iff.1 h
    obtain ⟨⟨entry, tail'⟩, hpair, hread⟩ := Option.bind_eq_some_iff.1 hread
    obtain ⟨rfl, hsets⟩ := readEntry_eq_ok hentry hpair
    exact exists_taken_cons hsets (ih h hread)

theorem readOpen_cons {b : UInt8} {bound : Bytes} (hbreak : input.head? ≠ some 0xFF) :
    readOpen levels (b :: bound) fields input =
      readEntry levels fields input >>= fun (fields, rest) ↦ readOpen levels bound fields rest := by
  have hopen : ∀ rest, input = 0xFF :: rest → False := by
    rintro rest rfl
    exact hbreak rfl
  rw [readOpen.eq_3 _ _ _ _ _ hopen]
  cases readEntry levels fields input <;> rfl

/-- Entries up to a break, likewise. -/
theorem readOpen_eq_ok {bound : Bytes} {done : List (Value × Value)}
    (h : readOpen levels bound fields input = .ok fields')
    (hread : Cbor.readOpen (Cbor.readPair (Value.read levels') (Value.read levels')) bound done
      input = some (entries, rest)) :
    ∃ read, entries = done.reverse ++ read ∧ Taken fields read fields' := by
  induction bound generalizing fields done input with
  | nil => cases h
  | cons b bound ih =>
    by_cases hbreak : input.head? = some 0xFF
    · obtain ⟨tail, rfl⟩ := List.head?_eq_some_iff.1 hbreak
      cases h
      cases hread
      exact ⟨[], (List.append_nil _).symm, .nil _⟩
    · rw [readOpen_cons hbreak] at h
      rw [Cbor.readOpen_cons hbreak] at hread
      obtain ⟨⟨between, tail⟩, hentry, h⟩ := bind_eq_ok_iff.1 h
      obtain ⟨⟨entry, tail'⟩, hpair, hread⟩ := Option.bind_eq_some_iff.1 hread
      obtain ⟨rfl, hsets⟩ := readEntry_eq_ok hentry hpair
      exact exists_taken_cons hsets (ih h hread)

theorem readEntries_eq_ok {len : Option Nat} (h : readEntries levels len input = .ok fields')
    (hread : Cbor.readMany (Cbor.readPair (Value.read levels') (Value.read levels')) len input =
      some (entries, rest)) : Taken {} entries fields' := by
  cases len with
  | some count =>
    obtain ⟨read, rfl, htaken⟩ := readCounted_eq_ok h hread
    exact htaken
  | none =>
    obtain ⟨read, rfl, htaken⟩ := readOpen_eq_ok h hread
    exact htaken

theorem require_eq_ok_iff {α : Type} {field : Field} {found : Option α} {value : α} :
    require field found = .ok value ↔ found = some value := by
  cases found <;> simp [require]

/-- No document comes of fields of which a mandatory one is missing. -/
theorem has_of_toDocument {document : Document} (h : fields.toDocument = .ok document)
    {field : Field} (hmandatory : field.Mandatory) : fields.has field = true := by
  simp only [Fields.toDocument, bind_eq_ok_iff, require_eq_ok_iff] at h
  obtain ⟨moduleId, hmoduleId, digest, hdigest, timestamp, htimestamp, measurements, hpcrs,
    certificate, hcertificate, cabundle, hcabundle, -⟩ := h
  cases field with
  | moduleId => exact Option.isSome_iff_exists.2 ⟨_, hmoduleId⟩
  | digest => exact Option.isSome_iff_exists.2 ⟨_, hdigest⟩
  | timestamp => exact Option.isSome_iff_exists.2 ⟨_, htimestamp⟩
  | pcrs => exact Option.isSome_iff_exists.2 ⟨_, hpcrs⟩
  | certificate => exact Option.isSome_iff_exists.2 ⟨_, hcertificate⟩
  | cabundle => exact Option.isSome_iff_exists.2 ⟨_, hcabundle⟩
  | publicKey | userData | nonce => exact absurd (by decide) hmandatory

/-- A payload that is decoded is a map, and what it holds is read of the entries of the map. -/
theorem taken_of_decode {document : Document} {value : Value} (h : decode input = .ok document)
    (hread : Value.decode input = some value) :
    ∃ entries fields, value.bare = .map entries ∧ Taken {} entries fields ∧
      fields.toDocument = .ok document := by
  obtain ⟨⟨_, rest⟩, hvalue, rfl⟩ := Option.map_eq_some_iff.1 hread
  unfold decode at h
  split at h
  · rename_i len body huntagged
    obtain ⟨fields, hfields, hdocument⟩ := bind_eq_ok_iff.1 h
    obtain ⟨octets, inner, levels, hhead, hinner, htaken⟩ := untagged_value huntagged hvalue
    obtain ⟨entries, levels, rfl, hentries⟩ := Value.readMany_of_read_map hhead hinner
    rcases htaken.bare with hbare | ⟨octets, hbytes⟩
    · exact ⟨entries, fields, hbare, readEntries_eq_ok hfields hentries, hdocument⟩
    · cases hbytes
  · cases h

variable {value : Value}

theorem decode_of_lacking (hread : Value.decode input = some value)
    (hmap : value.bare = .map entries) {field : Field} (hmandatory : field.Mandatory)
    (hlacks : ∀ entry ∈ entries, ¬entry.1.MayName field.key) :
    ∃ defect, decode input = .error defect := by
  refine exists_eq_error_iff.2 fun document hdecode ↦ ?_
  obtain ⟨entries', fields, hmap', htaken, hdocument⟩ := taken_of_decode hdecode hread
  obtain rfl := Value.map.inj (hmap.symm.trans hmap')
  have hhas := has_of_toDocument hdocument hmandatory
  rcases htaken.grew field hhas with hnone | ⟨entry, hmem, hname⟩
  · cases field <;> cases hnone
  · exact hlacks entry hmem hname

theorem decode_of_repeating (hread : Value.decode input = some value)
    {before between after : List (Value × Value)} {first second : Value × Value}
    (hmap : value.bare = .map (before ++ first :: (between ++ second :: after))) {field : Field}
    (hfirst : first.1.spelled? = some field.key) (hsecond : second.1.spelled? = some field.key) :
    ∃ defect, decode input = .error defect := by
  refine exists_eq_error_iff.2 fun document hdecode ↦ ?_
  obtain ⟨entries', fields, hmap', htaken, -⟩ := taken_of_decode hdecode hread
  obtain rfl := Value.map.inj (hmap.symm.trans hmap')
  have hlater := (List.pairwise_cons.1 (List.pairwise_append.1 htaken.once).2.1).1 second
    (List.mem_append_right between List.mem_cons_self)
  exact hlater field hfirst hsecond

/-- A message with a payload that cannot be decoded is malformed, whatever else is wrong with it. -/
theorem verify_of_decode_eq_error {message : Bytes} {envelope : Envelope} {defect : Defect}
    (henvelope : Envelope.decode message = .ok envelope)
    (h : decode envelope.payload = .error defect) : ∃ rejection : Rejection,
      rejection.toFault.kind = .malformedDocument ∧
        ∀ root now, Verifier.verify root message now = .error rejection := by
  have hillegible : ¬∃ reading, Verifier.Legible message reading := by
    rintro ⟨reading, hlegible⟩
    obtain rfl := Except.ok.inj (henvelope.symm.trans hlegible.envelope)
    cases h.symm.trans hlegible.payload
  obtain ⟨rejection, hread⟩ := Verifier.exists_read_eq_error hillegible
  exact ⟨rejection, Verifier.kind_of_read hread, Verifier.verify_of_read_eq_error hread⟩

/-- A well-formed document is read back from every map that gives its fields: in any order, with a
field that it lacks as null or not at all, with other entries between them and with anything behind.
A map that lacks a mandatory field, or has a field twice, is no payload. -/
theorem decode_fields :
    (∀ (document : Document) items trailing, document.WellFormed → Complete document items →
      (mapOf document items).Short →
        decode ((mapOf document items).write ++ trailing) = .ok document ∧
          document.defect? = none) ∧
    (∀ input value entries, Value.decode input = some value → value.bare = .map entries →
      (∃ field : Field, field.Mandatory ∧ ∀ entry ∈ entries, ¬entry.1.MayName field.key) ∨
        (∃ field : Field, ∃ before first between second after,
          entries = before ++ first :: (between ++ second :: after) ∧
            first.1.spelled? = some field.key ∧ second.1.spelled? = some field.key) →
      (∃ defect, decode input = .error defect) ∧
        ∀ message envelope, Envelope.decode message = .ok envelope → envelope.payload = input →
          ∃ rejection : Rejection, rejection.toFault.kind = .malformedDocument ∧
            ∀ root now, Verifier.verify root message now = .error rejection) := by
  refine ⟨?_, ?_⟩
  · intro document items trailing hdocument hcomplete hshort
    exact ⟨decode_mapOf hdocument hcomplete hshort trailing,
      (Document.defect?_eq_none_iff document).2 hdocument⟩
  · intro input value entries hread hmap hwrong
    have hdefect : ∃ defect, decode input = .error defect := by
      rcases hwrong with ⟨field, hmandatory, hlacks⟩ |
        ⟨field, before, first, between, second, after, rfl, hfirst, hsecond⟩
      · exact decode_of_lacking hread hmap hmandatory hlacks
      · exact decode_of_repeating hread hmap hfirst hsecond
    refine ⟨hdefect, ?_⟩
    rintro message envelope henvelope rfl
    obtain ⟨defect, hdecode⟩ := hdefect
    exact verify_of_decode_eq_error henvelope hdecode

/-- A document without a public key and a nonce, of which only the nonce is written. -/
def mixedItems : List Item :=
  [.field .nonce, .other "origin" (.array [.null, .integer (-1)]), .field .pcrs, .field .userData,
    .field .cabundle, .field .moduleId, .field .timestamp, .field .digest, .field .certificate]

def mixedDocument : Document where
  moduleId := "i-1"
  digest := "SHA384"
  timestamp := 1
  measurements := ⟨[(4, List.replicate 32 7)], List.pairwise_singleton ..⟩
  certificate := [0x30]
  cabundle := [[0x30]]
  publicKey := none
  userData := some []
  nonce := none

theorem other_mem_mixed {key : String} {value : Value} (h : Item.other key value ∈ mixedItems) :
    key = "origin" ∧ value = .array [.null, .integer (-1)] := by
  simpa [mixedItems] using h

theorem complete_mixed : Complete mixedDocument mixedItems where
  needed := by
    intro field h
    cases field with
    | publicKey | nonce => exact absurd rfl h
    | _ => simp [mixedItems]
  once := by decide
  key_ne := by
    intro key value h field
    obtain ⟨rfl, rfl⟩ := other_mem_mixed h
    cases field <;> decide
  length_key := by
    intro key value h
    obtain ⟨rfl, rfl⟩ := other_mem_mixed h
    rw [Bytes.ofText_eq_flatMap]
    decide
  plain := by
    intro key value h
    obtain ⟨rfl, rfl⟩ := other_mem_mixed h
    refine .array (List.forall_mem_cons.2 ⟨.null, List.forall_mem_singleton.2 ?_⟩)
    exact .integer (by decide) (by decide)

theorem wellFormed_mixed : mixedDocument.WellFormed :=
  (Document.defect?_eq_none_iff mixedDocument).1 (by decide +kernel)

/-- Entries that give the nonce twice, as null and as an empty string. -/
def twiceEntries : List (Value × Value) := [(.text "nonce", .null), (.text "nonce", .bytes [])]

theorem decode_twice : Value.decode (Value.map twiceEntries).write = some (.map twiceEntries) := by
  have hplain : (Value.map twiceEntries).Plain Cbor.maxNesting :=
    .map (List.forall_mem_cons.2 ⟨.text _, List.forall_mem_singleton.2 (.text _)⟩)
      (List.forall_mem_cons.2 ⟨.null, List.forall_mem_singleton.2 (.bytes _)⟩)
  have hshort : (Value.map twiceEntries).Short := by
    rw [Value.Short]
    decide +kernel
  have hread := hplain.read_write hshort []
  rw [List.append_nil] at hread
  rw [Value.decode, hread, Option.map_some]

/-- The mixed document is read back; the empty map and the nonce given twice are refused. -/
theorem decode_fields_mixed :
    decode ((mapOf mixedDocument mixedItems).write ++ [0xFF]) = .ok mixedDocument ∧
      (∃ defect, decode [0xA0] = .error defect) ∧
      ∃ defect, decode (Value.map twiceEntries).write = .error defect := by
  have hshort : (mapOf mixedDocument mixedItems).Short := by
    rw [Value.Short]
    decide +kernel
  have hmandatory : Field.moduleId.Mandatory := by
    rw [Field.Mandatory]
    decide
  refine ⟨?_, ?_, ?_⟩
  · exact (decode_fields.1 mixedDocument mixedItems [0xFF] wellFormed_mixed complete_mixed hshort).1
  · have hlacking := decode_fields.2 [0xA0] (.map []) [] rfl rfl
      (.inl ⟨.moduleId, hmandatory, fun _ h ↦ absurd h List.not_mem_nil⟩)
    exact hlacking.1
  · have hrepeating := decode_fields.2 _ _ twiceEntries decode_twice rfl
      (.inr ⟨.nonce, [], _, [], _, [], rfl, rfl, rfl⟩)
    exact hrepeating.1

end Payload

end AttestedUplink
