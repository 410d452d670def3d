import AttestedUplink.Attestation.Payload
import AttestedUplink.Proofs.Cbor.Prefix
import AttestedUplink.Proofs.Text.Utf8

/-!
# Payloads as values

A payload is read by readers of its own, which want a field to be of a certain type. Where such a
reader and the general one for values both succeed, they take the same octets, so that the keys of
the payload as a value are the keys that the reader of payloads has seen.
-/

namespace AttestedUplink

open Cbor (Value)

/-! ### Readers that take the same octets -/

namespace Cbor

variable {α β γ δ : Type} {input rest rest' : Bytes}

/-- Where both readers take an item, they leave the same behind. -/
def Agrees (read : Bytes → Option (α × Bytes)) (typed : Bytes → Option (β × Bytes)) : Prop :=
  ∀ ⦃input : Bytes⦄ ⦃item : α⦄ ⦃value : β⦄ ⦃rest rest' : Bytes⦄,
    read input = some (item, rest) → typed input = some (value, rest') → rest' = rest

variable {read : Bytes → Option (α × Bytes)} {typed : Bytes → Option (β × Bytes)}

/-- What becomes of the item that was taken does not matter. -/
theorem Agrees.map {f : β × Bytes → γ × Bytes} (h : Agrees read typed)
    (hf : ∀ found, (f found).2 = found.2) : Agrees read fun input ↦ (typed input).map f := by
  intro input item value rest rest' hread htyped
  obtain ⟨⟨inner, tail⟩, hinner, heq⟩ := Option.map_eq_some_iff.1 htyped
  obtain rfl := h hread hinner
  have htail := hf (inner, tail)
  rw [heq] at htail
  exact htail

theorem Agrees.readCounted (h : Agrees read typed) {count : Nat} {done items : List α}
    {done' values : List β} (hread : readCounted read count done input = some (items, rest))
    (htyped : Cbor.readCounted typed count done' input = some (values, rest')) : rest' = rest := by
  induction count generalizing done done' input with
  | zero =>
    cases hread
    cases htyped
    rfl
  | succ count ih =>
    rw [readCounted_succ] at hread htyped
    obtain ⟨⟨item, tail⟩, hitem, hread⟩ := Option.bind_eq_some_iff.1 hread
    obtain ⟨⟨value, tail'⟩, hvalue, htyped⟩ := Option.bind_eq_some_iff.1 htyped
    obtain rfl := h hitem hvalue
    exact ih hread htyped

theorem Agrees.readOpen (h : Agrees read typed) {bound : Bytes} {done items : List α}
    {done' values : List β} (hread : readOpen read bound done input = some (items, rest))
    (htyped : Cbor.readOpen typed bound done' input = some (values, rest')) : rest' = rest := by
  induction bound generalizing done done' input with
  | nil => cases hread
  | cons b bound ih =>
    by_cases hbreak : input.head? = some 0xFF
    · obtain ⟨tail, rfl⟩ := List.head?_eq_some_iff.1 hbreak
      cases hread
      cases htyped
      rfl
    · rw [readOpen_cons hbreak] at hread htyped
      obtain ⟨⟨item, tail⟩, hitem, hread⟩ := Option.bind_eq_some_iff.1 hread
      obtain ⟨⟨value, tail'⟩, hvalue, htyped⟩ := Option.bind_eq_some_iff.1 htyped
      obtain rfl := h hitem hvalue
      exact ih hread htyped

theorem Agrees.readMany (h : Agrees read typed) (len : Option Nat) :
    Agrees (readMany read len) (Cbor.readMany typed len) := by
  intro input items values rest rest' hread htyped
  cases len with
  | some count => exact h.readCounted hread htyped
  | none => exact h.readOpen hread htyped

theorem readPair_eq_some_iff {first : Bytes → Option (α × Bytes)}
    {second : Bytes → Option (β × Bytes)} {pair : α × β} :
    readPair first second input = some (pair, rest) ↔
      ∃ tail, first input = some (pair.1, tail) ∧ second tail = some (pair.2, rest) := by
  obtain ⟨a, b⟩ := pair
  unfold readPair
  cases first input with
  | none => simp
  | some found =>
    obtain ⟨a', tail⟩ := found
    simp only [Option.map_eq_some_iff, Prod.exists, Prod.mk.injEq, Option.some.injEq]
    constructor
    · rintro ⟨b', tail', hsecond, ⟨rfl, rfl⟩, rfl⟩
      exact ⟨tail, ⟨rfl, rfl⟩, hsecond⟩
    · rintro ⟨_, ⟨rfl, rfl⟩, hsecond⟩
      exact ⟨b, rest, hsecond, ⟨rfl, rfl⟩, rfl⟩

theorem Agrees.readPair {second : Bytes → Option (γ × Bytes)}
    {typedSecond : Bytes → Option (δ × Bytes)} (hfirst : Agrees read typed)
    (hsecond : Agrees second typedSecond) :
    Agrees (readPair read second) (Cbor.readPair typed typedSecond) := by
  intro input pair values rest rest' hread htyped
  obtain ⟨tail, hitem, hread⟩ := readPair_eq_some_iff.1 hread
  obtain ⟨tail', hvalue, htyped⟩ := readPair_eq_some_iff.1 htyped
  obtain rfl := hfirst hitem hvalue
  exact hsecond hread htyped

/-! ### What a key can be taken for -/

/-- The octets of a text or of a byte string, whatever its tags. -/
def Value.spelled? : Value → Option Bytes
  | .text content => some (Bytes.ofText content)
  | .bytes octets => some octets
  | .tag _ value => value.spelled?
  | _ => none

/-- A number, whatever its tags. -/
def Value.number? : Value → Option Int
  | .integer n => some n
  | .tag _ value => value.number?
  | _ => none

/-- A value without its tags. -/
def Value.bare : Value → Value
  | .tag _ value => value.bare
  | value => value

/-- Whether a key can be taken for a name. A number can have been written as a byte string, which is
the only way in which a key that does not spell the name can be taken for it. -/
def Value.MayName (name : Bytes) (key : Value) : Prop :=
  key.spelled? = some name ∨ key.number? = some (Bytes.toNat name : Int) ∨
    key.number? = some (-1 - (Bytes.toNat name : Int))

/-- A value is taken for what is inside its tags: it spells nothing else, and it is the same value
without tags unless a byte string was read as a number. -/
structure Value.TakenFor (value inner : Value) : Prop where
  spelled : ∀ name, value.spelled? = some name → inner.spelled? = some name
  mayName : ∀ name, inner.MayName name → value.MayName name
  bare : value.bare = inner.bare ∨ ∃ octets, inner.bare = .bytes octets

theorem Value.TakenFor.refl (value : Value) : value.TakenFor value :=
  ⟨fun _ h ↦ h, fun _ h ↦ h, Or.inl rfl⟩

theorem Value.TakenFor.trans {value inner innermost : Value} (h : value.TakenFor inner)
    (h' : inner.TakenFor innermost) : value.TakenFor innermost where
  spelled := fun name hname ↦ h'.spelled name (h.spelled name hname)
  mayName := fun name hname ↦ h.mayName name (h'.mayName name hname)
  bare := by
    rcases h'.bare with hbare' | hbytes
    · rw [← hbare']
      exact h.bare
    · exact Or.inr hbytes

theorem Value.takenFor_tag (number : Nat) (value : Value) :
    (Value.tag number value).TakenFor value :=
  ⟨fun _ h ↦ h, fun _ h ↦ h, Or.inl rfl⟩

theorem bignum_eq_some {number : Nat} {octets : Bytes} {value : Value}
    (h : bignum number octets = some value) : value = .integer (Bytes.toNat octets) ∨
      value = .integer (-1 - Bytes.toNat octets) ∨ value = .tag number (.bytes octets) := by
  simp only [bignum] at h
  split at h
  · cases h
    split <;> simp
  · split at h
    · cases h
      split <;> simp
    · cases h

theorem Value.takenFor_bignum {number : Nat} {octets : Bytes} {value : Value}
    (h : bignum number octets = some value) : value.TakenFor (.bytes octets) := by
  have hinner (name : Bytes) (hname : (Value.bytes octets).MayName name) : octets = name := by
    rcases hname with hname | hname | hname
    · exact Option.some.inj hname
    · cases hname
    · cases hname
  rcases bignum_eq_some h with rfl | rfl | rfl
  · refine ⟨nofun, fun name hname ↦ ?_, Or.inr ⟨octets, rfl⟩⟩
    obtain rfl := hinner name hname
    exact Or.inr (Or.inl rfl)
  · refine ⟨nofun, fun name hname ↦ ?_, Or.inr ⟨octets, rfl⟩⟩
    obtain rfl := hinner name hname
    exact Or.inr (Or.inr rfl)
  · exact takenFor_tag number _

variable {levels : Nat} {value : Value}

/-- Behind a tag there is a value, also where the tag and what follows are read as a number. -/
theorem Value.read_behind_tag {number : Nat} (h : Head.read input = some (.tag number, rest))
    (hread : Value.read levels input = some (value, rest')) : ∃ inner levels',
      Value.read levels' rest = some (inner, rest') ∧ value.TakenFor inner := by
  cases hbignum : bignumHead? number rest with
  | some found =>
    obtain ⟨len, body⟩ := found
    rw [read_bignum h hbignum] at hread
    obtain ⟨⟨octets, tail⟩, hsplit, hnumber⟩ := Option.bind_eq_some_iff.1 hread
    obtain ⟨value', hvalue, heq⟩ := Option.map_eq_some_iff.1 hnumber
    cases heq
    have hhead : Head.read rest = some (.bytes (some len), body) := by
      unfold bignumHead? at hbignum
      split at hbignum
      · split at hbignum
        · rename_i hbytes
          split at hbignum
          · cases hbignum
            exact hbytes
          · cases hbignum
        · cases hbignum
      · cases hbignum
    refine ⟨.bytes octets, levels, ?_, takenFor_bignum hvalue⟩
    rw [read_bytes hhead, readBytes, hsplit, Option.map_some]
  | none =>
    cases levels with
    | zero =>
      rw [read_zero h (Or.inr (Or.inr ⟨number, rfl, hbignum⟩))] at hread
      cases hread
    | succ levels =>
      rw [read_tag h hbignum] at hread
      obtain ⟨⟨inner, tail⟩, hinner, heq⟩ := Option.map_eq_some_iff.1 hread
      cases heq
      exact ⟨inner, levels, hinner, takenFor_tag number inner⟩

/-- How many levels may be open does not matter to what is taken. -/
theorem Value.agrees_read (levels levels' : Nat) :
    Agrees (Value.read levels) (Value.read levels') := by
  intro input value value' rest rest' hread hread'
  have hwide := read_append (Nat.le_max_left levels levels') hread []
  rw [read_append (Nat.le_max_right levels levels') hread' []] at hwide
  simp only [List.append_nil, Option.some.injEq, Prod.mk.injEq] at hwide
  exact hwide.2

theorem Value.readBytes_of_read {len : Option Nat} (h : Head.read input = some (.bytes len, rest))
    (hread : Value.read levels input = some (value, rest')) : ∃ octets,
      value = .bytes octets ∧ readBytes len rest = some (octets, rest') := by
  rw [read_bytes h] at hread
  obtain ⟨⟨octets, tail⟩, hoctets, heq⟩ := Option.map_eq_some_iff.1 hread
  cases heq
  exact ⟨octets, rfl, hoctets⟩

theorem Value.readText_of_read {len : Option Nat} (h : Head.read input = some (.text len, rest))
    (hread : Value.read levels input = some (value, rest')) : ∃ content,
      value = .text content ∧ readText len rest = some (content, rest') := by
  rw [read_text h] at hread
  obtain ⟨⟨content, tail⟩, hcontent, heq⟩ := Option.map_eq_some_iff.1 hread
  cases heq
  exact ⟨content, rfl, hcontent⟩

theorem Value.readMany_of_read_array {len : Option Nat}
    (h : Head.read input = some (.array len, rest))
    (hread : Value.read levels input = some (value, rest')) : ∃ items levels',
      readMany (Value.read levels') len rest = some (items, rest') := by
  cases levels with
  | zero =>
    rw [read_zero h (Or.inl ⟨len, rfl⟩)] at hread
    cases hread
  | succ levels =>
    rw [read_array h] at hread
    obtain ⟨⟨items, tail⟩, hitems, heq⟩ := Option.map_eq_some_iff.1 hread
    cases heq
    exact ⟨items, levels, hitems⟩

theorem Value.readMany_of_read_map {len : Option Nat}
    (h : Head.read input = some (.map len, rest))
    (hread : Value.read levels input = some (value, rest')) : ∃ entries levels',
      value = .map entries ∧
        readMany (readPair (Value.read levels') (Value.read levels')) len rest =
          some (entries, rest') := by
  cases levels with
  | zero =>
    rw [read_zero h (Or.inr (Or.inl ⟨len, rfl⟩))] at hread
    cases hread
  | succ levels =>
    rw [read_map h] at hread
    obtain ⟨⟨entries, tail⟩, hentries, heq⟩ := Option.map_eq_some_iff.1 hread
    cases heq
    exact ⟨entries, levels, rfl, hentries⟩

end Cbor

namespace Payload

variable {input rest rest' : Bytes} {levels : Nat} {value : Value}

/-- Where the tags end, an item starts with the head that is seen there. -/
theorem untaggedFrom_value {bound body : Bytes} {head : Cbor.Head}
    (h : untaggedFrom bound input = some (head, body))
    (hread : Value.read levels input = some (value, rest)) : ∃ octets inner levels',
      Cbor.Head.read octets = some (head, body) ∧
        Value.read levels' octets = some (inner, rest) ∧ value.TakenFor inner := by
  induction bound generalizing input levels value with
  | nil => cases h
  | cons b bound ih =>
    rw [untaggedFrom] at h
    split at h
    · rename_i number tail hhead
      obtain ⟨behind, levels', hbehind, htaken⟩ := Value.read_behind_tag hhead hread
      obtain ⟨octets, inner, levels', hoctets, hinner, htaken'⟩ := ih h hbehind
      exact ⟨octets, inner, levels', hoctets, hinner, htaken.trans htaken'⟩
    · exact ⟨input, value, levels, h, hread, .refl value⟩

theorem untagged_value {head : Cbor.Head} {body : Bytes} (h : untagged input = some (head, body))
    (hread : Value.read levels input = some (value, rest)) : ∃ octets inner levels',
      Cbor.Head.read octets = some (head, body) ∧
        Value.read levels' octets = some (inner, rest) ∧ value.TakenFor inner :=
  untaggedFrom_value h hread

/-! ### Typed readers -/

open Cbor (Agrees)

theorem agrees_readText (levels : Nat) : Agrees (Value.read levels) readText := by
  intro input value content rest rest' hread htyped
  unfold readText at htyped
  split at htyped
  · rename_i len body huntagged
    obtain ⟨octets, inner, levels', hhead, hinner, -⟩ := untagged_value huntagged hread
    obtain ⟨content', -, hcontent⟩ := Value.readText_of_read hhead hinner
    rw [hcontent] at htyped
    cases htyped
    rfl
  · cases htyped

theorem agrees_readBignum (levels : Nat) : Agrees (Value.read levels) readBignum := by
  intro input value n rest rest' hread htyped
  unfold readBignum at htyped
  split at htyped
  · rename_i len body hhead
    obtain ⟨octets, -, hoctets⟩ := Value.readBytes_of_read hhead hread
    simp only [hoctets] at htyped
    split at htyped
    · cases htyped
      rfl
    · cases htyped
  · cases htyped

/-- The induction is on the tags before the number. -/
theorem readUnsigned_value {bound : Bytes} {n : Nat}
    (htyped : readUnsigned bound input = some (n, rest'))
    (hread : Value.read levels input = some (value, rest)) : rest' = rest := by
  induction bound generalizing input levels value with
  | nil => cases htyped
  | cons b bound ih =>
    rw [readUnsigned] at htyped
    split at htyped
    · rename_i n' tail hhead
      rw [Value.read_unsigned hhead] at hread
      cases htyped
      cases hread
      rfl
    · rename_i number tail hhead
      obtain ⟨inner, levels', hinner, -⟩ := Value.read_behind_tag hhead hread
      split at htyped
      · exact agrees_readBignum levels' hinner htyped
      · split at htyped
        · cases htyped
        · exact ih htyped hinner
    · cases htyped

theorem agrees_readBelow (levels bound : Nat) : Agrees (Value.read levels) (readBelow bound) := by
  intro input value n rest rest' hread htyped
  obtain ⟨htyped, -⟩ := Option.filter_eq_some_iff.1 htyped
  exact readUnsigned_value htyped hread

theorem agrees_readOctets (levels levels' : Nat) :
    Agrees (Value.read levels) (readOctets levels') := by
  intro input value octets rest rest' hread htyped
  unfold readOctets at htyped
  split at htyped
  · rename_i len body huntagged
    obtain ⟨_, inner, levels', hhead, hinner, -⟩ := untagged_value huntagged hread
    obtain ⟨content, -, hcontent⟩ := Value.readBytes_of_read hhead hinner
    rw [hcontent] at htyped
    cases htyped
    rfl
  · rename_i len body huntagged
    obtain ⟨_, inner, levels', hhead, hinner, -⟩ := untagged_value huntagged hread
    obtain ⟨items, levels', hitems⟩ := Value.readMany_of_read_array hhead hinner
    split at htyped
    · cases htyped
    · refine ((agrees_readBelow levels' 256).readMany len).map ?_ hitems htyped
      exact fun _ ↦ rfl
  · cases htyped

theorem agrees_readOptional (levels levels' : Nat) :
    Agrees (Value.read levels) (readOptional levels') := by
  intro input value octets rest rest' hread htyped
  unfold readOptional at htyped
  split at htyped
  · rename_i tail hhead
    rw [Value.read_simple hhead] at hread
    cases htyped
    cases hread
    rfl
  · rename_i tail hhead
    rw [Value.read_simple hhead] at hread
    cases htyped
    cases hread
    rfl
  · refine (agrees_readOctets levels levels').map ?_ hread htyped
    exact fun _ ↦ rfl

theorem agrees_readOctetsList (levels levels' : Nat) :
    Agrees (Value.read levels) (readOctetsList levels') := by
  intro input value list rest rest' hread htyped
  unfold readOctetsList at htyped
  split at htyped
  · rename_i len body huntagged
    obtain ⟨_, inner, _, hhead, hinner, -⟩ := untagged_value huntagged hread
    obtain ⟨items, inside, hitems⟩ := Value.readMany_of_read_array hhead hinner
    split at htyped
    · cases htyped
    · exact (agrees_readOctets inside (levels' - 1)).readMany len hitems htyped
  · rename_i len body huntagged
    obtain ⟨_, inner, _, hhead, hinner, -⟩ := untagged_value huntagged hread
    obtain ⟨octets, -, hoctets⟩ := Value.readBytes_of_read hhead hinner
    rw [hoctets] at htyped
    split at htyped
    · rename_i tail heq
      cases heq
      cases htyped
      rfl
    · cases htyped
  · cases htyped

theorem agrees_readMeasurements (levels levels' : Nat) :
    Agrees (Value.read levels) (readMeasurements levels') := by
  intro input value set rest rest' hread htyped
  unfold readMeasurements at htyped
  split at htyped
  · rename_i len body huntagged
    obtain ⟨_, inner, _, hhead, hinner, -⟩ := untagged_value huntagged hread
    obtain ⟨entries, inside, -, hentries⟩ := Value.readMany_of_read_map hhead hinner
    split at htyped
    · cases htyped
    · have hpair := (agrees_readBelow inside (Bytes.capacity 8)).readPair
        (agrees_readOctets inside (levels' - 1))
      refine (hpair.readMany len).map ?_ hentries htyped
      exact fun _ ↦ rfl
  · cases htyped

theorem agrees_readField (levels levels' : Nat) (fields : Fields) (field : Field) :
    Agrees (Value.read levels) (readField levels' fields field) := by
  cases field with
  | moduleId | digest => exact (agrees_readText levels).map fun _ ↦ rfl
  | timestamp => exact (agrees_readBelow levels (Bytes.capacity 8)).map fun _ ↦ rfl
  | pcrs => exact (agrees_readMeasurements levels levels').map fun _ ↦ rfl
  | certificate => exact (agrees_readOctets levels levels').map fun _ ↦ rfl
  | cabundle => exact (agrees_readOctetsList levels levels').map fun _ ↦ rfl
  | publicKey | userData | nonce => exact (agrees_readOptional levels levels').map fun _ ↦ rfl

/-- A key that is read is one that the value can be taken for. -/
theorem readKey_value {name : Bytes} (htyped : readKey input = some (name, rest'))
    (hread : Value.read levels input = some (value, rest)) :
    rest' = rest ∧ value.MayName name ∧
      ∀ spelled, value.spelled? = some spelled → spelled = name := by
  have hkey {inner : Value} (hinner : inner.spelled? = some name) (htaken : value.TakenFor inner) :
      value.MayName name ∧ ∀ spelled, value.spelled? = some spelled → spelled = name := by
    refine ⟨htaken.mayName name (Or.inl hinner), fun spelled hspelled ↦ ?_⟩
    have hsame := htaken.spelled spelled hspelled
    rw [hinner] at hsame
    exact (Option.some.inj hsame).symm
  unfold readKey at htyped
  split at htyped
  · rename_i len body huntagged
    obtain ⟨_, inner, _, hhead, hinner, htaken⟩ := untagged_value huntagged hread
    obtain ⟨octets, rfl, hoctets⟩ := Value.readBytes_of_read hhead hinner
    split at htyped
    · rw [Cbor.readBytes, htyped] at hoctets
      cases hoctets
      exact ⟨rfl, hkey rfl htaken⟩
    · cases htyped
  · rename_i len body huntagged
    obtain ⟨_, inner, _, hhead, hinner, htaken⟩ := untagged_value huntagged hread
    obtain ⟨content, rfl, hcontent⟩ := Value.readText_of_read hhead hinner
    split at htyped
    · obtain ⟨hsplit, -⟩ := Option.filter_eq_some_iff.1 htyped
      simp only [Cbor.readText, hsplit, Option.bind_some, Option.map_eq_some_iff, Prod.mk.injEq]
        at hcontent
      obtain ⟨content', hutf8, rfl, rfl⟩ := hcontent
      obtain rfl := Bytes.toText?_eq_some_iff.1 hutf8
      exact ⟨rfl, hkey rfl htaken⟩
    · cases htyped
  · cases htyped

end Payload

end AttestedUplink
