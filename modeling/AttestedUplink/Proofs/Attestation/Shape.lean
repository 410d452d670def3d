import AttestedUplink.Attestation.Structure

/-!
# Well-formed documents

The checks on the shape of a document stop at the first thing that is wrong. What they ask for
altogether is stated here field by field.
-/

namespace AttestedUplink.Document

/-- What is asked of the fields of a document before its certificates are looked at. -/
structure WellFormed (document : Document) : Prop where
  moduleId : document.moduleId ≠ ""
  digest : document.digest = "SHA384"
  timestamp : document.timestamp ≠ 0
  measurements : document.measurements.entries ≠ []
  size_le : document.measurements.size ≤ 32
  registers : ∀ index value, (index, value) ∈ document.measurements.entries →
    index < 32 ∧ (value.length = 32 ∨ value.length = 48 ∨ value.length = 64)
  certificate : document.certificate ≠ []
  cabundle : document.cabundle ≠ []
  entries : ∀ der ∈ document.cabundle, der ≠ []
  publicKey : ∀ value, document.publicKey = some value → value.length ≤ 1024
  userData : ∀ value, document.userData = some value → value.length ≤ 1024
  nonce : ∀ value, document.nonce = some value → value.length ≤ 1024

theorem measurementDefect?_eq_none_iff (index : Nat) (value : Bytes) :
    measurementDefect? index value = none ↔
      index < 32 ∧ (value.length = 32 ∨ value.length = 48 ∨ value.length = 64) := by
  unfold measurementDefect?
  split
  · rename_i h
    simp only [reduceCtorEq, false_iff, not_and]
    intro hlt
    exact absurd hlt (Nat.not_lt.2 h)
  · rename_i h
    have hlt : index < 32 := Nat.not_le.1 h
    have hmem : value.length ∈ measurementLens ↔
        value.length = 32 ∨ value.length = 48 ∨ value.length = 64 := by simp [measurementLens]
    rw [← hmem]
    by_cases hlen : value.length ∈ measurementLens <;> simp [hlt, hlen]

theorem boundDefect?_eq_none_iff (name : String) (field : Option Bytes) :
    boundDefect? name field = none ↔ ∀ value, field = some value → value.length ≤ 1024 := by
  cases field with
  | none => simp [boundDefect?]
  | some value =>
    by_cases hlong : maxBoundLen < value.length
    · have hlen : ¬value.length ≤ 1024 := Nat.not_le.2 hlong
      simp [boundDefect?, hlong, hlen]
    · have hlen : value.length ≤ 1024 := Nat.not_lt.1 hlong
      simp [boundDefect?, hlong, hlen]

theorem ite_some_eq_none_iff {α : Type} {p : Prop} [Decidable p] {defect : α} {rest : Option α} :
    (if p then some defect else rest) = none ↔ ¬p ∧ rest = none := by
  by_cases hp : p <;> simp [hp]

/-- The checks find nothing exactly in documents that are well formed. -/
theorem defect?_eq_none_iff (document : Document) :
    document.defect? = none ↔ document.WellFormed := by
  simp only [defect?, ite_some_eq_none_iff, Option.or_eq_none_iff, List.findSome?_eq_none_iff,
    boundDefect?_eq_none_iff, measurementDefect?_eq_none_iff, Option.map_eq_none_iff,
    List.findIdx?_eq_none_iff, MeasurementSet.isEmpty, List.isEmpty_iff, not_or, Nat.not_lt,
    expectedDigest, registerCount, decide_eq_false_iff_not, ne_eq, Decidable.not_not]
  constructor
  · rintro ⟨hmodule, hdigest, htime, ⟨hsome, hsize⟩, hregisters, hcert, hbundle, hentries, hkey,
      hdata, hnonce⟩
    exact ⟨hmodule, hdigest, htime, hsome, hsize, fun index value h ↦ hregisters _ h, hcert,
      hbundle, hentries, hkey, hdata, hnonce⟩
  · intro h
    exact ⟨h.moduleId, h.digest, h.timestamp, ⟨h.measurements, h.size_le⟩,
      fun entry hentry ↦ h.registers _ _ hentry, h.certificate, h.cabundle, h.entries, h.publicKey,
      h.userData, h.nonce⟩

end AttestedUplink.Document
