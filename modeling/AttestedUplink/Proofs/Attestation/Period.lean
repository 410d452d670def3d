import AttestedUplink.Proofs.Attestation.Precedence
import Mathlib.Data.Int.Order.Basic
import Mathlib.Data.Set.Basic
import Mathlib.Order.MinMax

/-!
# The period in which a document is accepted

Of the moment of verification only the whole second counts, and it is compared with nothing but the
windows of the certificates. What is refused inside all of these windows is therefore never
accepted, and what is accepted once is accepted in the whole period that the windows have in common.
-/

namespace AttestedUplink

open Checks

/-- The last moment that begins a whole second. -/
def Instant.wholeSecond (now : Instant) : Instant := .of (now.nanos / nanosPerSecond) 0

theorem Instant.seconds?_wholeSecond (now : Instant) : now.wholeSecond.seconds? = now.seconds? := by
  ext seconds
  rw [seconds?_eq_some_iff, seconds?_eq_some_iff]
  simp only [wholeSecond, of, nanosPerSecond]
  omega

namespace Verifier

/-- The first second since the epoch that no window begins after. -/
def Reading.opens (reading : Reading) : Int :=
  (reading.certificates.map Certificate.notBefore).foldr max 0

/-- The last second that no window ends before. -/
def Reading.closes (reading : Reading) : Int :=
  (reading.bundle.map Certificate.notAfter).foldr min reading.signing.notAfter

/-- The whole seconds since the epoch at which a document is accepted. -/
def acceptedSeconds (root : Fingerprint) (input : Bytes) : Set Nat :=
  {seconds | ∃ document, verify root input (.of seconds 0) = .ok document}

variable {root : Fingerprint} {input : Bytes} {now : Instant} {reading : Reading}
  {document : Document}

/-! ### The common period -/

theorem foldr_max_le_iff {bounds : List Int} {least second : Int} :
    bounds.foldr max least ≤ second ↔ least ≤ second ∧ ∀ bound ∈ bounds, bound ≤ second := by
  induction bounds with
  | nil => simp
  | cons bound bounds ih =>
    rw [List.foldr_cons, max_le_iff, ih, List.forall_mem_cons, and_left_comm]

theorem le_foldr_min_iff {bounds : List Int} {greatest second : Int} :
    second ≤ bounds.foldr min greatest ↔
      second ≤ greatest ∧ ∀ bound ∈ bounds, second ≤ bound := by
  induction bounds with
  | nil => simp
  | cons bound bounds ih =>
    rw [List.foldr_cons, le_min_iff, ih, List.forall_mem_cons, and_left_comm]

theorem Reading.opens_le_iff {second : Int} :
    reading.opens ≤ second ↔
      0 ≤ second ∧ ∀ certificate ∈ reading.certificates, certificate.notBefore ≤ second := by
  rw [opens, foldr_max_le_iff, List.forall_mem_map]

theorem Reading.le_closes_iff {second : Int} :
    second ≤ reading.closes ↔
      ∀ certificate ∈ reading.certificates, second ≤ certificate.notAfter := by
  rw [closes, le_foldr_min_iff, List.forall_mem_map, certificates, List.forall_mem_append,
    List.forall_mem_singleton, and_comm]

theorem valid_iff :
    (0 ≤ now.nanos ∧ ∀ certificate ∈ reading.certificates, certificate.ValidAt now) ↔
    reading.opens ≤ now.nanos / 1000000000 ∧ now.nanos / 1000000000 ≤ reading.closes := by
  have hepoch : 0 ≤ now.nanos ↔ 0 ≤ now.nanos / 1000000000 := by omega
  simp only [Reading.opens_le_iff, Reading.le_closes_iff, Certificate.ValidAt, hepoch, and_assoc]
  simp only [forall_and]

/-! ### Moments -/

theorem judge_of_seconds?_eq {other : Instant} (h : now.seconds? = other.seconds?) :
    judge root now reading = judge root other reading := by
  rw [judge, judge, h]

/-- What was read is accepted inside the common period if it is to be trusted at all. -/
theorem judge_eq_ok_iff : judge root now reading = .ok document ↔
    (reading.opens ≤ now.nanos / 1000000000 ∧ now.nanos / 1000000000 ≤ reading.closes) ∧
      trust root reading = .ok document := by
  rw [← valid_iff]
  constructor
  · intro h
    cases hseconds : now.seconds? with
    | none =>
      rw [judge, hseconds] at h
      cases h
    | some seconds =>
      obtain ⟨hepoch, -⟩ := Instant.seconds?_eq_some_iff.1 hseconds
      simp only [judge, hseconds] at h
      split at h
      · cases h
      · rename_i hwindows
        exact ⟨⟨hepoch, (checkWindows_eq_ok_iff_validAt hseconds).1 hwindows⟩, h⟩
  · rintro ⟨⟨hepoch, hvalid⟩, htrust⟩
    rwa [judge_of_valid hepoch hvalid]

theorem verify_eq_ok_iff_trust : verify root input now = .ok document ↔ ∃ reading,
    Legible input reading ∧
      (reading.opens ≤ now.nanos / 1000000000 ∧ now.nanos / 1000000000 ≤ reading.closes) ∧
        trust root reading = .ok document := by
  rw [verify_eq_read_bind, bind_eq_ok_iff]
  simp only [read_eq_ok_iff, judge_eq_ok_iff]

theorem Legible.unique {other : Reading} (h : Legible input reading)
    (hother : Legible input other) : reading = other :=
  Except.ok.inj ((read_eq_ok_iff.2 h).symm.trans (read_eq_ok_iff.2 hother))

theorem mem_acceptedSeconds_iff {seconds : Nat} : seconds ∈ acceptedSeconds root input ↔
    ∃ reading, Legible input reading ∧ (reading.opens ≤ seconds ∧ seconds ≤ reading.closes) ∧
      ∃ document, trust root reading = .ok document := by
  have hsecond : (Instant.of seconds 0).nanos / 1000000000 = seconds := by
    simp [Instant.of, Instant.nanosPerSecond]
  simp only [acceptedSeconds, Set.mem_ofPred_eq, verify_eq_ok_iff_trust, hsecond]
  constructor
  · rintro ⟨document, reading, hlegible, hperiod, htrust⟩
    exact ⟨reading, hlegible, hperiod, document, htrust⟩
  · rintro ⟨reading, hlegible, hperiod, document, htrust⟩
    exact ⟨document, reading, hlegible, hperiod, htrust⟩

/-- A document is accepted at no time, or exactly in the period that the windows of its certificates
have in common. The part of a second does not matter, the document is the same at all times, and one
that is refused for a signature or its root is refused at all times. -/
theorem verify_over_time (root : Fingerprint) (input : Bytes) :
    (acceptedSeconds root input = ∅ ∨ ∃ reading, Legible input reading ∧
      acceptedSeconds root input =
        {seconds : Nat | reading.opens ≤ seconds ∧ seconds ≤ reading.closes}) ∧
    (∀ now, verify root input now = verify root input now.wholeSecond) ∧
    (∀ now other document same, verify root input now = .ok document →
      verify root input other = .ok same → document = same) ∧
    (∀ now rejection, verify root input now = .error rejection →
      rejection.toFault.kind = .invalidSignature →
        ∀ other document, verify root input other ≠ .ok document) := by
  refine ⟨?_, ?_, ?_, ?_⟩
  · rcases Set.eq_empty_or_nonempty (acceptedSeconds root input) with hnone | ⟨second, hsome⟩
    · exact Or.inl hnone
    · obtain ⟨reading, hlegible, -, document, htrust⟩ := mem_acceptedSeconds_iff.1 hsome
      refine Or.inr ⟨reading, hlegible, Set.ext fun seconds ↦ ?_⟩
      rw [mem_acceptedSeconds_iff]
      constructor
      · rintro ⟨other, hother, hperiod, -⟩
        rwa [hlegible.unique hother]
      · intro hperiod
        exact ⟨reading, hlegible, hperiod, document, htrust⟩
  · intro now
    rw [verify_eq_read_bind, verify_eq_read_bind]
    congr 1
    funext reading
    exact judge_of_seconds?_eq (Instant.seconds?_wholeSecond now).symm
  · intro now other document same hdocument hsame
    obtain ⟨reading, hlegible, -, htrust⟩ := verify_eq_ok_iff_trust.1 hdocument
    obtain ⟨again, hagain, -, htrusted⟩ := verify_eq_ok_iff_trust.1 hsame
    rw [← hlegible.unique hagain, htrust] at htrusted
    exact Except.ok.inj htrusted
  · intro now rejection hrefused hkind other document haccepted
    obtain ⟨reading, hlegible, hepoch, hvalid⟩ := (kind_of_verify hrefused).2 hkind
    rw [verify_of_legible hlegible, judge_of_valid hepoch hvalid] at hrefused
    obtain ⟨again, hagain, -, htrust⟩ := verify_eq_ok_iff_trust.1 haccepted
    rw [← hlegible.unique hagain, hrefused] at htrust
    cases htrust

end Verifier

end AttestedUplink
