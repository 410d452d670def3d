import AttestedUplink.Proofs.Attestation.Acceptance

/-!
# Which fault is reported

A message can be wrong in several ways at once. Verification first reads everything that it will
need and only then judges it: what cannot be read is malformed whatever the time, and of what can be
read the windows of the certificates are judged before the root and before any signature.
-/

namespace AttestedUplink

open Checks

/-- Whether the whole second of a moment lies in the window of a certificate, both ends included. -/
def Certificate.ValidAt (certificate : Certificate) (now : Instant) : Prop :=
  certificate.notBefore ≤ now.nanos / 1000000000 ∧ now.nanos / 1000000000 ≤ certificate.notAfter

/-- The fault of a certificate outside its window. -/
def Certificate.windowFault (certificate : Certificate) (now : Instant) : Fault where
  kind := .expiredCertificate
  text :=
    if now.nanos / 1000000000 < certificate.notBefore then
      s!"{certificate.subject.display} is not valid before {certificate.notBefore}"
    else s!"{certificate.subject.display} expired at {certificate.notAfter}"

namespace Verifier

/-- What is read of a message before anything of it is judged. -/
structure Reading where
  envelope : Envelope
  document : Document
  bundle : List Certificate
  signing : Certificate

/-- Everything that can be said of a message without a clock, a trusted root or a signature is in
order, and `reading` is what it holds. -/
structure Legible (input : Bytes) (reading : Reading) : Prop where
  envelope : Envelope.decode input = .ok reading.envelope
  header : reading.envelope.checkAlgorithm = .ok ()
  payload : Payload.decode reading.envelope.payload = .ok reading.document
  wellFormed : reading.document.WellFormed
  signing : Certificate.parse? reading.document.certificate = some reading.signing
  bundle : List.Forall₂ (fun der certificate ↦ Certificate.parse? der = some certificate)
    reading.document.cabundle reading.bundle

/-- The certificates in the order in which their windows are looked at. -/
def Reading.certificates (reading : Reading) : List Certificate :=
  reading.bundle ++ [reading.signing]

def read (input : Bytes) : Except Rejection Reading := do
  let (envelope, document) ← open? input
  let signing ← readCertificate .signing document.certificate
  let bundle ← readBundle 0 document.cabundle
  return { envelope, document, bundle, signing }

/-- The checks on what was read that need no clock. -/
def trust (root : Fingerprint) (reading : Reading) : Except Rejection Document := do
  checkRoot root reading.document.cabundle
  checkChain reading.signing 0 (reading.bundle.head?.getD reading.signing).key reading.bundle
  if signs reading.signing.key reading.envelope then return reading.document
  else throw .documentSignature

def judge (root : Fingerprint) (now : Instant) (reading : Reading) : Except Rejection Document :=
  match now.seconds? with
  | none => .error .clockBeforeEpoch
  | some seconds =>
    match checkWindows seconds reading.certificates with
    | .error rejection => .error rejection
    | .ok () => trust root reading

variable {root : Fingerprint} {input : Bytes} {now : Instant} {reading : Reading}
  {rejection : Rejection}

/-- Verification reads, and then judges what it read. -/
theorem verify_eq_read_bind (root : Fingerprint) (input : Bytes) (now : Instant) :
    verify root input now = read input >>= judge root now := by
  unfold verify read
  cases open? input with
  | error rejection => rfl
  | ok opened =>
    obtain ⟨envelope, document⟩ := opened
    simp only [checkCertificates, bind, Except.bind]
    cases readCertificate .signing document.certificate with
    | error rejection => rfl
    | ok signing =>
      cases readBundle 0 document.cabundle with
      | error rejection => rfl
      | ok bundle =>
        simp only [judge, pure, Except.pure, Reading.certificates]
        cases now.seconds? with
        | none => rfl
        | some seconds =>
          cases hwindows : checkWindows seconds (bundle ++ [signing]) with
          | error rejection => simp only [hwindows]
          | ok _ =>
            simp only [hwindows, trust, bind, Except.bind]
            cases checkRoot root document.cabundle with
            | error rejection => rfl
            | ok _ =>
              cases checkChain signing 0 (bundle.head?.getD signing).key bundle <;> rfl

/-! ### Reading -/

theorem read_eq_ok_iff : read input = .ok reading ↔ Legible input reading := by
  simp only [read, bind_eq_ok_iff, readCertificate_eq_ok_iff, readBundle_eq_ok_iff, pure_eq_ok_iff,
    Prod.exists, open?_eq_ok_iff]
  constructor
  · rintro ⟨envelope, document, ⟨henvelope, hheader, hpayload, hshape⟩, signing, hsigning, bundle,
      hbundle, rfl⟩
    exact ⟨henvelope, hheader, hpayload, hshape, hsigning, hbundle⟩
  · intro h
    exact ⟨_, _, ⟨h.envelope, h.header, h.payload, h.wellFormed⟩, _, h.signing, _, h.bundle, rfl⟩

theorem kind_of_open? (h : open? input = .error rejection) :
    rejection.kind = .malformedDocument := by
  unfold open? at h
  rcases bind_eq_error_iff.1 h with henvelope | ⟨envelope, -, h⟩
  · obtain ⟨defect, -, rfl⟩ := mapError_eq_error_iff.1 henvelope
    rfl
  rcases bind_eq_error_iff.1 h with hheader | ⟨_, -, h⟩
  · obtain ⟨defect, -, rfl⟩ := mapError_eq_error_iff.1 hheader
    rfl
  rcases bind_eq_error_iff.1 h with hpayload | ⟨document, -, h⟩
  · obtain ⟨defect, -, rfl⟩ := mapError_eq_error_iff.1 hpayload
    rfl
  cases hshape : document.defect? with
  | none =>
    rw [hshape] at h
    cases h
  | some defect =>
    rw [hshape] at h
    cases h
    rfl

theorem kind_of_readCertificate {place : ChainPlace} {der : Bytes}
    (h : readCertificate place der = .error rejection) : rejection.kind = .malformedDocument := by
  unfold readCertificate at h
  split at h
  · cases h
  · cases h
    rfl

theorem kind_of_readBundle {position : Nat} {ders : List Bytes}
    (h : readBundle position ders = .error rejection) : rejection.kind = .malformedDocument := by
  induction ders generalizing position with
  | nil => cases h
  | cons der ders ih =>
    rcases bind_eq_error_iff.1 h with hfirst | ⟨certificate, -, h⟩
    · exact kind_of_readCertificate hfirst
    rcases bind_eq_error_iff.1 h with hrest | ⟨certificates, -, h⟩
    · exact ih hrest
    · cases h

/-- What cannot be read is malformed, whichever part of it it is. -/
theorem kind_of_read (h : read input = .error rejection) : rejection.kind = .malformedDocument := by
  rcases bind_eq_error_iff.1 h with hopen | ⟨⟨envelope, document⟩, -, h⟩
  · exact kind_of_open? hopen
  rcases bind_eq_error_iff.1 h with hsigning | ⟨signing, -, h⟩
  · exact kind_of_readCertificate hsigning
  rcases bind_eq_error_iff.1 h with hbundle | ⟨bundle, -, h⟩
  · exact kind_of_readBundle hbundle
  · cases h

theorem exists_read_eq_error (h : ¬∃ reading, Legible input reading) :
    ∃ rejection, read input = .error rejection :=
  exists_eq_error_iff.2 fun reading hread ↦ h ⟨reading, read_eq_ok_iff.1 hread⟩

/-! ### Windows -/

/-- The first certificate whose window is missed is the one that is reported. -/
theorem checkWindows_append_of_ok {seconds : Int} {before after : List Certificate}
    {certificate : Certificate} (hbefore : checkWindows seconds before = .ok ())
    (hmissed : checkWindow seconds certificate = .error rejection) :
    checkWindows seconds (before ++ certificate :: after) = .error rejection := by
  induction before with
  | nil =>
    rw [List.nil_append, checkWindows, hmissed]
    rfl
  | cons first before ih =>
    rw [checkWindows, bind_eq_ok_iff, exists_eq_ok_and_iff] at hbefore
    obtain ⟨hfirst, hrest⟩ := hbefore
    rw [List.cons_append, checkWindows, hfirst]
    exact ih hrest

theorem toFault_of_checkWindow {seconds : Nat} {certificate : Certificate}
    (hseconds : now.seconds? = some seconds)
    (h : checkWindow seconds certificate = .error rejection) :
    rejection.toFault = certificate.windowFault now := by
  obtain ⟨-, hnow⟩ := Instant.seconds?_eq_some_iff.1 hseconds
  unfold checkWindow at h
  rw [Certificate.windowFault, ← hnow]
  split at h
  · rename_i hearly
    cases h
    rw [if_pos hearly]
    rfl
  · rename_i hearly
    split at h
    · cases h
      rw [if_neg hearly]
      rfl
    · cases h

theorem checkWindow_eq_ok_iff_validAt {seconds : Nat} {certificate : Certificate}
    (hseconds : now.seconds? = some seconds) :
    checkWindow seconds certificate = .ok () ↔ certificate.ValidAt now := by
  obtain ⟨-, hnow⟩ := Instant.seconds?_eq_some_iff.1 hseconds
  rw [checkWindow_eq_ok_iff, hnow]
  rfl

theorem checkWindows_eq_ok_iff_validAt {seconds : Nat} {certificates : List Certificate}
    (hseconds : now.seconds? = some seconds) :
    checkWindows seconds certificates = .ok () ↔
      ∀ certificate ∈ certificates, certificate.ValidAt now := by
  obtain ⟨-, hnow⟩ := Instant.seconds?_eq_some_iff.1 hseconds
  rw [checkWindows_eq_ok_iff, hnow]
  rfl

theorem kind_of_checkWindows {seconds : Int} {certificates : List Certificate}
    (h : checkWindows seconds certificates = .error rejection) :
    rejection.kind = .expiredCertificate := by
  induction certificates with
  | nil => cases h
  | cons certificate certificates ih =>
    rcases bind_eq_error_iff.1 h with hfirst | ⟨_, -, hrest⟩
    · unfold checkWindow at hfirst
      split at hfirst
      · cases hfirst
        rfl
      · split at hfirst
        · cases hfirst
          rfl
        · cases hfirst
    · exact ih hrest

/-! ### Judging -/

theorem kind_of_checkSignature {place : ChainPlace} {issuer : PublicKeyInfo}
    {certificate : Certificate}
    (h : checkSignature place issuer certificate = .error rejection) :
    rejection.kind = .invalidSignature := by
  obtain ⟨defect, -, rfl⟩ := mapError_eq_error_iff.1 h
  rfl

theorem kind_of_checkChain {signing : Certificate} {position : Nat} {issuer : PublicKeyInfo}
    {bundle : List Certificate} (h : checkChain signing position issuer bundle = .error rejection) :
    rejection.kind = .invalidSignature := by
  induction bundle generalizing position issuer with
  | nil => exact kind_of_checkSignature h
  | cons certificate bundle ih =>
    rcases bind_eq_error_iff.1 h with hfirst | ⟨_, -, hrest⟩
    · exact kind_of_checkSignature hfirst
    · exact ih hrest

theorem kind_of_trust (h : trust root reading = .error rejection) :
    rejection.kind = .invalidSignature := by
  rcases bind_eq_error_iff.1 h with hroot | ⟨_, -, h⟩
  · unfold checkRoot at hroot
    split at hroot
    · cases hroot
    · cases hroot
      rfl
  rcases bind_eq_error_iff.1 h with hchain | ⟨_, -, h⟩
  · exact kind_of_checkChain hchain
  split at h
  · cases h
  · cases h
    rfl

theorem trust_eq_ok {document : Document} (h : trust root reading = .ok document) :
    document = reading.document := by
  obtain ⟨_, -, h⟩ := bind_eq_ok_iff.1 h
  obtain ⟨_, -, h⟩ := bind_eq_ok_iff.1 h
  split at h
  · exact (pure_eq_ok_iff.1 h).symm
  · cases h

theorem seconds?_eq_none (hepoch : now.nanos < 0) : now.seconds? = none :=
  if_neg (Int.not_le.2 hepoch)

theorem exists_seconds?_eq_some (hepoch : 0 ≤ now.nanos) :
    ∃ seconds, now.seconds? = some seconds :=
  ⟨_, if_pos hepoch⟩

theorem judge_of_missed {before after : List Certificate} {certificate : Certificate}
    (hepoch : 0 ≤ now.nanos) (hcertificates : reading.certificates = before ++ certificate :: after)
    (hbefore : ∀ earlier ∈ before, earlier.ValidAt now) (hmissed : ¬certificate.ValidAt now) :
    ∃ rejection, rejection.toFault = certificate.windowFault now ∧
      ∀ root, judge root now reading = .error rejection := by
  obtain ⟨seconds, hseconds⟩ := exists_seconds?_eq_some hepoch
  cases hwindow : checkWindow seconds certificate with
  | ok _ => exact absurd ((checkWindow_eq_ok_iff_validAt hseconds).1 hwindow) hmissed
  | error rejection =>
    refine ⟨rejection, toFault_of_checkWindow hseconds hwindow, fun root ↦ ?_⟩
    have hall : checkWindows seconds (before ++ certificate :: after) = .error rejection :=
      checkWindows_append_of_ok ((checkWindows_eq_ok_iff_validAt hseconds).2 hbefore) hwindow
    simp only [judge, hseconds, hcertificates, hall]

theorem judge_of_valid (hepoch : 0 ≤ now.nanos)
    (hvalid : ∀ certificate ∈ reading.certificates, certificate.ValidAt now) :
    judge root now reading = trust root reading := by
  obtain ⟨seconds, hseconds⟩ := exists_seconds?_eq_some hepoch
  simp only [judge, hseconds, (checkWindows_eq_ok_iff_validAt hseconds).2 hvalid]

/-- The three ways in which what was read can be refused. -/
theorem judge_eq_error (h : judge root now reading = .error rejection) :
    now.nanos < 0 ∧ rejection.kind = .config ∨
      0 ≤ now.nanos ∧ rejection.kind = .expiredCertificate ∨
      (0 ≤ now.nanos ∧ (∀ certificate ∈ reading.certificates, certificate.ValidAt now)) ∧
        rejection.kind = .invalidSignature := by
  by_cases hepoch : 0 ≤ now.nanos
  · obtain ⟨seconds, hseconds⟩ := exists_seconds?_eq_some hepoch
    simp only [judge, hseconds] at h
    split at h
    · rename_i hwindows
      cases h
      exact Or.inr (Or.inl ⟨hepoch, kind_of_checkWindows hwindows⟩)
    · rename_i hwindows
      have hvalid := (checkWindows_eq_ok_iff_validAt hseconds).1 hwindows
      exact Or.inr (Or.inr ⟨⟨hepoch, hvalid⟩, kind_of_trust h⟩)
  · have hearly := Int.not_le.1 hepoch
    rw [judge, seconds?_eq_none hearly] at h
    cases h
    exact Or.inl ⟨hearly, rfl⟩

theorem verify_of_legible (h : Legible input reading) (root : Fingerprint) (now : Instant) :
    verify root input now = judge root now reading := by
  rw [verify_eq_read_bind, read_eq_ok_iff.2 h]
  rfl

theorem verify_of_read_eq_error (h : read input = .error rejection) (root : Fingerprint)
    (now : Instant) : verify root input now = .error rejection := by
  rw [verify_eq_read_bind, h]
  rfl

theorem isRetryable_of_mem {fault : Fault}
    (h : fault.kind ∈ [.malformedDocument, .config, .expiredCertificate, .invalidSignature]) :
    fault.isRetryable = false := by
  simp only [List.mem_cons, List.not_mem_nil, or_false] at h
  rcases h with hkind | hkind | hkind | hkind <;> rw [Fault.isRetryable, hkind] <;> rfl

/-- A refusal is of one of four kinds, and of the last one only inside all windows. -/
theorem kind_of_verify (h : verify root input now = .error rejection) :
    rejection.toFault.kind ∈
        [.malformedDocument, .config, .expiredCertificate, .invalidSignature] ∧
      (rejection.toFault.kind = .invalidSignature → ∃ reading, Legible input reading ∧
        0 ≤ now.nanos ∧ ∀ certificate ∈ reading.certificates, certificate.ValidAt now) := by
  have hsame : rejection.toFault.kind = rejection.kind := rfl
  rw [verify_eq_read_bind] at h
  rcases bind_eq_error_iff.1 h with hread | ⟨reading, hread, hjudge⟩
  · simp [hsame, kind_of_read hread]
  · have hlegible := read_eq_ok_iff.1 hread
    rcases judge_eq_error hjudge with ⟨-, hkind⟩ | ⟨-, hkind⟩ | ⟨hvalid, hkind⟩
    · simp [hsame, hkind]
    · simp [hsame, hkind]
    · simp only [hsame, hkind, List.mem_cons, or_true, true_or, true_and]
      exact fun _ ↦ ⟨reading, hlegible, hvalid⟩

/-- The order of the checks, over messages that may be wrong in many ways. What cannot be read is
malformed at any time and under any root. What can be read is refused because of a clock before the
epoch, else because of the first certificate whose window is missed, whatever the root and the
signatures, else because of a signature or the root. There are no other refusals, and none of them
is worth another try. -/
theorem verify_precedence (input : Bytes) :
    ((¬∃ reading, Legible input reading) → ∃ rejection : Rejection,
      rejection.toFault.kind = .malformedDocument ∧
        ∀ root now, verify root input now = .error rejection) ∧
    (∀ reading, Legible input reading → ∀ now,
      (now.nanos < 0 → ∃ rejection : Rejection,
        rejection.toFault = ⟨.config, "system clock before Unix epoch"⟩ ∧
          ∀ root, verify root input now = .error rejection) ∧
      (0 ≤ now.nanos → ∀ before certificate after,
        reading.certificates = before ++ certificate :: after →
        (∀ earlier ∈ before, earlier.ValidAt now) → ¬certificate.ValidAt now →
          ∃ rejection : Rejection, rejection.toFault = certificate.windowFault now ∧
            ∀ root, verify root input now = .error rejection) ∧
      (0 ≤ now.nanos → (∀ certificate ∈ reading.certificates, certificate.ValidAt now) →
        ∀ root, verify root input now = .ok reading.document ∨ ∃ rejection : Rejection,
          verify root input now = .error rejection ∧
            rejection.toFault.kind = .invalidSignature)) ∧
    (∀ root now rejection, verify root input now = .error rejection →
      rejection.toFault.isRetryable = false ∧
      rejection.toFault.kind ∈
        [.malformedDocument, .config, .expiredCertificate, .invalidSignature] ∧
      (rejection.toFault.kind = .invalidSignature → ∃ reading, Legible input reading ∧
        0 ≤ now.nanos ∧ ∀ certificate ∈ reading.certificates, certificate.ValidAt now)) := by
  refine ⟨?_, ?_, ?_⟩
  · intro hillegible
    obtain ⟨rejection, hread⟩ := exists_read_eq_error hillegible
    exact ⟨rejection, kind_of_read hread, fun root now ↦ verify_of_read_eq_error hread root now⟩
  · intro reading hlegible now
    simp only [verify_of_legible hlegible]
    refine ⟨?_, ?_, ?_⟩
    · intro hearly
      refine ⟨.clockBeforeEpoch, rfl, fun root ↦ ?_⟩
      rw [judge, seconds?_eq_none hearly]
    · intro hepoch before certificate after hcertificates hbefore hmissed
      exact judge_of_missed hepoch hcertificates hbefore hmissed
    · intro hepoch hvalid root
      rw [judge_of_valid hepoch hvalid]
      cases htrust : trust root reading with
      | error rejection => exact Or.inr ⟨rejection, rfl, kind_of_trust htrust⟩
      | ok document =>
        obtain rfl := trust_eq_ok htrust
        exact Or.inl rfl
  · intro root now rejection h
    obtain ⟨hkind, hjudged⟩ := kind_of_verify h
    exact ⟨isRetryable_of_mem hkind, hkind, hjudged⟩

end Verifier

end AttestedUplink
