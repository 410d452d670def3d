import AttestedUplink.Attestation.Verifier
import AttestedUplink.Proofs.Attestation.Shape
import AttestedUplink.Proofs.Checks
import Mathlib.Data.List.Chain
import Mathlib.Data.List.Forall2

/-!
# When a document is trusted

Every stage of verification succeeds exactly under the condition that is stated for it here. Put
together, the conditions say what it takes for a document to be trusted.
-/

namespace AttestedUplink

open Checks

namespace Envelope

/-- The value that a message with these parts is. -/
def message (envelope : Envelope) (unprotected : List (Cbor.Value × Cbor.Value)) : Cbor.Value :=
  .array [.bytes envelope.protectedHeader, .map unprotected, .bytes envelope.payload,
    .bytes envelope.signature]

theorem expectBytes_eq_ok_iff {part : Part} {value : Cbor.Value} {octets : Bytes} :
    expectBytes part value = .ok octets ↔ value = .bytes octets := by
  cases value <;> simp [expectBytes]

theorem untag_eq_array_iff {value : Cbor.Value} {items : List Cbor.Value} :
    untag value = .array items ↔ value = .array items ∨ value = .tag 18 (.array items) := by
  cases value with
  | tag number value =>
    by_cases hnumber : number = messageTag
    · simp [untag, hnumber, messageTag]
    · have hother : number ≠ 18 := hnumber
      simp [untag, hnumber, hother]
  | _ => simp [untag]

theorem ofValue_eq_ok_iff {value : Cbor.Value} {envelope : Envelope} :
    ofValue value = .ok envelope ↔ ∃ unprotected, value = envelope.message unprotected ∨
      value = .tag 18 (envelope.message unprotected) := by
  have hmessage : ofValue value = .ok envelope ↔
      ∃ unprotected, untag value = envelope.message unprotected := by
    unfold ofValue
    split
    · rename_i header unprotected payload signature huntag
      simp only [bind_eq_ok_iff, expectBytes_eq_ok_iff]
      constructor
      · rintro ⟨headerOctets, rfl, h⟩
        cases unprotected with
        | map entries =>
          simp only [bind_eq_ok_iff, expectBytes_eq_ok_iff, pure_eq_ok_iff] at h
          obtain ⟨payloadOctets, rfl, signatureOctets, rfl, rfl⟩ := h
          exact ⟨entries, huntag⟩
        | _ => cases h
      · rintro ⟨entries, h⟩
        rw [huntag] at h
        cases h
        exact ⟨_, rfl, rfl⟩
    · rename_i hother
      simp only [reduceCtorEq, false_iff, not_exists]
      exact fun unprotected ↦ hother _ _ _ _
  simp only [hmessage, message, untag_eq_array_iff]

theorem decode_eq_ok_iff {input : Bytes} {envelope : Envelope} :
    decode input = .ok envelope ↔ ∃ unprotected,
      Cbor.Value.decode input = some (envelope.message unprotected) ∨
        Cbor.Value.decode input = some (.tag 18 (envelope.message unprotected)) := by
  unfold decode
  cases Cbor.Value.decode input with
  | none => simp
  | some value => simp [ofValue_eq_ok_iff]

theorem entryAlgorithm?_eq_some_iff {entry : Cbor.Value × Cbor.Value} {algorithm : Int} :
    entryAlgorithm? entry = some algorithm ↔ entry = (.integer 1, .integer algorithm) := by
  unfold entryAlgorithm?
  split
  · rename_i label value
    by_cases hlabel : label = algorithmLabel
    · simp [hlabel, algorithmLabel]
    · have hother : label ≠ 1 := hlabel
      simp [hlabel, hother]
  · rename_i hother
    simp only [reduceCtorEq, false_iff]
    rintro rfl
    exact hother _ _ rfl

theorem entryAlgorithm?_eq_none_iff {entries : List (Cbor.Value × Cbor.Value)} :
    (∀ entry ∈ entries, entryAlgorithm? entry = none) ↔
      ∀ algorithm, (Cbor.Value.integer 1, Cbor.Value.integer algorithm) ∉ entries := by
  constructor
  · intro h algorithm hmem
    exact absurd (h _ hmem) (by simp [entryAlgorithm?_eq_some_iff.2 rfl])
  · intro h entry hentry
    cases halgorithm : entryAlgorithm? entry with
    | none => rfl
    | some algorithm =>
      obtain rfl := entryAlgorithm?_eq_some_iff.1 halgorithm
      exact absurd hentry (h algorithm)

/-- Of the entries that give an algorithm, the first one counts. -/
theorem headerAlgorithm_eq_ok_iff {header : Bytes} {algorithm : Int} :
    headerAlgorithm header = .ok algorithm ↔ ∃ before after,
      Cbor.Value.decode header =
        some (.map (before ++ (.integer 1, .integer algorithm) :: after)) ∧
      ∀ other, (Cbor.Value.integer 1, Cbor.Value.integer other) ∉ before := by
  unfold headerAlgorithm
  split
  · rename_i hdecode
    simp [hdecode]
  · rename_i entries hdecode
    simp only [hdecode, Option.some.injEq, Cbor.Value.map.injEq]
    have hfind : entries.findSome? entryAlgorithm? = some algorithm ↔ ∃ before after,
        entries = before ++ (.integer 1, .integer algorithm) :: after ∧
          ∀ other, (Cbor.Value.integer 1, Cbor.Value.integer other) ∉ before := by
      simp only [List.findSome?_eq_some_iff, entryAlgorithm?_eq_some_iff,
        entryAlgorithm?_eq_none_iff]
      constructor
      · rintro ⟨before, _, after, hentries, rfl, hbefore⟩
        exact ⟨before, after, hentries, hbefore⟩
      · rintro ⟨before, after, hentries, hbefore⟩
        exact ⟨before, _, after, hentries, rfl, hbefore⟩
    rw [← hfind]
    cases entries.findSome? entryAlgorithm? <;> simp
  · rename_i value hother hdecode
    simp only [reduceCtorEq, hdecode, Option.some.injEq, false_iff, not_exists, not_and]
    rintro before after rfl
    exact absurd rfl (hother _)

theorem checkAlgorithm_eq_ok_iff {envelope : Envelope} :
    envelope.checkAlgorithm = .ok () ↔ headerAlgorithm envelope.protectedHeader = .ok (-35) := by
  simp only [checkAlgorithm, bind_eq_ok_iff]
  constructor
  · rintro ⟨algorithm, halgorithm, h⟩
    split at h
    · rename_i hes384
      rw [halgorithm, hes384, es384]
    · cases h
  · intro h
    exact ⟨es384, h, rfl⟩

end Envelope

theorem Instant.seconds?_eq_some_iff {now : Instant} {seconds : Nat} :
    now.seconds? = some seconds ↔ 0 ≤ now.nanos ∧ (seconds : Int) = now.nanos / 1000000000 := by
  unfold seconds?
  split
  · rename_i hepoch
    simp only [nanosPerSecond, Option.some.injEq, hepoch, true_and]
    omega
  · rename_i hepoch
    simp [hepoch]

/-! ### Certificates -/

namespace Verifier

theorem readCertificate_eq_ok_iff {place : ChainPlace} {der : Bytes} {certificate : Certificate} :
    readCertificate place der = .ok certificate ↔ Certificate.parse? der = some certificate := by
  unfold readCertificate
  split <;> simp_all

theorem readBundle_eq_ok_iff {position : Nat} {ders : List Bytes} {bundle : List Certificate} :
    readBundle position ders = .ok bundle ↔
      List.Forall₂ (fun der certificate ↦ Certificate.parse? der = some certificate)
        ders bundle := by
  induction ders generalizing position bundle with
  | nil => simp [readBundle, eq_comm]
  | cons der ders ih =>
    simp only [readBundle, bind_eq_ok_iff, readCertificate_eq_ok_iff, ih, pure_eq_ok_iff]
    constructor
    · rintro ⟨certificate, hcertificate, certificates, hrest, rfl⟩
      exact .cons hcertificate hrest
    · rintro (_ | ⟨hcertificate, hrest⟩)
      exact ⟨_, hcertificate, _, hrest, rfl⟩

theorem checkWindow_eq_ok_iff {now : Int} {certificate : Certificate} :
    checkWindow now certificate = .ok () ↔
      certificate.notBefore ≤ now ∧ now ≤ certificate.notAfter := by
  unfold checkWindow
  split
  · simp
    omega
  · split
    · simp
      omega
    · simp
      omega

theorem checkWindows_eq_ok_iff {now : Int} {certificates : List Certificate} :
    checkWindows now certificates = .ok () ↔ ∀ certificate ∈ certificates,
      certificate.notBefore ≤ now ∧ now ≤ certificate.notAfter := by
  induction certificates with
  | nil => simp [checkWindows]
  | cons certificate rest ih =>
    rw [List.forall_mem_cons, ← ih, ← checkWindow_eq_ok_iff, checkWindows, bind_eq_ok_iff]
    exact exists_eq_ok_and_iff

theorem checkRoot_eq_ok_iff {root : Fingerprint} {ders : List Bytes} :
    checkRoot root ders = .ok () ↔ ∃ der rest, ders = der :: rest ∧ sha256 der = root.bytes := by
  cases ders with
  | nil => simp [checkRoot]
  | cons der rest =>
    by_cases hroot : sha256 der = root.bytes <;> simp [checkRoot, hroot]

theorem checkSignature_eq_ok_iff {place : ChainPlace} {issuer : PublicKeyInfo}
    {certificate : Certificate} :
    checkSignature place issuer certificate = .ok () ↔
      certificate.checkSignature issuer = .ok () :=
  mapError_eq_ok_iff

/-- Every certificate is good under the key of the one before it. -/
theorem checkChain_eq_ok_iff {signing issuer : Certificate} {position : Nat}
    {bundle : List Certificate} :
    checkChain signing position issuer.key bundle = .ok () ↔
      ((issuer :: bundle) ++ [signing]).IsChain fun issuer certificate ↦
        certificate.checkSignature issuer.key = .ok () := by
  induction bundle generalizing issuer position with
  | nil =>
    rw [checkChain, checkSignature_eq_ok_iff]
    simp
  | cons certificate rest ih =>
    rw [checkChain, bind_eq_ok_iff, exists_eq_ok_and_iff, checkSignature_eq_ok_iff, ih]
    simp only [List.cons_append, List.isChain_cons_cons]

/-- How the certificates of a bundle and the one that signs documents vouch for each other. -/
structure SignedChain (bundle : List Certificate) (signing : Certificate) : Prop where
  root : ∀ first, bundle[0]? = some first → first.checkSignature first.key = .ok ()
  link : ∀ i issuer certificate, bundle[i]? = some issuer → bundle[i + 1]? = some certificate →
    certificate.checkSignature issuer.key = .ok ()
  signing : ∀ last, bundle[bundle.length - 1]? = some last →
    signing.checkSignature last.key = .ok ()

theorem signedChain_iff {first signing : Certificate} {rest : List Certificate} :
    SignedChain (first :: rest) signing ↔
      ((first :: first :: rest) ++ [signing]).IsChain fun issuer certificate ↦
        certificate.checkSignature issuer.key = .ok () := by
  have hlast := (first :: rest).getLast?_eq_getElem?
  simp only [List.cons_append, List.isChain_cons_cons]
  rw [← List.cons_append, List.isChain_append, List.isChain_iff_getElem]
  constructor
  · intro h
    refine ⟨h.root first rfl, fun i hi ↦ ?_, .singleton _, ?_⟩
    · exact h.link i _ _ (List.getElem?_eq_getElem _) (List.getElem?_eq_getElem hi)
    · rintro last hmem _ ⟨⟩
      exact h.signing last (hlast ▸ hmem)
  · rintro ⟨hroot, hlink, -, hsigning⟩
    refine ⟨?_, ?_, ?_⟩
    · rintro _ ⟨⟩
      exact hroot
    · intro i issuer certificate hissuer hcertificate
      obtain ⟨hi, rfl⟩ := List.getElem?_eq_some_iff.1 hissuer
      obtain ⟨hnext, rfl⟩ := List.getElem?_eq_some_iff.1 hcertificate
      exact hlink i hnext
    · intro last hmem
      exact hsigning last (hlast ▸ hmem) signing rfl

/-- The root of a bundle counts twice: it is also its own issuer. -/
theorem checkChain_bundle_iff {der : Bytes} {ders : List Bytes} {bundle : List Certificate}
    {signing : Certificate}
    (hbundle : List.Forall₂ (fun der certificate ↦ Certificate.parse? der = some certificate)
      (der :: ders) bundle) :
    checkChain signing 0 (bundle.head?.getD signing).key bundle = .ok () ↔
      SignedChain bundle signing := by
  cases hbundle with
  | cons hfirst hrest => exact checkChain_eq_ok_iff.trans signedChain_iff.symm

theorem checkCertificates_eq_ok_iff {root : Fingerprint} {document : Document} {now : Instant}
    {key : PublicKeyInfo} :
    checkCertificates root document now = .ok key ↔ ∃ signing bundle seconds,
      Certificate.parse? document.certificate = some signing ∧
      List.Forall₂ (fun der certificate ↦ Certificate.parse? der = some certificate)
        document.cabundle bundle ∧
      now.seconds? = some seconds ∧
      (∀ certificate ∈ bundle ++ [signing],
        certificate.notBefore ≤ seconds ∧ seconds ≤ certificate.notAfter) ∧
      (∃ der rest, document.cabundle = der :: rest ∧ sha256 der = root.bytes) ∧
      SignedChain bundle signing ∧ signing.key = key := by
  unfold checkCertificates
  cases hseconds : now.seconds? with
  | none => simp [bind_eq_ok_iff, throw_ne_ok]
  | some seconds =>
    simp only [bind_eq_ok_iff, readCertificate_eq_ok_iff, readBundle_eq_ok_iff, pure_eq_ok_iff,
      exists_eq_ok_and_iff, checkWindows_eq_ok_iff, checkRoot_eq_ok_iff]
    constructor
    · rintro ⟨signing, hsigning, bundle, hbundle, _, rfl, hwindows, ⟨der, ders, hders, hroot⟩,
        hchain, hkey⟩
      rw [hders] at hbundle
      refine ⟨signing, bundle, seconds, hsigning, hders ▸ hbundle, rfl, hwindows,
        ⟨der, ders, hders, hroot⟩, ?_, hkey⟩
      exact (checkChain_bundle_iff hbundle).1 hchain
    · rintro ⟨signing, bundle, _, hsigning, hbundle, ⟨⟩, hwindows, ⟨der, ders, hders, hroot⟩,
        hchain, hkey⟩
      rw [hders] at hbundle
      refine ⟨signing, hsigning, bundle, hders ▸ hbundle, seconds, rfl, hwindows,
        ⟨der, ders, hders, hroot⟩, ?_, hkey⟩
      exact (checkChain_bundle_iff hbundle).2 hchain

theorem signs_iff {key : PublicKeyInfo} {envelope : Envelope} :
    signs key envelope = true ↔ envelope.signature.length = 96 ∧
      ∃ point, Curve.p384.point? key.bits = some point ∧
        Ecdsa.accepts .p384 point (sha384 envelope.signedBytes)
          (Bytes.toNat (envelope.signature.take 48))
          (Bytes.toNat (envelope.signature.drop 48)) = true := by
  have hlen : 2 * Curve.p384.len = 96 := rfl
  simp only [signs, Ecdsa.verify, Ecdsa.readFixed?, hlen]
  by_cases hsignature : envelope.signature.length = 96
  · cases hpoint : Curve.p384.point? key.bits with
    | none => simp
    | some point =>
      simp only [hsignature, if_true, true_and, Option.some.injEq, exists_eq_left']
      exact Iff.rfl
  · cases hpoint : Curve.p384.point? key.bits <;> simp [hsignature]

theorem open?_eq_ok_iff {input : Bytes} {envelope : Envelope} {document : Document} :
    open? input = .ok (envelope, document) ↔ Envelope.decode input = .ok envelope ∧
      envelope.checkAlgorithm = .ok () ∧ Payload.decode envelope.payload = .ok document ∧
      document.WellFormed := by
  simp only [open?, bind_eq_ok_iff, mapError_eq_ok_iff, exists_eq_ok_and_iff,
    ← Document.defect?_eq_none_iff]
  constructor
  · rintro ⟨read, hread, halgorithm, content, hcontent, h⟩
    split at h
    · cases h
    · rename_i hshape
      cases h
      exact ⟨hread, halgorithm, hcontent, hshape⟩
  · rintro ⟨hread, halgorithm, hcontent, hshape⟩
    refine ⟨envelope, hread, halgorithm, document, hcontent, ?_⟩
    rw [hshape]
    rfl

theorem verify_eq_ok_iff {root : Fingerprint} {input : Bytes} {now : Instant}
    {document : Document} :
    verify root input now = .ok document ↔ ∃ envelope key,
      open? input = .ok (envelope, document) ∧ checkCertificates root document now = .ok key ∧
      signs key envelope = true := by
  simp only [verify, bind_eq_ok_iff]
  constructor
  · rintro ⟨⟨envelope, read⟩, hopen, key, hkey, h⟩
    split at h
    · rename_i hsigns
      cases h
      exact ⟨envelope, key, hopen, hkey, hsigns⟩
    · cases h
  · rintro ⟨envelope, key, hopen, hkey, hsigns⟩
    refine ⟨(envelope, document), hopen, key, hkey, ?_⟩
    rw [if_pos hsigns]
    rfl

/-- Everything that makes a document trustworthy. The first entry of the header that gives an
algorithm gives ECDSA on P-384 with SHA-384; the certificates are valid in the second of `now`; the
signature is two scalars of fixed length over the structure that stands for the message. -/
structure Evidence (root : Fingerprint) (input : Bytes) (now : Instant) (document : Document) where
  envelope : Envelope
  unprotected : List (Cbor.Value × Cbor.Value)
  message : Cbor.Value.decode input = some (envelope.message unprotected) ∨
    Cbor.Value.decode input = some (.tag 18 (envelope.message unprotected))
  before : List (Cbor.Value × Cbor.Value)
  after : List (Cbor.Value × Cbor.Value)
  header : Cbor.Value.decode envelope.protectedHeader =
    some (.map (before ++ (.integer 1, .integer (-35)) :: after))
  header_first : ∀ other, (Cbor.Value.integer 1, Cbor.Value.integer other) ∉ before
  payload : Payload.decode envelope.payload = .ok document
  wellFormed : document.WellFormed
  signing : Certificate
  signing_parsed : Certificate.parse? document.certificate = some signing
  bundle : List Certificate
  bundle_parsed : List.Forall₂ (fun der certificate ↦ Certificate.parse? der = some certificate)
    document.cabundle bundle
  epoch : 0 ≤ now.nanos
  valid : ∀ certificate ∈ bundle ++ [signing],
    certificate.notBefore ≤ now.nanos / 1000000000 ∧ now.nanos / 1000000000 ≤ certificate.notAfter
  pinned : ∃ der rest, document.cabundle = der :: rest ∧ sha256 der = root.bytes
  chain : SignedChain bundle signing
  point : Curve.Point
  point_read : Curve.p384.point? signing.key.bits = some point
  length_signature : envelope.signature.length = 96
  accepted : Ecdsa.accepts .p384 point (sha384 envelope.signedBytes)
    (Bytes.toNat (envelope.signature.take 48)) (Bytes.toNat (envelope.signature.drop 48)) = true

/-- A document is trusted exactly if there is all the evidence for it. -/
theorem verify_eq_ok_iff_evidence (root : Fingerprint) (input : Bytes) (now : Instant)
    (document : Document) :
    verify root input now = .ok document ↔ Nonempty (Evidence root input now document) := by
  simp only [verify_eq_ok_iff, open?_eq_ok_iff, checkCertificates_eq_ok_iff, signs_iff,
    Envelope.decode_eq_ok_iff, Envelope.checkAlgorithm_eq_ok_iff,
    Envelope.headerAlgorithm_eq_ok_iff]
  constructor
  · rintro ⟨envelope, key,
      ⟨⟨unprotected, hmessage⟩, ⟨before, after, hheader, hfirst⟩, hpayload, hshape⟩,
      ⟨signing, bundle, seconds, hsigning, hbundle, hseconds, hvalid, hpinned, hchain, rfl⟩,
      hlength, point, hpoint, haccepted⟩
    obtain ⟨hepoch, hnow⟩ := Instant.seconds?_eq_some_iff.1 hseconds
    exact ⟨⟨envelope, unprotected, hmessage, before, after, hheader, hfirst, hpayload, hshape,
      signing, hsigning, bundle, hbundle, hepoch, hnow ▸ hvalid, hpinned, hchain, point, hpoint,
      hlength, haccepted⟩⟩
  · rintro ⟨e⟩
    obtain ⟨seconds, hnow⟩ := Int.eq_ofNat_of_zero_le
      (Int.ediv_nonneg e.epoch (by decide : (0 : Int) ≤ 1000000000))
    have hseconds := Instant.seconds?_eq_some_iff.2 ⟨e.epoch, hnow.symm⟩
    exact ⟨e.envelope, e.signing.key,
      ⟨⟨e.unprotected, e.message⟩, ⟨e.before, e.after, e.header, e.header_first⟩, e.payload,
        e.wellFormed⟩,
      ⟨e.signing, e.bundle, seconds, e.signing_parsed, e.bundle_parsed, hseconds, hnow ▸ e.valid,
        e.pinned, e.chain, rfl⟩,
      e.length_signature, e.point, e.point_read, e.accepted⟩

end Verifier

end AttestedUplink
