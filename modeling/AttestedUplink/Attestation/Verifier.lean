import AttestedUplink.Attestation.Envelope
import AttestedUplink.Attestation.Document
import AttestedUplink.Attestation.Payload
import AttestedUplink.Attestation.Structure
import AttestedUplink.Certificate.Signature
import AttestedUplink.Fault
import AttestedUplink.Settings.Attestation

namespace AttestedUplink

/-!
# Verification of documents

A signed document is accepted if it is well formed, all of its certificates are valid at the moment,
the first of them is the trusted root, each is signed by the one before it, and the document is
signed by the last. The checks come in this order, so that the first thing that is wrong decides
what is reported: an expired chain is reported as such even when signatures would fail, too.
-/

inductive ChainPlace
  | bundle (position : Nat)
  | signing
  deriving Repr, DecidableEq

namespace ChainPlace

def name : ChainPlace → String
  | .bundle position => s!"cabundle[{position}]"
  | .signing => "signing certificate"

def signatureName : ChainPlace → String
  | .bundle 0 => "root self-signature"
  | .bundle position => s!"cabundle[{position}] signature"
  | .signing => "signing certificate"

end ChainPlace

inductive Rejection
  | envelope (defect : Envelope.Defect)
  | payload (defect : Payload.Defect)
  | shape (defect : Document.Defect)
  | certificate (place : ChainPlace)
  | clockBeforeEpoch
  | notYetValid (subject : String) (notBefore : Int)
  | expired (subject : String) (notAfter : Int)
  | untrustedRoot
  | chainSignature (place : ChainPlace) (defect : Certificate.SignatureDefect)
  | documentSignature
  deriving Repr, DecidableEq

namespace Rejection

def kind : Rejection → Fault.Kind
  | .envelope _ | .payload _ | .shape _ | .certificate _ => .malformedDocument
  | .clockBeforeEpoch => .config
  | .notYetValid .. | .expired .. => .expiredCertificate
  | .untrustedRoot | .chainSignature .. | .documentSignature => .invalidSignature

def message : Rejection → String
  | .envelope defect => defect.message
  | .payload defect => defect.message
  | .shape defect => defect.message
  | .certificate place => s!"invalid {place.name}"
  | .clockBeforeEpoch => "system clock before Unix epoch"
  | .notYetValid subject notBefore => s!"{subject} is not valid before {notBefore}"
  | .expired subject notAfter => s!"{subject} expired at {notAfter}"
  | .untrustedRoot => "root certificate does not match the trusted fingerprint"
  | .chainSignature place defect => s!"{place.signatureName}: {defect.message}"
  | .documentSignature => "document signature does not verify"

def toFault (rejection : Rejection) : Fault := ⟨rejection.kind, rejection.message⟩

end Rejection

namespace Verifier

def readCertificate (place : ChainPlace) (der : Bytes) : Except Rejection Certificate :=
  match Certificate.parse? der with
  | some certificate => .ok certificate
  | none => .error (.certificate place)

def readBundle : (position : Nat) → List Bytes → Except Rejection (List Certificate)
  | _, [] => .ok []
  | position, der :: rest => do
    let certificate ← readCertificate (.bundle position) der
    let certificates ← readBundle (position + 1) rest
    return certificate :: certificates

/-- Checks that a certificate is valid at a second; its first and its last second count. -/
def checkWindow (now : Int) (certificate : Certificate) : Except Rejection Unit :=
  if now < certificate.notBefore then
    .error (.notYetValid certificate.subject.display certificate.notBefore)
  else if certificate.notAfter < now then
    .error (.expired certificate.subject.display certificate.notAfter)
  else .ok ()

def checkWindows (now : Int) : List Certificate → Except Rejection Unit
  | [] => .ok ()
  | certificate :: rest => do
    checkWindow now certificate
    checkWindows now rest

def checkSignature (place : ChainPlace) (issuer : PublicKeyInfo) (certificate : Certificate) :
    Except Rejection Unit :=
  (certificate.checkSignature issuer).mapError (.chainSignature place)

/-- Checks the certificates of a bundle from a position on, each under the key of the one before it,
and then the signing certificate under the key of the last. -/
def checkChain (signing : Certificate) :
    (position : Nat) → (issuer : PublicKeyInfo) → List Certificate → Except Rejection Unit
  | _, issuer, [] => checkSignature .signing issuer signing
  | position, issuer, certificate :: rest => do
    checkSignature (.bundle position) issuer certificate
    checkChain signing (position + 1) certificate.key rest

def checkRoot (root : Fingerprint) (bundle : List Bytes) : Except Rejection Unit :=
  if bundle.head?.map sha256 = some root.bytes then .ok () else .error .untrustedRoot

def checkCertificates (root : Fingerprint) (document : Document) (now : Instant) :
    Except Rejection PublicKeyInfo := do
  let signing ← readCertificate .signing document.certificate
  let bundle ← readBundle 0 document.cabundle
  let seconds ←
    match now.seconds? with
    | some seconds => pure seconds
    | none => throw .clockBeforeEpoch
  checkWindows seconds (bundle ++ [signing])
  checkRoot root document.cabundle
  let rootKey := (bundle.head?.getD signing).key
  checkChain signing 0 rootKey bundle
  return signing.key

def signs (key : PublicKeyInfo) (envelope : Envelope) : Bool :=
  Ecdsa.verify .p384 key.bits (sha384 envelope.signedBytes)
    (Ecdsa.readFixed? .p384 envelope.signature)

/-- The document that an accepted message carries, with the message: everything is checked that does
not need its certificates. -/
def open? (input : Bytes) : Except Rejection (Envelope × Document) := do
  let envelope ← (Envelope.decode input).mapError .envelope
  envelope.checkAlgorithm.mapError .envelope
  let document ← (Payload.decode envelope.payload).mapError .payload
  match document.defect? with
  | some defect => throw (.shape defect)
  | none => return (envelope, document)

/-- The document in a signed message, if it is to be trusted at a moment. -/
def verify (root : Fingerprint) (input : Bytes) (now : Instant) : Except Rejection Document := do
  let (envelope, document) ← open? input
  let key ← checkCertificates root document now
  if signs key envelope then return document else throw .documentSignature

end Verifier

end AttestedUplink
