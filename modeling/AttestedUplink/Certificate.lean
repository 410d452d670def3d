import AttestedUplink.Certificate.Name
import AttestedUplink.Certificate.Time

namespace AttestedUplink

/-!
# Certificates

Of an X.509 certificate only the parts are kept that verification looks at. The others have to be
readable but are not checked against each other.
-/

structure PublicKeyInfo where
  /-- The element that follows the identifier of the key's algorithm, if there is one. -/
  parameters : Option Der.Element
  bits : Bytes
  deriving Repr, DecidableEq

structure Certificate where
  signed : Bytes
  subject : CertificateName
  /-- The first second of validity, since the Unix epoch. -/
  notBefore : Int
  /-- The last second of validity, since the Unix epoch. -/
  notAfter : Int
  key : PublicKeyInfo
  algorithm : Oid
  signature : Bytes
  deriving Repr, DecidableEq

namespace Certificate

def algorithmReader : Der.Reader (Oid × Option Der.Element) :=
  Der.nested Der.sequenceType do
    let oid ← Der.primitive
    let parameters ← Der.optional fun _ => true
    return (oid, parameters)

/-- Takes the version, which stands in a wrapper of its own, if it is there. -/
def versionReader : Der.Reader Unit := do
  match ← Der.optional fun h => h.isContextSpecific && h.tagNumber = 0 with
  | none => return
  | some wrapper =>
    let version ← StateT.lift (Der.within Der.natural wrapper.content)
    guard (version < Bytes.capacity 4)

def validityReader : Der.Reader (Int × Int) :=
  Der.nested Der.sequenceType do
    let notBefore ← CertificateTime.reader
    let notAfter ← CertificateTime.reader
    return (notBefore, notAfter)

def keyReader : Der.Reader PublicKeyInfo :=
  Der.nested Der.sequenceType do
    let (_, parameters) ← algorithmReader
    let bits ← Der.bitString
    return ⟨parameters, bits⟩

def uniqueIdReader (number : Nat) : Der.Reader Unit := do
  match ← Der.optional fun h => h.isContextSpecific && h.tagNumber = number with
  | none => return
  | some e => guard (!e.content.isEmpty)

def extensionReader : Der.Reader Unit :=
  Der.nested Der.sequenceType do
    let _ ← Der.primitive
    let _ ← Der.optional fun h => h.tagNumber = Der.booleanType && h.length = some 1
    let _ ← Der.primitiveOf Der.octetStringType

/-- Takes the extensions, if anything is left: the start of a wrapper, and a sequence of extensions
after which nothing follows. The length of the wrapper does not count. -/
def extensionsReader : Der.Reader Unit := do
  if (← get).isEmpty then return
  let wrapper ← Der.header
  guard (wrapper.tagNumber = 3)
  let content ← Der.contentOf Der.sequenceType
  guard ((Der.manyFrom extensionReader content [] content).2.isEmpty ∧ (← get).isEmpty)

structure Signed where
  subject : CertificateName
  notBefore : Int
  notAfter : Int
  key : PublicKeyInfo

def signedReader : Der.Reader Signed := do
  versionReader
  Der.skip Der.integerType
  let _ ← algorithmReader
  let _ ← CertificateName.reader
  let (notBefore, notAfter) ← validityReader
  let subject ← CertificateName.reader
  let key ← keyReader
  uniqueIdReader 1
  uniqueIdReader 2
  extensionsReader
  return { subject, notBefore, notAfter, key }

def reader : Der.Reader Certificate :=
  Der.nested Der.sequenceType do
    let e ← Der.tagged Der.sequenceType
    let parts ← StateT.lift (Der.within signedReader e.content)
    let (algorithm, _) ← algorithmReader
    let signature ← Der.bitString
    return {
      signed := e.encoded
      subject := parts.subject
      notBefore := parts.notBefore
      notAfter := parts.notAfter
      key := parts.key
      algorithm, signature }

def parse? (der : Bytes) : Option Certificate := Der.within reader der

end Certificate

end AttestedUplink
