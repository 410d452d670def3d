import AttestedUplink.Certificate.AttributeLabel
import AttestedUplink.Der

namespace AttestedUplink

/-!
# Names in certificates

A name is a sequence of sets of attributes. Reading stops at the first set that cannot be read, and
within a set at the first such attribute, and keeps what came before.
-/

structure CertificateName.Attribute where
  oid : Oid
  value : Der.Element
  deriving Repr, DecidableEq

structure CertificateName where
  sets : List (List CertificateName.Attribute)
  deriving Repr, DecidableEq

namespace CertificateName

def attributeReader : Der.Reader Attribute :=
  Der.nested Der.sequenceType do
    let oid ← Der.primitive
    let value ← Der.element
    return ⟨oid, value⟩

def setReader : Der.Reader (List Attribute) :=
  Der.nested Der.setType do
    let attributes ← Der.many attributeReader
    guard (!attributes.isEmpty)
    return attributes

def reader : Der.Reader CertificateName :=
  Der.nested Der.sequenceType (CertificateName.mk <$> Der.many setReader)

def textTypes : List Nat := [7, 12, 18, 19, 20, 21, 22, 25, 26, 27]

def wideTextType : Nat := 30

/-- The units of sixteen bits in a byte string; a last odd octet is a unit of its own. -/
def units : Bytes → List Nat
  | high :: low :: rest => (high.toNat * 256 + low.toNat) :: units rest
  | [last] => [last.toNat]
  | [] => []

/-- The text that units of sixteen bits spell, if every surrogate is part of a pair. -/
def ofUnits? : List Nat → Option (List Char)
  | [] => some []
  | u :: rest =>
    if u < 0xD800 ∨ 0xE000 ≤ u then (ofUnits? rest).map (Char.ofNat u :: ·)
    else if 0xDC00 ≤ u then none
    else
      match rest with
      | v :: rest =>
        if 0xDC00 ≤ v ∧ v < 0xE000 then
          (ofUnits? rest).map (Char.ofNat (0x10000 + (u - 0xD800) * 0x400 + (v - 0xDC00)) :: ·)
        else none
      | [] => none

/-- The text of a value; values that are no text show their octets. -/
def valueText? (value : Der.Element) : Option String :=
  if value.tagNumber ∈ textTypes then Bytes.toText? value.content
  else if value.tagNumber = wideTextType then (ofUnits? (units value.content)).map String.ofList
  else some (Hex.encodeUpper value.content)

def Attribute.text? (a : Attribute) : Option String :=
  (valueText? a.value).map fun value => s!"{a.oid.label}={value}"

/-- Puts texts together. Nothing stands between an empty text and the next one. -/
def join (sep : String) (texts : List String) : String :=
  texts.foldl (fun done next => if done = "" then next else done ++ sep ++ next) ""

def setText? (attributes : List Attribute) : Option String :=
  (attributes.mapM Attribute.text?).map (join " + ")

def text? (name : CertificateName) : Option String :=
  (name.sets.mapM setText?).map (join ", ")

def display (name : CertificateName) : String :=
  name.text?.getD "<X509Error: Invalid X.509 name>"

end CertificateName

end AttestedUplink
