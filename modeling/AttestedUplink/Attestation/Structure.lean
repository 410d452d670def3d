import AttestedUplink.Attestation.Document

namespace AttestedUplink

/-!
# The shape of documents

A document that can be read must also be well formed before any of its certificates is looked at.
-/

namespace Document

def expectedDigest : String := "SHA384"

def registerCount : Nat := 32

def measurementLens : List Nat := [32, 48, 64]

def maxBoundLen : Nat := 1024

inductive Defect
  | emptyModuleId
  | unexpectedDigest (digest : String)
  | missingTimestamp
  | badRegisterCount (count : Nat)
  | registerOutOfRange (index : Nat)
  | badMeasurementLen (index length : Nat)
  | emptyCertificate
  | emptyBundle
  | emptyBundleEntry (position : Nat)
  | fieldTooLong (name : String)
  deriving Repr, DecidableEq

def Defect.message : Defect → String
  | .emptyModuleId => "empty module_id"
  | .unexpectedDigest digest => s!"unexpected digest {digest}"
  | .missingTimestamp => "missing timestamp"
  | .badRegisterCount count => s!"invalid PCR count {count}"
  | .registerOutOfRange index => s!"PCR index {index} out of range"
  | .badMeasurementLen index length => s!"PCR{index} has invalid length {length}"
  | .emptyCertificate => "empty signing certificate"
  | .emptyBundle => "empty cabundle"
  | .emptyBundleEntry position => s!"cabundle[{position}] is empty"
  | .fieldTooLong name => s!"{name} exceeds {maxBoundLen} bytes"

def measurementDefect? (index : Nat) (value : Bytes) : Option Defect :=
  if registerCount ≤ index then some (.registerOutOfRange index)
  else if value.length ∈ measurementLens then none
  else some (.badMeasurementLen index value.length)

def boundDefect? (name : String) : Option Bytes → Option Defect
  | some value => if maxBoundLen < value.length then some (.fieldTooLong name) else none
  | none => none

/-- The first thing that is wrong with the shape of a document, in the order of its fields. -/
def defect? (document : Document) : Option Defect :=
  if document.moduleId = "" then some .emptyModuleId
  else if document.digest ≠ expectedDigest then some (.unexpectedDigest document.digest)
  else if document.timestamp = 0 then some .missingTimestamp
  else if document.measurements.isEmpty ∨ registerCount < document.measurements.size then
    some (.badRegisterCount document.measurements.size)
  else
    (document.measurements.entries.findSome? fun e => measurementDefect? e.1 e.2).or <|
      if document.certificate = [] then some .emptyCertificate
      else if document.cabundle = [] then some .emptyBundle
      else
        ((document.cabundle.findIdx? (· = [])).map Defect.emptyBundleEntry).or <|
          (boundDefect? "public_key" document.publicKey).or <|
            (boundDefect? "user_data" document.userData).or <|
              boundDefect? "nonce" document.nonce

end Document

end AttestedUplink
