import AttestedUplink.Attestation.Attestor

namespace AttestedUplink

/-!
# Documents by name

For rehearsals, a source answers from a list, and a verifier looks documents up in a table instead
of checking signatures. Such a document is its name, and after a bar the nonce that is bound into
it, in hexadecimal digits.
-/

structure DocumentTable.Entry where
  measurements : MeasurementSet := .empty
  /-- The last second at which the document is accepted. -/
  notAfter : Option Nat := none
  refusal : Option Fault := none
  /-- The nonce that the document carries in place of the one bound into it. -/
  nonce : Option (Option Bytes) := none

abbrev DocumentTable := List (String × DocumentTable.Entry)

namespace DocumentTable

def name (name : String) : (bound : Option Bytes) → Bytes
  | none => Bytes.ofText name
  | some nonce => Bytes.ofText s!"{name}|{Hex.encode nonce}"

def split? (raw : Bytes) : Option (String × Option Bytes) := do
  let cs := (← Bytes.toText? raw).toList
  let before := String.ofList (cs.takeWhile (· ≠ '|'))
  match cs.dropWhile (· ≠ '|') with
  | [] => return (before, none)
  | _ :: digits =>
    match Hex.decode (String.ofList digits) with
    | .ok nonce => return (before, some nonce)
    | .error _ => none

def Entry.document (entry : Entry) (bound : Option Bytes) : Document where
  moduleId := "rehearsal"
  digest := "SHA384"
  timestamp := 1
  measurements := entry.measurements
  certificate := []
  cabundle := []
  publicKey := none
  userData := none
  nonce := entry.nonce.getD bound

/-- Verifies a document by the table: it must be known, not too old, and not refused. -/
def verifier (table : DocumentTable) : DocumentVerifier := fun raw now =>
  let known : Option (Entry × Option Bytes) := do
    let (name, bound) ← split? raw
    let entry ← table.lookup name
    return (entry, bound)
  match known with
  | none => .error ⟨.malformedDocument, "unknown document"⟩
  | some (entry, bound) =>
    if entry.notAfter.any (· < now.seconds?.getD 0) then
      .error ⟨.expiredCertificate, "leaf expired"⟩
    else
      match entry.refusal with
      | some fault => .error fault
      | none => .ok (entry.document bound)

end DocumentTable

inductive RehearsedAnswer
  | fault (cause : Fault)
  | raw (bytes : Bytes)
  /-- A document by its name, with or without the nonce of the request. -/
  | named (name : String) (bind : Bool)

namespace RehearsedAnswer

def give (request : DocumentRequest) : RehearsedAnswer → Except Fault Bytes
  | .fault cause => .error cause
  | .raw bytes => .ok bytes
  | .named name bind => .ok (DocumentTable.name name (if bind then request.nonce else none))

def source (answers : List RehearsedAnswer) : DocumentSource := fun number request =>
  match answers[number]? with
  | some answer => answer.give request
  | none => .error ⟨.attestationUnavailable, "no more documents"⟩

end RehearsedAnswer

end AttestedUplink
