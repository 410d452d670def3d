import AttestedUplink.Cbor.Value

namespace AttestedUplink

/-!
# Signed messages

A signed message is an array of four items, which may stand under one tag: the protected header and
the payload as byte strings, with an unprotected header between them, and the signature. What is
signed is not the message but a structure that holds the two byte strings as they were sent.
-/

structure Envelope where
  protectedHeader : Bytes
  payload : Bytes
  signature : Bytes
  deriving Repr, DecidableEq

namespace Envelope

def messageTag : Nat := 18

def algorithmLabel : Int := 1

/-- The one algorithm that is accepted: ECDSA on P-384 with SHA-384. -/
def es384 : Int := -35

inductive Part
  | protectedHeader
  | payload
  | signature
  deriving Repr, DecidableEq

inductive Defect
  | badCbor
  | notFourItems
  | notBytes (part : Part)
  | unprotectedNotMap
  | badHeader
  | headerNotMap
  | noAlgorithm
  | unsupportedAlgorithm (algorithm : Int)
  deriving Repr, DecidableEq

def Part.name : Part → String
  | .protectedHeader => "protected header"
  | .payload => "payload"
  | .signature => "signature"

def Defect.message : Defect → String
  | .badCbor => "invalid CBOR"
  | .notFourItems => "expected a 4-element COSE_Sign1 array"
  | .notBytes part => s!"{part.name} is not a byte string"
  | .unprotectedNotMap => "unprotected header is not a map"
  | .badHeader => "invalid protected header"
  | .headerNotMap => "protected header is not a map"
  | .noAlgorithm => "protected header has no algorithm"
  | .unsupportedAlgorithm algorithm => s!"unsupported signature algorithm {algorithm}"

def untag : Cbor.Value → Cbor.Value
  | .tag number value => if number = messageTag then value else .tag number value
  | value => value

def expectBytes (part : Part) : Cbor.Value → Except Defect Bytes
  | .bytes octets => .ok octets
  | _ => .error (.notBytes part)

def ofValue (value : Cbor.Value) : Except Defect Envelope :=
  match untag value with
  | .array [protectedHeader, unprotectedHeader, payload, signature] => do
    let protectedHeader ← expectBytes .protectedHeader protectedHeader
    match unprotectedHeader with
    | .map _ => pure ()
    | _ => throw .unprotectedNotMap
    let payload ← expectBytes .payload payload
    let signature ← expectBytes .signature signature
    return { protectedHeader, payload, signature }
  | _ => .error .notFourItems

def decode (input : Bytes) : Except Defect Envelope :=
  match Cbor.Value.decode input with
  | none => .error .badCbor
  | some value => ofValue value

def entryAlgorithm? : Cbor.Value × Cbor.Value → Option Int
  | (.integer label, .integer algorithm) =>
    if label = algorithmLabel then some algorithm else none
  | _ => none

/-- The algorithm that a protected header names: the first entry that gives one counts. -/
def headerAlgorithm (protectedHeader : Bytes) : Except Defect Int :=
  match Cbor.Value.decode protectedHeader with
  | none => .error .badHeader
  | some (.map entries) =>
    match entries.findSome? entryAlgorithm? with
    | some algorithm => .ok algorithm
    | none => .error .noAlgorithm
  | some _ => .error .headerNotMap

def checkAlgorithm (envelope : Envelope) : Except Defect Unit := do
  let algorithm ← headerAlgorithm envelope.protectedHeader
  if algorithm = es384 then return else throw (.unsupportedAlgorithm algorithm)

def signedValue (envelope : Envelope) : Cbor.Value :=
  .array [.text "Signature1", .bytes envelope.protectedHeader, .bytes [],
    .bytes envelope.payload]

def signedBytes (envelope : Envelope) : Bytes := envelope.signedValue.write

end Envelope

end AttestedUplink
