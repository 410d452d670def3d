import AttestedUplink.Attestation.Document
import AttestedUplink.Cbor.Value

namespace AttestedUplink

/-!
# Payloads

The payload of a signed message is a CBOR map with the nine fields of a document by name. Fields
may come in any order, and fields of other names are skipped. No field may come twice, and all but
the last three must be there.
-/

namespace Payload

/-- The fields of a document, in the order in which a missing one is reported. -/
inductive Field
  | moduleId
  | digest
  | timestamp
  | pcrs
  | certificate
  | cabundle
  | publicKey
  | userData
  | nonce
  deriving Repr, DecidableEq

def Field.name : Field → String
  | .moduleId => "module_id"
  | .digest => "digest"
  | .timestamp => "timestamp"
  | .pcrs => "pcrs"
  | .certificate => "certificate"
  | .cabundle => "cabundle"
  | .publicKey => "public_key"
  | .userData => "user_data"
  | .nonce => "nonce"

def Field.all : List Field :=
  [.moduleId, .digest, .timestamp, .pcrs, .certificate, .cabundle, .publicKey, .userData, .nonce]

inductive Defect
  | unreadable
  | missing (field : Field)
  | duplicate (field : Field)
  deriving Repr, DecidableEq

def Defect.message : Defect → String
  | .unreadable => "invalid payload"
  | .missing field => s!"invalid payload: missing field \x60{field.name}\x60"
  | .duplicate field => s!"invalid payload: duplicate field \x60{field.name}\x60"

structure Fields where
  moduleId : Option String := none
  digest : Option String := none
  timestamp : Option UInt64 := none
  pcrs : Option MeasurementSet := none
  certificate : Option Bytes := none
  cabundle : Option (List Bytes) := none
  publicKey : Option (Option Bytes) := none
  userData : Option (Option Bytes) := none
  nonce : Option (Option Bytes) := none

def Fields.has (fields : Fields) : Field → Bool
  | .moduleId => fields.moduleId.isSome
  | .digest => fields.digest.isSome
  | .timestamp => fields.timestamp.isSome
  | .pcrs => fields.pcrs.isSome
  | .certificate => fields.certificate.isSome
  | .cabundle => fields.cabundle.isSome
  | .publicKey => fields.publicKey.isSome
  | .userData => fields.userData.isSome
  | .nonce => fields.nonce.isSome

/-- The head of the item that a byte string starts with, without its tags. There are fewer tags than
octets in `bound`. -/
def untaggedFrom : (bound : Bytes) → Bytes → Option (Cbor.Head × Bytes)
  | [], _ => none
  | _ :: bound, input =>
    match Cbor.Head.read input with
    | some (.tag _, rest) => untaggedFrom bound rest
    | head => head

def untagged (input : Bytes) : Option (Cbor.Head × Bytes) := untaggedFrom input input

/-- The octets of a number that is written as a byte string: at most sixteen without leading
zeros. -/
def readBignum (input : Bytes) : Option (Nat × Bytes) :=
  match Cbor.Head.read input with
  | some (.bytes len, rest) =>
    match Cbor.readBytes len rest with
    | none => none
    | some (octets, rest) =>
      let significant := octets.dropWhile (· = 0)
      if significant.length ≤ Cbor.maxBignumLen then some (Bytes.toNat significant, rest) else none
  | _ => none

/-- Reads a number that is not negative, written as an integer or as a byte string under its tag.
Other tags before it are skipped; there are fewer of them than octets in `bound`. -/
def readUnsigned : (bound : Bytes) → Bytes → Option (Nat × Bytes)
  | [], _ => none
  | _ :: bound, input =>
    match Cbor.Head.read input with
    | some (.unsigned n, rest) => some (n, rest)
    | some (.tag number, rest) =>
      if number = Cbor.positiveTag then readBignum rest
      else if number = Cbor.negativeTag then none
      else readUnsigned bound rest
    | _ => none

def readBelow (bound : Nat) (input : Bytes) : Option (Nat × Bytes) :=
  (readUnsigned input input).filter fun (n, _) => n < bound

def readText (input : Bytes) : Option (String × Bytes) :=
  match untagged input with
  | some (.text len, rest) => Cbor.readText len rest
  | _ => none

/-- Reads octets: a byte string, or an array of numbers below 256. -/
def readOctets (levels : Nat) (input : Bytes) : Option (Bytes × Bytes) :=
  match untagged input with
  | some (.bytes len, rest) => Cbor.readBytes len rest
  | some (.array len, rest) =>
    if levels = 0 then none
    else
      (Cbor.readMany (readBelow 256) len rest).map fun (ns, rest) => (ns.map UInt8.ofNat, rest)
  | _ => none

/-- Reads octets that may be null. A null has no tags. -/
def readOptional (levels : Nat) (input : Bytes) : Option (Option Bytes × Bytes) :=
  match Cbor.Head.read input with
  | some (.simple 22, rest) => some (none, rest)
  | some (.simple 23, rest) => some (none, rest)
  | _ => (readOctets levels input).map fun (octets, rest) => (some octets, rest)

/-- Reads a list of octets: an array of them, or an empty byte string. -/
def readOctetsList (levels : Nat) (input : Bytes) : Option (List Bytes × Bytes) :=
  match untagged input with
  | some (.array len, rest) =>
    if levels = 0 then none else Cbor.readMany (readOctets (levels - 1)) len rest
  | some (.bytes len, rest) =>
    match Cbor.readBytes len rest with
    | some ([], rest) => some ([], rest)
    | _ => none
  | _ => none

def readMeasurements (levels : Nat) (input : Bytes) : Option (MeasurementSet × Bytes) :=
  match untagged input with
  | some (.map len, rest) =>
    if levels = 0 then none
    else
      let entry := Cbor.readPair (readBelow (Bytes.capacity 8)) (readOctets (levels - 1))
      (Cbor.readMany entry len rest).map fun (entries, rest) =>
        (MeasurementSet.ofList entries, rest)
  | _ => none

def readField (levels : Nat) (fields : Fields) (field : Field) (input : Bytes) :
    Option (Fields × Bytes) :=
  match field with
  | .moduleId => (readText input).map fun (v, rest) => ({ fields with moduleId := some v }, rest)
  | .digest => (readText input).map fun (v, rest) => ({ fields with digest := some v }, rest)
  | .timestamp => (readBelow (Bytes.capacity 8) input).map fun (n, rest) =>
    ({ fields with timestamp := some (UInt64.ofNat n) }, rest)
  | .pcrs => (readMeasurements levels input).map fun (v, rest) =>
    ({ fields with pcrs := some v }, rest)
  | .certificate => (readOctets levels input).map fun (v, rest) =>
    ({ fields with certificate := some v }, rest)
  | .cabundle => (readOctetsList levels input).map fun (v, rest) =>
    ({ fields with cabundle := some v }, rest)
  | .publicKey => (readOptional levels input).map fun (v, rest) =>
    ({ fields with publicKey := some v }, rest)
  | .userData => (readOptional levels input).map fun (v, rest) =>
    ({ fields with userData := some v }, rest)
  | .nonce => (readOptional levels input).map fun (v, rest) =>
    ({ fields with nonce := some v }, rest)

def maxKeyLen : Nat := 4096

def Field.ofName? (name : Bytes) : Option Field :=
  Field.all.find? fun field => Bytes.ofText field.name = name

/-- Reads a key: a text or a byte string of closed length that is not too long. The octets of a text
are UTF-8. -/
def readKey (input : Bytes) : Option (Bytes × Bytes) :=
  match untagged input with
  | some (.bytes (some len), rest) => if len ≤ maxKeyLen then Bytes.split? len rest else none
  | some (.text (some len), rest) =>
    if len ≤ maxKeyLen then
      (Bytes.split? len rest).filter fun (octets, _) => (Bytes.toText? octets).isSome
    else none
  | _ => none

/-- Reads an entry. The value of a field of another name is any value within the limit of
nesting. -/
def readEntry (levels : Nat) (fields : Fields) (input : Bytes) : Except Defect (Fields × Bytes) :=
  match readKey input with
  | none => .error .unreadable
  | some (name, rest) =>
    match Field.ofName? name with
    | none =>
      match Cbor.Value.read levels rest with
      | some (_, rest) => .ok (fields, rest)
      | none => .error .unreadable
    | some field =>
      if fields.has field then .error (.duplicate field)
      else
        match readField levels fields field rest with
        | some read => .ok read
        | none => .error .unreadable

def readCounted (levels : Nat) : (count : Nat) → Fields → Bytes → Except Defect Fields
  | 0, fields, _ => .ok fields
  | count + 1, fields, input =>
    match readEntry levels fields input with
    | .ok (fields, rest) => readCounted levels count fields rest
    | .error defect => .error defect

/-- Reads entries up to a break on top of the fields read before. There are fewer entries than
octets in `bound`. -/
def readOpen (levels : Nat) : (bound : Bytes) → Fields → Bytes → Except Defect Fields
  | [], _, _ => .error .unreadable
  | _ :: _, fields, 0xFF :: _ => .ok fields
  | _ :: bound, fields, input =>
    match readEntry levels fields input with
    | .ok (fields, rest) => readOpen levels bound fields rest
    | .error defect => .error defect

def readEntries (levels : Nat) (len : Option Nat) (input : Bytes) : Except Defect Fields :=
  match len with
  | some count => readCounted levels count {} input
  | none => readOpen levels input {} input

def require {α : Type} (field : Field) : Option α → Except Defect α
  | some value => .ok value
  | none => .error (.missing field)

def Fields.toDocument (fields : Fields) : Except Defect Document := do
  let moduleId ← require .moduleId fields.moduleId
  let digest ← require .digest fields.digest
  let timestamp ← require .timestamp fields.timestamp
  let measurements ← require .pcrs fields.pcrs
  let certificate ← require .certificate fields.certificate
  let cabundle ← require .cabundle fields.cabundle
  return {
    moduleId, digest, timestamp, measurements, certificate, cabundle
    publicKey := fields.publicKey.join
    userData := fields.userData.join
    nonce := fields.nonce.join }

/-- The document that a payload spells. What follows the map is left over. -/
def decode (input : Bytes) : Except Defect Document :=
  match untagged input with
  | some (.map len, rest) => do
    let fields ← readEntries (Cbor.maxNesting - 1) len rest
    fields.toDocument
  | _ => .error .unreadable

end Payload

end AttestedUplink
