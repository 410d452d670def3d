import AttestedUplink.Measurement.Set

namespace AttestedUplink

/-!
# Attestation documents

A document says what an enclave measures and may be bound to a nonce, to data and to a key of the
requester's choice. It counts for a time that is measured from the Unix epoch.
-/

structure Document where
  moduleId : String
  digest : String
  /-- Milliseconds since the Unix epoch. -/
  timestamp : UInt64
  measurements : MeasurementSet
  certificate : Bytes
  /-- The certificates from the root down to the issuer of the signing certificate. -/
  cabundle : List Bytes
  publicKey : Option Bytes
  userData : Option Bytes
  nonce : Option Bytes
  deriving DecidableEq

structure DocumentRequest where
  nonce : Option Bytes := none
  userData : Option Bytes := none
  publicKey : Option Bytes := none
  deriving Repr, DecidableEq

namespace DocumentRequest

def withNonce (nonce : Bytes) : DocumentRequest := { nonce := some nonce }

end DocumentRequest

namespace Document

/-- Whether a document carries exactly the expected nonce. One without a nonce is never fresh. -/
def isFresh (document : Document) (expected : Bytes) : Bool := document.nonce = some expected

structure Summary where
  moduleId : String
  digest : String
  timestamp : UInt64
  pcrs : List (Nat × String)
  nonce : Option String
  userData : Option String
  publicKey : Option String
  certificateLen : Nat
  cabundleLen : Nat
  deriving DecidableEq

def summary (document : Document) : Summary where
  moduleId := document.moduleId
  digest := document.digest
  timestamp := document.timestamp
  pcrs := document.measurements.hexEntries
  nonce := document.nonce.map Hex.encode
  userData := document.userData.map Hex.encode
  publicKey := document.publicKey.map Hex.encode
  certificateLen := document.certificate.length
  cabundleLen := document.cabundle.length

end Document

/-!
### Nonces

Nonces are drawn from a supply of random octets. Each draw uses the octets after those of the draw
before.
-/

namespace Nonce

/-- The nonce of `len` octets that starts at a position of the supply. -/
def draw (supply : Nat → UInt8) (position len : Nat) : Bytes :=
  (List.range len).map fun i => supply (position + i)

@[simp] theorem length_draw (supply : Nat → UInt8) (position len : Nat) :
    (draw supply position len).length = len := by
  simp [draw]

end Nonce

/-!
### Moments

A moment is measured from the Unix epoch and may lie before it.
-/

/-- A moment, in nanoseconds since the Unix epoch. -/
structure Instant where
  nanos : Int
  deriving Repr, DecidableEq

namespace Instant

def nanosPerSecond : Nat := 1000000000

def of (seconds : Int) (nanos : Nat) : Instant := ⟨seconds * nanosPerSecond + nanos⟩

/-- The whole seconds since the epoch, unless the moment lies before it. -/
def seconds? (now : Instant) : Option Nat :=
  if 0 ≤ now.nanos then some (now.nanos.toNat / nanosPerSecond) else none

end Instant

end AttestedUplink
