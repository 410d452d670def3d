import AttestedUplink.Attestation.Document
import AttestedUplink.Fault

namespace AttestedUplink

/-!
# Attesting and checking each other

An attestor asks its own source for documents, verifies local and remote ones, and decides whether
the other side runs the same measured software. The measurements of the local document that was
verified last are kept in a cache.
-/

/-- Where documents are asked for. The answer may depend on how many were asked for before. -/
abbrev DocumentSource := (number : Nat) → DocumentRequest → Except Fault Bytes

abbrev DocumentVerifier := Bytes → Instant → Except Fault Document

/-- The system clock. It is read only after a document was asked for, so what it shows is given by
the number of documents that were asked for until then. It may go backwards. -/
structure Clock where
  reading : (asked : Nat) → Instant

/-- A moment stands for the clock that stands still at it. -/
instance : Coe Instant Clock := ⟨fun now => ⟨fun _ => now⟩⟩

structure Attestor where
  source : DocumentSource
  verifier : DocumentVerifier
  clock : Clock

structure Attestor.State where
  requests : List DocumentRequest := []
  /-- The measurements of the local document that was verified last. -/
  cache : Option MeasurementSet := none
  deriving DecidableEq

inductive CrossCheck
  | trusted (measurements : MeasurementSet)
  | localFailed (cause : Fault)
  | remoteFailed (cause : Fault)
  | nonceMismatch
  | measurementMismatch (differing : List Nat)
  deriving DecidableEq

inductive StartupCheck
  | verified
  | skipped
  | failed
  deriving Repr, DecidableEq

def CrossCheck.isTrusted : CrossCheck → Bool
  | .trusted _ => true
  | _ => false

/-- What a check means at the start: nothing is lost where there is no attestation interface. -/
def CrossCheck.atStartup : CrossCheck → StartupCheck
  | .trusted _ => .verified
  | .localFailed cause | .remoteFailed cause =>
    if cause.kind = .attestationUnavailable then .skipped else .failed
  | _ => .failed

namespace Attestor

def unboundLocal : Fault :=
  ⟨.malformedDocument, "local document is not bound to the requested nonce"⟩

variable (attestor : Attestor)

def request (request : DocumentRequest) : StateM State (Except Fault Bytes) := fun state =>
  (attestor.source state.requests.length request,
    { state with requests := state.requests ++ [request] })

/-- What the system clock shows. -/
def now : StateM State Instant := fun state =>
  (attestor.clock.reading state.requests.length, state)

def checkLocal (nonce raw : Bytes) (now : Instant) : Except Fault MeasurementSet := do
  let document ← attestor.verifier raw now
  if document.isFresh nonce then return document.measurements else throw unboundLocal

/-- Asks for a local document bound to a nonce, verifies it, and keeps its measurements. -/
def verifyLocal (nonce : Bytes) : StateM State (Except Fault MeasurementSet) := do
  match ← attestor.request (.withNonce nonce) with
  | .error fault => return .error fault
  | .ok raw =>
    match attestor.checkLocal nonce raw (← attestor.now) with
    | .error fault => return .error fault
    | .ok measurements =>
      modify fun state => { state with cache := some measurements }
      return .ok measurements

def verifyRemote (raw nonce : Bytes) (now : Instant) : Except Fault (MeasurementSet × Bool) := do
  let document ← attestor.verifier raw now
  return (document.measurements, document.isFresh nonce)

def conclude (own remote : MeasurementSet) (fresh : Bool) : CrossCheck :=
  if !fresh then .nonceMismatch
  else if own.agrees remote then .trusted own
  else .measurementMismatch (own.differing remote)

def crossCheck (localNonce remoteDocument remoteNonce : Bytes) (now : Instant) :
    StateM State CrossCheck := do
  match ← attestor.verifyLocal localNonce with
  | .error fault => return .localFailed fault
  | .ok own =>
    match attestor.verifyRemote remoteDocument remoteNonce now with
    | .error fault => return .remoteFailed fault
    | .ok (remote, fresh) => return conclude own remote fresh

/-- Checks the own enclave against a second document from its own source. The nonce of the local
document is drawn first; the document that plays the remote part is asked for first. -/
def selfCheck (supply : Nat → UInt8) (nonceLen : Nat) : StateM State CrossCheck := do
  let localNonce := Nonce.draw supply 0 nonceLen
  let remoteNonce := Nonce.draw supply nonceLen nonceLen
  match ← attestor.request (.withNonce remoteNonce) with
  | .error fault => return .remoteFailed fault
  | .ok remote => attestor.crossCheck localNonce remote remoteNonce (← attestor.now)

def startupCheck (supply : Nat → UInt8) (nonceLen : Nat) : StateM State StartupCheck :=
  CrossCheck.atStartup <$> attestor.selfCheck supply nonceLen

inductive Operation
  | request (request : DocumentRequest)
  | verifyLocal (nonce : Bytes)
  | verifyRemote (raw nonce : Bytes) (now : Instant)
  | crossCheck (localNonce remoteDocument remoteNonce : Bytes) (now : Instant)
  | selfCheck (nonceLen : Nat)
  | startupCheck (nonceLen : Nat)

inductive Reply
  | document (raw : Except Fault Bytes)
  | measurements (own : Except Fault MeasurementSet)
  | remote (verified : Except Fault (MeasurementSet × Bool))
  | check (outcome : CrossCheck)
  | startup (outcome : StartupCheck)

def perform (supply : Nat → UInt8) : Operation → StateM State Reply
  | .request request => .document <$> attestor.request request
  | .verifyLocal nonce => .measurements <$> attestor.verifyLocal nonce
  | .verifyRemote raw nonce now => return .remote (attestor.verifyRemote raw nonce now)
  | .crossCheck localNonce remoteDocument remoteNonce now =>
    .check <$> attestor.crossCheck localNonce remoteDocument remoteNonce now
  | .selfCheck nonceLen => .check <$> attestor.selfCheck supply nonceLen
  | .startupCheck nonceLen => .startup <$> attestor.startupCheck supply nonceLen

end Attestor

end AttestedUplink
