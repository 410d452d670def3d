namespace AttestedUplink

/-!
# Faults

Everything that can go wrong is reported as a fault: the kind of trouble and the words that say
what happened. The kind decides whether trying again can help.
-/

inductive Fault.Kind
  | transport
  | protocolViolation
  | deviceConfig
  | attestationUnavailable
  | attestationRequestFailed
  | invalidSignature
  | expiredCertificate
  | malformedDocument
  | config
  | io
  | serialization
  deriving Repr, DecidableEq

structure Fault where
  kind : Fault.Kind
  text : String
  deriving Repr, DecidableEq

namespace Fault

def Kind.label : Kind → String
  | .transport => "Transport error"
  | .protocolViolation => "Protocol violation"
  | .deviceConfig => "Device configuration error"
  | .attestationUnavailable => "Attestation interface unavailable"
  | .attestationRequestFailed => "Attestation request failed"
  | .invalidSignature => "Invalid signature"
  | .expiredCertificate => "Expired certificate"
  | .malformedDocument => "Malformed attestation document"
  | .config => "Configuration error"
  | .io => "IO error"
  | .serialization => "Serialization error"

/-- Whether the trouble may pass. A document that was refused stays refused, and so does a bad
setting; connections and devices may recover. -/
def Kind.isRetryable : Kind → Bool
  | .transport | .protocolViolation | .deviceConfig | .io => true
  | _ => false

def display (fault : Fault) : String := fault.kind.label ++ ": " ++ fault.text

def isRetryable (fault : Fault) : Bool := fault.kind.isRetryable

end Fault

end AttestedUplink
