import AttestedUplink.Fault
import AttestedUplink.Text.Quoted
import AttestedUplink.Text.Reading

namespace AttestedUplink

/-!
# Settings of the attestation

The trusted root is pinned by the SHA-256 digest of its encoding, given as hexadecimal text.
-/

/-- A SHA-256 digest: thirty-two octets. -/
structure Fingerprint where
  bytes : Bytes
  length_bytes : bytes.length = 32
  deriving DecidableEq

namespace Fingerprint

inductive Defect
  | notHex (defect : Hex.Defect)
  | badLength
  deriving Repr, DecidableEq

/-- The words for a defect. An octet that is no digit is shown as the character with its code. -/
def Defect.message : Defect → String
  | .notHex .oddLength => "Invalid root fingerprint: Odd number of digits"
  | .notHex (.badOctet octet position) =>
    let shown := Quoted.char (Char.ofNat octet.toNat)
    s!"Invalid root fingerprint: Invalid character {shown} at position {position}"
  | .badLength => "Root fingerprint must be 32 bytes"

def ofBytes? (bytes : Bytes) : Option Fingerprint :=
  if h : bytes.length = 32 then some ⟨bytes, h⟩ else none

def parse (text : String) : Except Defect Fingerprint :=
  match Hex.decode text with
  | .error defect => .error (.notHex defect)
  | .ok bytes =>
    match ofBytes? bytes with
    | some fingerprint => .ok fingerprint
    | none => .error .badLength

end Fingerprint

structure AttestationSettings where
  selfCheck : Bool := true
  nonceLen : UInt64 := 32
  rootSha256 : String := "641a0321a3e244efe456463195d606317ed7cdcc3c1756e09893f3c68f79bb5b"
  deriving DecidableEq

namespace AttestationSettings

def maxNonceLen : UInt64 := 1024

def rootFingerprint (attestation : AttestationSettings) : Except Fault Fingerprint :=
  (Fingerprint.parse attestation.rootSha256).mapError fun defect => ⟨.config, defect.message⟩

end AttestationSettings

end AttestedUplink
