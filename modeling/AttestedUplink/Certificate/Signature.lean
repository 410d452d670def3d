import AttestedUplink.Certificate
import AttestedUplink.Signature

namespace AttestedUplink

/-!
# Signatures of certificates

The algorithm of a certificate's signature says how it is checked under the key of the issuer. For
ECDSA the curve is the one that the issuer's key names.
-/

namespace Certificate

inductive SignatureDefect
  | unsupportedAlgorithm
  | badSignature
  deriving Repr, DecidableEq

def SignatureDefect.message : SignatureDefect → String
  | .unsupportedAlgorithm => "signature unsupported algorithm"
  | .badSignature => "signature verification error"

inductive Scheme
  | rsa (digest : DigestAlgorithm)
  | ecdsa (digest : DigestAlgorithm)
  | ed25519
  deriving Repr, DecidableEq

def schemes : List (Oid × Scheme) :=
  [(Oid.ofNumbers [1, 2, 840, 113549, 1, 1, 5], .rsa .sha1),
   (Oid.ofNumbers [1, 3, 14, 3, 2, 29], .rsa .sha1),
   (Oid.ofNumbers [1, 2, 840, 113549, 1, 1, 11], .rsa .sha256),
   (Oid.ofNumbers [1, 2, 840, 113549, 1, 1, 12], .rsa .sha384),
   (Oid.ofNumbers [1, 2, 840, 113549, 1, 1, 13], .rsa .sha512),
   (Oid.ofNumbers [1, 2, 840, 10045, 4, 3, 2], .ecdsa .sha256),
   (Oid.ofNumbers [1, 2, 840, 10045, 4, 3, 3], .ecdsa .sha384),
   (Oid.ofNumbers [1, 3, 101, 112], .ed25519)]

def curves : List (Oid × Curve) :=
  [(Oid.ofNumbers [1, 2, 840, 10045, 3, 1, 7], .p256),
   (Oid.ofNumbers [1, 3, 132, 0, 34], .p384)]

/-- The fewest bits of an RSA modulus: keys of 1024 bits are good only for SHA-1. -/
def minRsaBits : DigestAlgorithm → Nat
  | .sha1 => 1024
  | _ => 2048

def curve? (key : PublicKeyInfo) : Option Curve := do
  let parameters ← key.parameters
  curves.lookup parameters.content

/-- Whether a signature is good, for an algorithm that is supported. -/
def accepts? (algorithm : Oid) (key : PublicKeyInfo) (message signature : Bytes) : Option Bool := do
  match ← schemes.lookup algorithm with
  | .rsa digest => return Rsa.verify digest (minRsaBits digest) key.bits message signature
  | .ecdsa digest =>
    let curve ← curve? key
    return Ecdsa.verify curve key.bits (digest.digest message) (Ecdsa.readDer? signature)
  | .ed25519 => return Ed25519.verify key.bits message signature

def checkSignature (certificate : Certificate) (issuer : PublicKeyInfo) :
    Except SignatureDefect Unit :=
  match accepts? certificate.algorithm issuer certificate.signed certificate.signature with
  | none => .error .unsupportedAlgorithm
  | some true => .ok ()
  | some false => .error .badSignature

end Certificate

end AttestedUplink
