import AttestedUplink.Bytes

namespace AttestedUplink

/-!
# Digests

The digests over which documents and certificates are signed.

### The SHA-2 digests

One construction serves words of 32 and of 64 bits. Its constants are the first fractional bits of
roots of the first primes and are computed from that rule.
-/

namespace Sha2

def primes : List Nat :=
  (List.range 410).filter fun n => 2 ≤ n && (List.range n).all fun d => d < 2 || n % d ≠ 0

/-- The greatest number with `bits` more bits than `low` whose `k`-th power is at most `n`. -/
def rootFrom (k n : Nat) : (bits low : Nat) → Nat
  | 0, low => low
  | bits + 1, low =>
    let high := low + Nat.pow 2 bits
    rootFrom k n bits (if Nat.pow high k ≤ n then high else low)

/-- The first 64 fractional bits of the `k`-th root of a number below `2 ^ (3 * k)`. -/
def fractionBits (k n : Nat) : Nat := rootFrom k (n * Nat.pow 2 (64 * k)) 67 0 % Nat.pow 2 64

class Word (W : Type) extends Add W, AndOp W, XorOp W, Complement W where
  len : Nat
  ofNat : Nat → W
  toNat : W → Nat
  lower0 : W → W
  lower1 : W → W
  upper0 : W → W
  upper1 : W → W
  constants : List W

@[inline] def rotate32 (x : UInt32) (n : UInt32) : UInt32 := x >>> n ||| x <<< (32 - n)

@[inline] def rotate64 (x : UInt64) (n : UInt64) : UInt64 := x >>> n ||| x <<< (64 - n)

def roundConstants : List Nat := primes.map (fractionBits 3)

instance : Word UInt32 where
  len := 4
  ofNat := UInt32.ofNat
  toNat := UInt32.toNat
  lower0 x := rotate32 x 7 ^^^ rotate32 x 18 ^^^ x >>> 3
  lower1 x := rotate32 x 17 ^^^ rotate32 x 19 ^^^ x >>> 10
  upper0 x := rotate32 x 2 ^^^ rotate32 x 13 ^^^ rotate32 x 22
  upper1 x := rotate32 x 6 ^^^ rotate32 x 11 ^^^ rotate32 x 25
  constants := (roundConstants.take 64).map fun k => UInt32.ofNat (k / Nat.pow 2 32)

instance : Word UInt64 where
  len := 8
  ofNat := UInt64.ofNat
  toNat := UInt64.toNat
  lower0 x := rotate64 x 1 ^^^ rotate64 x 8 ^^^ x >>> 7
  lower1 x := rotate64 x 19 ^^^ rotate64 x 61 ^^^ x >>> 6
  upper0 x := rotate64 x 28 ^^^ rotate64 x 34 ^^^ rotate64 x 39
  upper1 x := rotate64 x 14 ^^^ rotate64 x 18 ^^^ rotate64 x 41
  constants := roundConstants.map UInt64.ofNat

structure Chain (W : Type) where
  a : W
  b : W
  c : W
  d : W
  e : W
  f : W
  g : W
  h : W

variable {W : Type} [Word W]

@[specialize] def Chain.round (s : Chain W) (k w : W) : Chain W :=
  let choice := (s.e &&& s.f) ^^^ (~~~s.e &&& s.g)
  let majority := (s.a &&& s.b) ^^^ (s.a &&& s.c) ^^^ (s.b &&& s.c)
  let t := s.h + Word.upper1 s.e + choice + k + w
  ⟨t + Word.upper0 s.a + majority, s.a, s.b, s.c, s.d + t, s.e, s.f, s.g⟩

/-- The rounds for the given constants. The window holds the next sixteen words of the schedule;
each word that is used makes room for a later one. -/
@[specialize] def Chain.rounds (s : Chain W) : (constants window : List W) → Chain W
  | k :: ks, w :: window =>
    let later := Word.lower1 (window.getD 13 w) + window.getD 8 w +
      Word.lower0 (window.getD 0 w) + w
    Chain.rounds (s.round k w) ks (window ++ [later])
  | _, _ => s

@[specialize] def Chain.add (s t : Chain W) : Chain W :=
  ⟨s.a + t.a, s.b + t.b, s.c + t.c, s.d + t.d, s.e + t.e, s.f + t.f, s.g + t.g, s.h + t.h⟩

def Chain.toBytes (s : Chain W) : Bytes :=
  [s.a, s.b, s.c, s.d, s.e, s.f, s.g, s.h].flatMap fun w =>
    Bytes.ofNat (Word.len W) (Word.toNat w)

@[specialize] def takeWords : (count : Nat) → Bytes → List W
  | 0, _ => []
  | count + 1, bytes =>
    Word.ofNat (Bytes.toNat (bytes.take (Word.len W))) ::
      takeWords count (bytes.drop (Word.len W))

def blockLen (W : Type) [Word W] : Nat := 16 * Word.len W

@[specialize] def Chain.absorb (s : Chain W) : (count : Nat) → Bytes → Chain W
  | 0, _ => s
  | count + 1, bytes =>
    Chain.absorb (s.add (s.rounds (Word.constants) (takeWords 16 bytes))) count
      (bytes.drop (blockLen W))

/-- The message with a one bit, zeros, and its length in bits, so that it fills whole blocks. -/
def pad (W : Type) [Word W] (message : Bytes) : Bytes :=
  let used := message.length + 1 + 2 * Word.len W
  let zeros := (blockLen W - used % blockLen W) % blockLen W
  message ++ 0x80 :: List.replicate zeros 0 ++
    Bytes.ofNat (2 * Word.len W) (8 * message.length)

@[specialize] def Chain.digest (s : Chain W) (message : Bytes) : Bytes :=
  let padded := pad W message
  (s.absorb (padded.length / blockLen W) padded).toBytes

def Chain.ofList (ns : List Nat) : Chain W :=
  let word (i : Nat) : W := Word.ofNat (ns.getD i 0)
  ⟨word 0, word 1, word 2, word 3, word 4, word 5, word 6, word 7⟩

def start256 : Chain UInt32 :=
  .ofList ((primes.take 8).map fun p => fractionBits 2 p / Nat.pow 2 32)

def start384 : Chain UInt64 := .ofList (((primes.drop 8).take 8).map (fractionBits 2))

def start512 : Chain UInt64 := .ofList ((primes.take 8).map (fractionBits 2))

theorem Chain.length_toBytes (s : Chain W) : s.toBytes.length = 8 * Word.len W := by
  simp [Chain.toBytes]
  omega

end Sha2

def sha256 (message : Bytes) : Bytes := Sha2.start256.digest message

def sha384 (message : Bytes) : Bytes := (Sha2.start384.digest message).take 48

def sha512 (message : Bytes) : Bytes := Sha2.start512.digest message

@[simp] theorem length_sha256 (message : Bytes) : (sha256 message).length = 32 :=
  Sha2.Chain.length_toBytes _

@[simp] theorem length_sha384 (message : Bytes) : (sha384 message).length = 48 := by
  simp [sha384, Sha2.Chain.digest, Sha2.Chain.length_toBytes, Sha2.Word.len]

@[simp] theorem length_sha512 (message : Bytes) : (sha512 message).length = 64 :=
  Sha2.Chain.length_toBytes _

/-!
### The SHA-1 digest

Certificates may still be signed over this digest. It pads like SHA-256.
-/

namespace Sha1

structure Chain where
  a : UInt32
  b : UInt32
  c : UInt32
  d : UInt32
  e : UInt32

@[inline] def rotateLeft (x n : UInt32) : UInt32 := x <<< n ||| x >>> (32 - n)

def mix (round : Nat) (b c d : UInt32) : UInt32 :=
  if round < 20 then ((b &&& c) ||| (~~~b &&& d)) + 0x5A827999
  else if round < 40 then (b ^^^ c ^^^ d) + 0x6ED9EBA1
  else if round < 60 then ((b &&& c) ||| (b &&& d) ||| (c &&& d)) + 0x8F1BBCDC
  else (b ^^^ c ^^^ d) + 0xCA62C1D6

/-- The last `count` of the eighty rounds. The window holds the next sixteen words of the
schedule. -/
def Chain.rounds (s : Chain) : (count : Nat) → (window : List UInt32) → Chain
  | count + 1, w :: window =>
    let later := rotateLeft
      (window.getD 12 0 ^^^ window.getD 7 0 ^^^ window.getD 1 0 ^^^ w) 1
    let t := rotateLeft s.a 5 + mix (79 - count) s.b s.c s.d + s.e + w
    Chain.rounds ⟨t, s.a, rotateLeft s.b 30, s.c, s.d⟩ count (window ++ [later])
  | _, _ => s

def Chain.absorb (s : Chain) : (count : Nat) → Bytes → Chain
  | 0, _ => s
  | count + 1, bytes =>
    let t := s.rounds 80 (Sha2.takeWords 16 bytes)
    Chain.absorb ⟨s.a + t.a, s.b + t.b, s.c + t.c, s.d + t.d, s.e + t.e⟩ count
      (bytes.drop (Sha2.blockLen UInt32))

def start : Chain := ⟨0x67452301, 0xEFCDAB89, 0x98BADCFE, 0x10325476, 0xC3D2E1F0⟩

end Sha1

def sha1 (message : Bytes) : Bytes :=
  let padded := Sha2.pad UInt32 message
  let s := Sha1.start.absorb (padded.length / Sha2.blockLen UInt32) padded
  [s.a, s.b, s.c, s.d, s.e].flatMap fun w => Bytes.ofNat 4 w.toNat

/-! ### Digests by name -/

inductive DigestAlgorithm
  | sha1
  | sha256
  | sha384
  | sha512
  deriving Repr, DecidableEq

namespace DigestAlgorithm

def digest : DigestAlgorithm → Bytes → Bytes
  | .sha1 => AttestedUplink.sha1
  | .sha256 => AttestedUplink.sha256
  | .sha384 => AttestedUplink.sha384
  | .sha512 => AttestedUplink.sha512

end DigestAlgorithm

end AttestedUplink
