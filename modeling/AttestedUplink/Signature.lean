import AttestedUplink.Der
import AttestedUplink.Digest

namespace AttestedUplink

/-!
# Signatures

The signatures of documents and certificates: ECDSA over two curves, Ed25519 and RSA.

### Arithmetic modulo a number

Residues are kept below the modulus.
-/

namespace Modular

def sub (m a b : Nat) : Nat := (a + (m - b % m)) % m

/-- The power given by the lowest `bits` bits of `e`, on top of `acc`. -/
def powFrom (m b e : Nat) : (bits acc : Nat) → Nat
  | 0, acc => acc
  | bits + 1, acc =>
    let square := acc * acc % m
    powFrom m b e bits (if e.testBit bits then square * b % m else square)

def pow (m b e : Nat) : Nat := powFrom m b e (e.log2 + 1) (1 % m)

/-- The inverse of a residue other than zero modulo a prime. -/
def inverse (p a : Nat) : Nat := pow p a (p - 2)

end Modular

/-!
### Elliptic curves

The curves `y² = x³ - 3x + b` over a prime field, with a generator of prime order. Points are
multiplied in Jacobian coordinates, where `(x, y, z)` stands for `(x / z², y / z³)` and a zero `z`
for the neutral element.
-/

structure Curve where
  p : Nat
  b : Nat
  n : Nat
  gx : Nat
  gy : Nat
  len : Nat
  deriving DecidableEq

namespace Curve

/-- A point in Jacobian coordinates. -/
structure Point where
  x : Nat
  y : Nat
  z : Nat
  deriving DecidableEq

def Point.zero : Point := ⟨1, 1, 0⟩

variable (curve : Curve)

def generator : Point := ⟨curve.gx, curve.gy, 1⟩

def contains (x y : Nat) : Bool :=
  (y * y + 3 * x) % curve.p = (x * x * x + curve.b) % curve.p

def double (a : Point) : Point :=
  if a.z = 0 ∨ a.y = 0 then .zero
  else
    let p := curve.p
    let zz := a.z * a.z % p
    let yy := a.y * a.y % p
    let s := 4 * a.x * yy % p
    let m := 3 * Modular.sub p a.x zz * (a.x + zz) % p
    let x := Modular.sub p (m * m) (2 * s)
    let y := Modular.sub p (m * Modular.sub p s x) (8 * (yy * yy))
    ⟨x, y, 2 * a.y * a.z % p⟩

def add (a c : Point) : Point :=
  if a.z = 0 then c
  else if c.z = 0 then a
  else
    let p := curve.p
    let azz := a.z * a.z % p
    let czz := c.z * c.z % p
    let u := a.x * czz % p
    let v := c.x * azz % p
    let s := a.y * czz * c.z % p
    let t := c.y * azz * a.z % p
    if u = v then
      if s = t then curve.double a else .zero
    else
      let h := Modular.sub p v u
      let r := Modular.sub p t s
      let hh := h * h % p
      let hhh := h * hh % p
      let uhh := u * hh % p
      let x := Modular.sub p (r * r) (hhh + 2 * uhh)
      let y := Modular.sub p (r * Modular.sub p uhh x) (s * hhh)
      ⟨x, y, h * a.z * c.z % p⟩

/-- Adds `j * a + k * c`, of which only the lowest `bits` bits of `j` and `k` count, to a multiple
of `acc`. Both products share their doublings; `both` is `a + c`. -/
def combineFrom (a c both : Point) (j k : Nat) : (bits : Nat) → (acc : Point) → Point
  | 0, acc => acc
  | bits + 1, acc =>
    let acc := curve.double acc
    combineFrom a c both j k bits <|
      match j.testBit bits, k.testBit bits with
      | true, true => curve.add acc both
      | true, false => curve.add acc a
      | false, true => curve.add acc c
      | false, false => acc

def combine (a c : Point) (j k : Nat) : Point :=
  curve.combineFrom a c (curve.add a c) j k (curve.n.log2 + 1) .zero

def affineX (a : Point) : Nat :=
  let i := Modular.inverse curve.p a.z
  a.x * (i * i % curve.p) % curve.p

/-- The point that an uncompressed encoding stands for, if it is one of the curve. -/
def point? : Bytes → Option Point
  | 4 :: coordinates =>
    if coordinates.length = 2 * curve.len then
      let x := Bytes.toNat (coordinates.take curve.len)
      let y := Bytes.toNat (coordinates.drop curve.len)
      if x < curve.p ∧ y < curve.p ∧ curve.contains x y then some ⟨x, y, 1⟩ else none
    else none
  | _ => none

def p256 : Curve where
  p := 0xFFFFFFFF00000001000000000000000000000000FFFFFFFFFFFFFFFFFFFFFFFF
  b := 0x5AC635D8AA3A93E7B3EBBD55769886BC651D06B0CC53B0F63BCE3C3E27D2604B
  n := 0xFFFFFFFF00000000FFFFFFFFFFFFFFFFBCE6FAADA7179E84F3B9CAC2FC632551
  gx := 0x6B17D1F2E12C4247F8BCE6E563A440F277037D812DEB33A0F4A13945D898C296
  gy := 0x4FE342E2FE1A7F9B8EE7EB4A7C0F9E162BCE33576B315ECECBB6406837BF51F5
  len := 32

def p384 : Curve where
  p := 0xFFFFFFFFFFFFFFFFFFFFFFFFFFFFFFFFFFFFFFFFFFFFFFFFFFFFFFFFFFFFFFFEFFFFFFFF0000000000000000FFFFFFFF
  b := 0xB3312FA7E23EE7E4988E056BE3F82D19181D9C6EFE8141120314088F5013875AC656398D8A2ED19D2A85C8EDD3EC2AEF
  n := 0xFFFFFFFFFFFFFFFFFFFFFFFFFFFFFFFFFFFFFFFFFFFFFFFFC7634D81F4372DDF581A0DB248B0A77AECEC196ACCC52973
  gx := 0xAA87CA22BE8B05378EB1C71EF320AD746E1D3B628BA79B9859F741E082542A385502F25DBF55296C3A545E3872760AB7
  gy := 0x3617DE4A96262C6F5D9E98BF9292DC29F8F41DBD289A147CE9DA3113B5F0B8C00A60B1CE1D7E819D7A431D7C90EA0E5F
  len := 48

end Curve

/-!
### ECDSA signatures

A signature is a pair of scalars. Certificates carry it in DER, documents as two numbers of fixed
length; both readings end in the one check `Ecdsa.accepts`.
-/

namespace Ecdsa

/-- The scalar that stands for a digest: its leftmost octets, as many as a scalar has. -/
def scalarOfDigest (curve : Curve) (digest : Bytes) : Nat :=
  Bytes.toNat (digest.take curve.len) % curve.n

/-- Whether `(r, s)` signs a digest under a public point. -/
def accepts (curve : Curve) (key : Curve.Point) (digest : Bytes) (r s : Nat) : Bool :=
  if 0 < r ∧ r < curve.n ∧ 0 < s ∧ s < curve.n then
    let w := Modular.inverse curve.n s
    let j := scalarOfDigest curve digest * w % curve.n
    let k := r * w % curve.n
    let sum := curve.combine curve.generator key j k
    sum.z ≠ 0 && curve.affineX sum % curve.n = r
  else false

def readFixed? (curve : Curve) (signature : Bytes) : Option (Nat × Nat) :=
  if signature.length = 2 * curve.len then
    some (Bytes.toNat (signature.take curve.len), Bytes.toNat (signature.drop curve.len))
  else none

def readDer? (signature : Bytes) : Option (Nat × Nat) := Der.strictPair? signature

def verify (curve : Curve) (key digest : Bytes) (scalars : Option (Nat × Nat)) : Bool :=
  match curve.point? key, scalars with
  | some point, some (r, s) => accepts curve point digest r s
  | _, _ => false

end Ecdsa

/-!
### Ed25519 signatures

Points of the twisted Edwards curve `-x² + y² = 1 + d x² y²` in extended coordinates. A signature
is good if the point computed from it encodes to exactly its first half.
-/

namespace Ed25519

def p : Nat := Nat.pow 2 255 - 19

def order : Nat := Nat.pow 2 252 + 27742317777372353535851937790883648493

def d : Nat := Modular.sub p 0 (121665 * Modular.inverse p 121666 % p)

def rootOfMinusOne : Nat := Modular.pow p 2 ((p - 1) / 4)

structure Point where
  x : Nat
  y : Nat
  z : Nat
  t : Nat

def Point.zero : Point := ⟨0, 1, 1, 0⟩

/-- The sum of two points. The formula holds for equal and for neutral points alike. -/
def Point.add (a b : Point) : Point :=
  let e := Modular.sub p ((a.x + a.y) * (b.x + b.y)) (a.x * b.x + a.y * b.y)
  let c := d * a.t % p * b.t % p
  let k := a.z * b.z % p
  let f := Modular.sub p k c
  let g := (k + c) % p
  let h := (a.y * b.y + a.x * b.x) % p
  ⟨e * f % p, g * h % p, f * g % p, e * h % p⟩

/-- The multiple given by the lowest `bits` bits of a number, on top of `acc`. -/
def Point.timesFrom (a : Point) (k : Nat) : (bits : Nat) → (acc : Point) → Point
  | 0, acc => acc
  | bits + 1, acc =>
    let double := acc.add acc
    timesFrom a k bits (if k.testBit bits then double.add a else double)

def Point.times (a : Point) (k : Nat) : Point := a.timesFrom k (k.log2 + 1) .zero

def Point.neg (a : Point) : Point := ⟨Modular.sub p 0 a.x, a.y, a.z, Modular.sub p 0 a.t⟩

def ratioRoot? (u v : Nat) : Option Nat :=
  let v3 := v * v % p * v % p
  let v7 := v3 * v3 % p * v % p
  let x := u * v3 % p * Modular.pow p (u * v7 % p) ((p - 5) / 8) % p
  let check := v * (x * x % p) % p
  if check = u % p then some x
  else if check = Modular.sub p 0 u then some (x * rootOfMinusOne % p)
  else none

/-- The point of an encoding: the coordinate `y` in 255 bits and the parity of `x` in the last. -/
def point? (bytes : Bytes) : Option Point :=
  let word := Bytes.toNatLE bytes
  let y := word % Nat.pow 2 255 % p
  let parity := word / Nat.pow 2 255
  let yy := y * y % p
  (ratioRoot? (Modular.sub p yy 1) ((d * yy + 1) % p)).map fun x =>
    let x := if x % 2 = parity then x else Modular.sub p 0 x
    ⟨x, y, 1, x * y % p⟩

def Point.encode (a : Point) : Bytes :=
  let i := Modular.inverse p a.z
  let x := a.x * i % p
  let y := a.y * i % p
  Bytes.ofNatLE 32 (y + (x % 2) * Nat.pow 2 255)

/-- The base point: `y` is four fifths and `x` is even. -/
def base : Point := (point? (Bytes.ofNatLE 32 (4 * Modular.inverse p 5 % p))).getD .zero

def verify (key message signature : Bytes) : Bool :=
  if key.length = 32 ∧ signature.length = 64 then
    let r := signature.take 32
    let s := Bytes.toNatLE (signature.drop 32)
    match point? key with
    | some a =>
      let k := Bytes.toNatLE (sha512 (r ++ key ++ message)) % order
      s < order && ((a.neg.times k).add (base.times s)).encode = r
    | none => false
  else false

end Ed25519

/-!
### RSA signatures

The signatures of PKCS #1 version 1.5. The expected encoding of the digest is built and compared as
a whole, so that nothing in it is parsed.
-/

namespace Rsa

structure PublicKey where
  modulus : Nat
  exponent : Nat
  deriving Repr, DecidableEq

/-- The key of an encoding: a sequence of the modulus and the exponent, and nothing else. -/
def PublicKey.read? (encoded : Bytes) : Option PublicKey :=
  (Der.strictPair? encoded).map fun (modulus, exponent) => ⟨modulus, exponent⟩

def PublicKey.len (key : PublicKey) : Nat := (key.modulus.log2 + 8) / 8

/-- Whether a key is used at all: its modulus is odd and, rounded up to whole octets, between the
given size and 8192 bits, and its exponent is odd, at least three and of at most 33 bits. -/
def PublicKey.isUsable (key : PublicKey) (minBits : Nat) : Bool :=
  key.modulus % 2 = 1 && minBits ≤ 8 * key.len && key.modulus.log2 + 1 ≤ 8192 &&
    key.exponent % 2 = 1 && 3 ≤ key.exponent && key.exponent < Nat.pow 2 33

def digestHeader : DigestAlgorithm → Bytes
  | .sha1 =>
    [0x30, 0x21, 0x30, 0x09, 0x06, 0x05, 0x2B, 0x0E, 0x03, 0x02, 0x1A, 0x05, 0x00, 0x04, 0x14]
  | .sha256 => sha2Header 1 0x20
  | .sha384 => sha2Header 2 0x30
  | .sha512 => sha2Header 3 0x40
where
  sha2Header (member length : UInt8) : Bytes :=
    [0x30, 0x11 + length, 0x30, 0x0D, 0x06, 0x09, 0x60, 0x86, 0x48, 0x01, 0x65, 0x03, 0x04, 0x02,
      member, 0x05, 0x00, 0x04, length]

/-- The number that a signature of a message must decrypt to, for a modulus of `len` octets. -/
def encoding (len : Nat) (algorithm : DigestAlgorithm) (message : Bytes) : Bytes :=
  let tail := 0x00 :: digestHeader algorithm ++ algorithm.digest message
  [0x00, 0x01] ++ List.replicate (len - 2 - tail.length) 0xFF ++ tail

def verify (algorithm : DigestAlgorithm) (minBits : Nat) (key message signature : Bytes) : Bool :=
  match PublicKey.read? key with
  | none => false
  | some key =>
    let s := Bytes.toNat signature
    key.isUsable minBits && signature.length = key.len && s < key.modulus &&
      Bytes.ofNat key.len (Modular.pow key.modulus s key.exponent) =
        encoding key.len algorithm message

end Rsa

end AttestedUplink
