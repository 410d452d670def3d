namespace AttestedUplink

/-!
# Byte strings

Everything that travels on a wire or is hashed, signed or compared is a list of octets. This module
holds the conversions between octets, numbers and text.
-/

/-- A byte string, in the order in which its octets travel. -/
abbrev Bytes := List UInt8

namespace Bytes

def ofText (text : String) : Bytes := text.toUTF8.toList

def toText? (bytes : Bytes) : Option String := String.fromUTF8? ⟨bytes.toArray⟩

/-- The number written by the octets, the most significant first. -/
def toNat (bytes : Bytes) : Nat := bytes.foldl (fun n b => n * 256 + b.toNat) 0

/-- The number written by the octets, the least significant first. -/
def toNatLE (bytes : Bytes) : Nat := toNat bytes.reverse

def prependNat : (width n : Nat) → (rest : Bytes) → Bytes
  | 0, _, rest => rest
  | width + 1, n, rest => prependNat width (n / 256) (UInt8.ofNat n :: rest)

def ofNat (width n : Nat) : Bytes := prependNat width n []

def ofNatLE (width n : Nat) : Bytes := (ofNat width n).reverse

def split? (count : Nat) (bytes : Bytes) : Option (Bytes × Bytes) :=
  let head := bytes.take count
  if head.length = count then some (head, bytes.drop count) else none

/-- How many numbers can be written in `width` octets. -/
def capacity (width : Nat) : Nat := Nat.pow 256 width

@[simp] theorem capacity_zero : capacity 0 = 1 := rfl

@[simp] theorem capacity_one : capacity 1 = 256 := rfl

theorem capacity_eight : capacity 8 = 18446744073709551616 := rfl

theorem capacity_succ (width : Nat) : capacity (width + 1) = capacity width * 256 := rfl

theorem capacity_add (a b : Nat) : capacity (a + b) = capacity a * capacity b :=
  Nat.pow_add 256 a b

theorem length_prependNat (width n : Nat) (rest : Bytes) :
    (prependNat width n rest).length = width + rest.length := by
  induction width generalizing n rest with
  | zero => simp [prependNat]
  | succ width ih => simp [prependNat, ih]; omega

@[simp] theorem length_ofNat (width n : Nat) : (ofNat width n).length = width := by
  simp [ofNat, length_prependNat]

@[simp] theorem length_ofNatLE (width n : Nat) : (ofNatLE width n).length = width := by
  simp [ofNatLE]

theorem split?_eq_some_iff {count : Nat} {bytes head rest : Bytes} :
    split? count bytes = some (head, rest) ↔ head.length = count ∧ bytes = head ++ rest := by
  simp only [split?]
  constructor
  · intro h
    split at h
    · rename_i hlen
      simp only [Option.some.injEq, Prod.mk.injEq] at h
      obtain ⟨rfl, rfl⟩ := h
      exact ⟨hlen, (List.take_append_drop _ _).symm⟩
    · simp at h
  · rintro ⟨rfl, rfl⟩
    simp

@[simp] theorem split?_append (head rest : Bytes) :
    split? head.length (head ++ rest) = some (head, rest) :=
  split?_eq_some_iff.2 ⟨rfl, rfl⟩

@[simp] theorem split?_ofNat_append (width n : Nat) (rest : Bytes) :
    split? width (ofNat width n ++ rest) = some (ofNat width n, rest) :=
  split?_eq_some_iff.2 ⟨length_ofNat width n, rfl⟩

theorem toNat_append (a b : Bytes) : toNat (a ++ b) = toNat a * capacity b.length + toNat b := by
  induction b generalizing a with
  | nil => simp [toNat]
  | cons c b ih =>
    have h : a ++ c :: b = (a ++ [c]) ++ b := by simp
    have hc : c :: b = [c] ++ b := rfl
    rw [h, ih, hc, ih [c]]
    simp only [toNat, List.foldl_append, List.foldl_cons, List.foldl_nil, List.length_append,
      List.length_cons, List.length_nil, Nat.zero_mul, Nat.zero_add, Nat.add_mul, capacity_add,
      capacity_one]
    rw [Nat.mul_assoc, Nat.add_assoc]

theorem toNat_prependNat (width n : Nat) (rest : Bytes) :
    toNat (prependNat width n rest) =
      n % capacity width * capacity rest.length + toNat rest := by
  induction width generalizing n rest with
  | zero => simp [prependNat, Nat.mod_one]
  | succ width ih =>
    have hcons : toNat (UInt8.ofNat n :: rest) = n % 256 * capacity rest.length + toNat rest := by
      have h := toNat_append [UInt8.ofNat n] rest
      simpa [toNat] using h
    rw [prependNat, ih, hcons, capacity_succ width, Nat.mul_comm (capacity width) 256,
      Nat.mod_mul, List.length_cons, capacity_succ]
    rw [Nat.add_mul, Nat.mul_comm 256 (n / 256 % capacity width), Nat.mul_assoc,
      Nat.mul_comm 256 (capacity rest.length)]
    omega

theorem toNat_ofNat (width n : Nat) : toNat (ofNat width n) = n % capacity width := by
  rw [ofNat, toNat_prependNat]
  simp [toNat]

theorem toNatLE_ofNatLE (width n : Nat) : toNatLE (ofNatLE width n) = n % capacity width := by
  simp [toNatLE, ofNatLE, toNat_ofNat]

end Bytes

end AttestedUplink
