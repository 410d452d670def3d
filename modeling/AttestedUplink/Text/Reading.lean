import AttestedUplink.Bytes

namespace AttestedUplink

/-!
# Reading texts

How texts are cut into parts, and the numerals and octets that parts spell.

### Cuts

A text is cut at the first occurrence of a pattern, at the last occurrence of a character, or at
every occurrence of a character. The parts never hold the separator they were cut at.
-/

namespace Split

/-- Cuts at the first `pattern`; `before` holds the characters passed so far, the last one first. -/
def cutFrom (pattern : List Char) (before : List Char) : List Char → Option (List Char × List Char)
  | [] => if pattern.isEmpty then some (before.reverse, []) else none
  | c :: cs =>
    if pattern.isPrefixOf (c :: cs) then some (before.reverse, (c :: cs).drop pattern.length)
    else cutFrom pattern (c :: before) cs

def first? (pattern cs : List Char) : Option (List Char × List Char) := cutFrom pattern [] cs

def last? (sep : Char) (cs : List Char) : Option (List Char × List Char) :=
  (first? [sep] cs.reverse).map fun (after, before) => (before.reverse, after.reverse)

/-- The parts between the occurrences of a character: one more than there are occurrences. -/
def all (sep : Char) (cs : List Char) : List (List Char) := cs.splitOn sep

end Split

/-!
### Decimal numerals

Settings and endpoints write numbers as an optional plus sign followed by ASCII digits. Leading
zeros are fine; an empty numeral, a minus sign, a blank or any other character is not.
-/

namespace Numeral

def digit? (c : Char) : Option Nat :=
  if '0' ≤ c ∧ c ≤ '9' then some (c.toNat - '0'.toNat) else none

def foldDigits? : (n : Nat) → List Char → Option Nat
  | n, [] => some n
  | n, c :: cs =>
    match digit? c with
    | some d => foldDigits? (n * 10 + d) cs
    | none => none

def digits? : List Char → Option Nat
  | [] => none
  | c :: cs => foldDigits? 0 (c :: cs)

def unsigned : List Char → List Char
  | '+' :: cs => cs
  | cs => cs

/-- The number that a numeral spells, if it is at most `most`. -/
def read? (most : Nat) (cs : List Char) : Option Nat :=
  (digits? (unsigned cs)).filter (· ≤ most)

def readWord16? (cs : List Char) : Option UInt16 := (read? 0xFFFF cs).map UInt16.ofNat

def readWord32? (cs : List Char) : Option UInt32 := (read? 0xFFFFFFFF cs).map UInt32.ofNat

def readWord64? (cs : List Char) : Option UInt64 :=
  (read? 0xFFFFFFFFFFFFFFFF cs).map UInt64.ofNat

end Numeral

/-!
### Hexadecimal text

Writing uses lower-case digits, two for each octet. Reading takes digits of either case.
-/

namespace Hex

def digitChar (n : Nat) : Char :=
  if n < 10 then Char.ofNat (n + 48) else Char.ofNat (n + 87)

def digitValue? (code : Nat) : Option Nat :=
  if 48 ≤ code ∧ code ≤ 57 then some (code - 48)
  else if 97 ≤ code ∧ code ≤ 102 then some (code - 87)
  else if 65 ≤ code ∧ code ≤ 70 then some (code - 55)
  else none

def octetDigits (b : UInt8) : List Char := [digitChar (b.toNat / 16), digitChar (b.toNat % 16)]

def encode (bytes : Bytes) : String := String.ofList (bytes.flatMap octetDigits)

def encodeUpper (bytes : Bytes) : String :=
  String.ofList ((bytes.flatMap octetDigits).map Char.toUpper)

def ofNat (n : Nat) : String := String.ofList (Nat.toDigits 16 n)

inductive Defect
  | oddLength
  | badOctet (octet : UInt8) (position : Nat)
  deriving Repr, DecidableEq

/-- Reads digits pairwise; `done` holds the octets read so far, the last one first. -/
def decodePairs (position : Nat) (done : Bytes) : Bytes → Except Defect Bytes
  | high :: low :: rest =>
    match digitValue? high.toNat with
    | none => .error (.badOctet high position)
    | some h =>
      match digitValue? low.toNat with
      | none => .error (.badOctet low (position + 1))
      | some l => decodePairs (position + 2) (UInt8.ofNat (h * 16 + l) :: done) rest
  | _ => .ok done.reverse

/-- The byte string that a text spells. The number of octets of the text is checked first. -/
def decode (text : String) : Except Defect Bytes :=
  let octets := Bytes.ofText text
  if octets.length % 2 = 1 then .error .oddLength else decodePairs 0 [] octets

end Hex

end AttestedUplink
