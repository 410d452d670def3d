import AttestedUplink.Text.Reading

namespace AttestedUplink

/-!
# Object identifiers

An object identifier is a path of numbers. Its octets hold the first two numbers in one octet, and
every other number seven bits to an octet; all octets of a number but the last one have their high
bit set. Identifiers are told apart by their octets.
-/

/-- An object identifier by its content octets. -/
abbrev Oid := Bytes

namespace Oid

/-- The octets of a number but the last one, for the number without its last seven bits. There are
no more of them than `bound`. -/
def leading : (bound n : Nat) → Bytes
  | 0, _ => []
  | bound + 1, n =>
    if n = 0 then [] else leading bound (n / 128) ++ [UInt8.ofNat (128 + n % 128)]

def group (n : Nat) : Bytes := leading n (n / 128) ++ [UInt8.ofNat (n % 128)]

def ofNumbers : List Nat → Oid
  | first :: second :: rest => UInt8.ofNat (40 * first + second) :: rest.flatMap group
  | _ => []

/-- The octets of the numbers one by one; `done` holds those of the number that comes next, in
reverse order. The last number may break off. -/
def groupsFrom : (done : Bytes) → Bytes → List Bytes
  | [], [] => []
  | done, [] => [done.reverse]
  | done, b :: rest =>
    if b < 0x80 then (b :: done).reverse :: groupsFrom [] rest else groupsFrom (b :: done) rest

def groupNumber (octets : Bytes) : Nat :=
  octets.foldl (fun n b => (n * 128 + b.toNat % 128) % Bytes.capacity 8) 0

def maxGroupLen : Nat := 9

/-- Whether a number is too long to be shown. One that breaks off is not. -/
def isLong (octets : Bytes) : Bool :=
  octets.getLast?.any (· < 0x80) && maxGroupLen < octets.length

/-- The numbers of an identifier, if none is too long. The first octet holds two of them, unless it
is a lone zero. -/
def numbers? : Oid → Option (List Nat)
  | [] => some []
  | [0] => some [0]
  | first :: rest =>
    let groups := groupsFrom [] rest
    if groups.any isLong then none
    else some (first.toNat / 40 :: first.toNat % 40 :: groups.map groupNumber)

def text (oid : Oid) : String :=
  match oid.numbers? with
  | some numbers => ".".intercalate (numbers.map toString)
  | none => " ".intercalate (oid.map fun b => Hex.encode [b])

end Oid

end AttestedUplink
