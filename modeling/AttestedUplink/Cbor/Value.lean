import AttestedUplink.Cbor.Head

namespace AttestedUplink

/-!
# CBOR values

A value is read from the first item of a byte string; what follows the item is left over. Arrays,
maps and tags may be nested up to a limit.
-/

namespace Cbor

inductive Value
  | integer (n : Int)
  | bytes (octets : Bytes)
  | text (content : String)
  | array (items : List Value)
  | map (entries : List (Value × Value))
  | tag (number : Nat) (value : Value)
  | bool (b : Bool)
  | null
  | float (octets : Bytes)

/-- How many arrays, maps and tags may be open at once. -/
def maxNesting : Nat := 256

def positiveTag : Nat := 2
def negativeTag : Nat := 3

def maxBignumLen : Nat := 16

/-- The number that a tag gives a byte string, as a value: an integer if it has one of 64 bits and
a sign, else the tagged string. A negative number has at most 127 bits. -/
def bignum (number : Nat) (octets : Bytes) : Option Value :=
  let n := Bytes.toNat octets
  if number = positiveTag then
    some (if n < Bytes.capacity 8 then .integer n else .tag number (.bytes octets))
  else if n < Nat.pow 2 127 then
    some (if n < Bytes.capacity 8 then .integer (-1 - n) else .tag number (.bytes octets))
  else none

/-- The length of the byte string that writes a number, and its octets with what follows them: the
string stands after a tag that announces a number, its length is closed and it is not too long. -/
def bignumHead? (number : Nat) (input : Bytes) : Option (Nat × Bytes) :=
  if number = positiveTag ∨ number = negativeTag then
    match Head.read input with
    | some (.bytes (some len), rest) => if len ≤ maxBignumLen then some (len, rest) else none
    | _ => none
  else none

def readPair {α β : Type} (first : Bytes → Option (α × Bytes)) (second : Bytes → Option (β × Bytes))
    (input : Bytes) : Option ((α × β) × Bytes) :=
  match first input with
  | none => none
  | some (a, rest) => (second rest).map fun (b, rest) => ((a, b), rest)

/-- The value of a simple item, if it is known. An undefined value counts as null. -/
def simple? : Nat → Option Value
  | 20 => some (.bool false)
  | 21 => some (.bool true)
  | 22 => some .null
  | 23 => some .null
  | _ => none

def Value.read (levels : Nat) (input : Bytes) : Option (Value × Bytes) :=
  match Head.read input with
  | none => none
  | some (head, rest) =>
    match head with
    | .unsigned n => some (.integer n, rest)
    | .negative n => some (.integer (-1 - n), rest)
    | .bytes len => (readBytes len rest).map fun (octets, rest) => (.bytes octets, rest)
    | .text len => (readText len rest).map fun (content, rest) => (.text content, rest)
    | .simple n => (simple? n).map (·, rest)
    | .float octets => some (.float octets, rest)
    | .stop => none
    | .array len =>
      match levels with
      | 0 => none
      | levels + 1 =>
        (readMany (Value.read levels) len rest).map fun (items, rest) => (.array items, rest)
    | .map len =>
      match levels with
      | 0 => none
      | levels + 1 =>
        (readMany (readPair (Value.read levels) (Value.read levels)) len rest).map
          fun (entries, rest) => (.map entries, rest)
    | .tag number =>
      match bignumHead? number rest with
      | some (len, rest) =>
        match Bytes.split? len rest with
        | none => none
        | some (octets, rest) => (bignum number octets).map (·, rest)
      | none =>
        match levels with
        | 0 => none
        | levels + 1 => (Value.read levels rest).map fun (value, rest) => (.tag number value, rest)

def Value.decode (input : Bytes) : Option Value := (Value.read maxNesting input).map Prod.fst

mutual

def Value.write : Value → Bytes
  | .integer n => if 0 ≤ n then writeHead 0 n.toNat else writeHead 1 (-1 - n).toNat
  | .bytes octets => writeHead 2 octets.length ++ octets
  | .text content => writeHead 3 (Bytes.ofText content).length ++ Bytes.ofText content
  | .array items => writeHead 4 items.length ++ Value.writeItems items
  | .map entries => writeHead 5 entries.length ++ Value.writeEntries entries
  | .tag number value => writeHead 6 number ++ Value.write value
  | .bool b => [if b then 0xF5 else 0xF4]
  | .null => [0xF6]
  | .float octets => UInt8.ofNat (0xF8 + octets.length.log2) :: octets

def Value.writeItems : List Value → Bytes
  | [] => []
  | item :: items => Value.write item ++ Value.writeItems items

def Value.writeEntries : List (Value × Value) → Bytes
  | [] => []
  | (key, value) :: entries =>
    Value.write key ++ (Value.write value ++ Value.writeEntries entries)

end

end Cbor

end AttestedUplink
