import AttestedUplink.Bytes

namespace AttestedUplink

/-!
# DER

Certificates and keys are trees of elements: identifier octets, a length, and the content. Elements
of certificates are read leniently: a length may have more octets than it needs. Keys and signatures
are read strictly.

Where elements are read leniently, an element is known by the number of its tag, an object
identifier by its place alone. The class of the tag counts only where the number is given a meaning
by the place, and whether the content is primitive only for numbers, identifiers and strings. A
length is closed, except where the content is skipped and may be a row of elements up to its end.
-/

namespace Der

structure Header where
  identifier : Bytes
  lengthOctets : Bytes
  /-- The length of the content. If it is open, the content is a row of elements, of which the last
  one ends it. -/
  length : Option Nat
  deriving Repr, DecidableEq

/-- The number of an element's tag, in words of 32 bits: the low bits of the first identifier octet,
or what the octets after it say in base 128. -/
def Header.tagNumber (h : Header) : Nat :=
  match h.identifier with
  | [] => 0
  | [first] => first.toNat % 32
  | _ :: group => group.foldl (fun n b => n * 128 + b.toNat % 128) 0 % Bytes.capacity 4

def Header.isPrimitive (h : Header) : Bool :=
  h.identifier.head?.any fun first => first.toNat / 32 % 2 = 0

def Header.isContextSpecific (h : Header) : Bool :=
  h.identifier.head?.any fun first => first.toNat / 64 = 2

structure Element extends Header where
  content : Bytes
  deriving Repr, DecidableEq

def Element.encoded (e : Element) : Bytes := e.identifier ++ (e.lengthOctets ++ e.content)

/-- The octets of a number in base 128 up to the last one, which has its high bit clear; there are
at most `most` of them. -/
def splitGroup (most : Nat) : (done : Bytes) → Bytes → Option (Bytes × Bytes)
  | _, [] => none
  | done, b :: rest =>
    if most ≤ done.length then none
    else if b < 0x80 then some ((b :: done).reverse, rest)
    else splitGroup most (b :: done) rest

def maxTagLen : Nat := 5

def readIdentifier : Bytes → Option (Bytes × Bytes)
  | [] => none
  | first :: rest =>
    if first.toNat % 32 = 31 then
      (splitGroup maxTagLen [] rest).map fun (group, rest) => (first :: group, rest)
    else some ([first], rest)

/-- Reads a length: its octets, the number unless it is open, and what follows. Leading zeros are
fine. -/
def readLength : Bytes → Option (Bytes × Option Nat × Bytes)
  | [] => none
  | first :: rest =>
    if first < 0x80 then some ([first], some first.toNat, rest)
    else if first = 0x80 then some ([first], none, rest)
    else if first = 0xFF then none
    else
      match Bytes.split? (first.toNat - 0x80) rest with
      | some (octets, rest) =>
        let length := Bytes.toNat octets
        if length < Bytes.capacity 8 then some (first :: octets, some length, rest) else none
      | none => none

def Header.read (input : Bytes) : Option (Header × Bytes) :=
  match readIdentifier input with
  | none => none
  | some (identifier, rest) =>
    (readLength rest).map fun (lengthOctets, length, rest) =>
      (⟨identifier, lengthOctets, length⟩, rest)

def Element.read (input : Bytes) : Option (Element × Bytes) :=
  match Header.read input with
  | none => none
  | some (header, rest) =>
    match header.length with
    | none => none
    | some length =>
      (Bytes.split? length rest).map fun (content, rest) => (⟨header, content⟩, rest)

abbrev Reader := StateT Bytes Option

def element : Reader Element := Element.read

def tagged (number : Nat) : Reader Element := do
  let e ← element
  guard (e.tagNumber = number)
  return e

def contentOf (number : Nat) : Reader Bytes := Element.content <$> tagged number

def primitive : Reader Bytes := do
  let e ← element
  guard e.isPrimitive
  return e.content

def primitiveOf (number : Nat) : Reader Bytes := do
  let e ← tagged number
  guard e.isPrimitive
  return e.content

/-- Takes what an element of closed length starts with. Its content may break off. -/
def header : Reader Header := do
  let h ← Header.read
  guard h.length.isSome
  return h

def within {α : Type} (reader : Reader α) (content : Bytes) : Option α :=
  (reader.run content).map Prod.fst

def nested {α : Type} (number : Nat) (reader : Reader α) : Reader α := do
  let content ← contentOf number
  StateT.lift (within reader content)

/-- Takes the element that comes next, if there is one and its start is wanted. The start must be
that of an element of closed length. -/
def optional (wanted : Header → Bool) : Reader (Option Element) := do
  let input ← get
  if input.isEmpty then return none
  if wanted (← header) then
    set input
    return some (← element)
  else
    set input
    return none

/-- Takes as many values as can be read, one after the other; there are fewer of them than octets in
`bound`. -/
def manyFrom {α : Type} (reader : Reader α) :
    (bound : Bytes) → (done : List α) → Bytes → List α × Bytes
  | [], done, input => (done.reverse, input)
  | _ :: bound, done, input =>
    match reader.run input with
    | some (value, rest) => manyFrom reader bound (value :: done) rest
    | none => (done.reverse, input)

def many {α : Type} (reader : Reader α) : Reader (List α) := fun input =>
  some (manyFrom reader input [] input)

/-- The tag numbers of the universal types. The first one ends a content of open length. -/
def endOfContentType : Nat := 0
def booleanType : Nat := 1
def integerType : Nat := 2
def bitStringType : Nat := 3
def octetStringType : Nat := 4
def sequenceType : Nat := 16
def setType : Nat := 17
def utcTimeType : Nat := 23
def generalizedTimeType : Nat := 24

def maxOpen : Nat := 49

/-- Skips the content of an element of open length up to the element without content that ends it;
`inner` counts the elements of open length in it that have not ended yet. There are no more elements
than octets in `bound`. -/
def skipOpen : (bound : Bytes) → (inner : Nat) → Bytes → Option Bytes
  | [], _, _ => none
  | _ :: bound, inner, input =>
    match Header.read input with
    | none => none
    | some (h, rest) =>
      match h.length with
      | none =>
        if h.isPrimitive ∨ maxOpen ≤ inner + 1 then none else skipOpen bound (inner + 1) rest
      | some length =>
        if h.tagNumber = endOfContentType ∧ length = 0 then
          match inner with
          | 0 => some rest
          | inner + 1 => skipOpen bound inner rest
        else
          match Bytes.split? length rest with
          | none => none
          | some (_, rest) => skipOpen bound inner rest

def skip (number : Nat) : Reader Unit := do
  let h ← Header.read
  guard (h.tagNumber = number)
  let input ← get
  match h.length with
  | some length => set (← StateT.lift (Bytes.split? length input)).2
  | none =>
    guard (!h.isPrimitive)
    set (← StateT.lift (skipOpen input 0 input))

/-- The bits of a bit string, padded to whole octets: the first octet of the content says how many
bits of the last one are unused, which are zero. -/
def bits? : Bytes → Option Bytes
  | [] => none
  | unused :: octets =>
    if unused ≤ 8 ∧ (octets.getLast?.getD 1).toNat % Nat.pow 2 unused.toNat = 0 then some octets
    else none

def bitString : Reader Bytes := do
  let content ← primitiveOf bitStringType
  StateT.lift (bits? content)

def natural? : Bytes → Option Nat
  | [] => none
  | [b] => if b < 0x80 then some b.toNat else none
  | 0 :: b :: rest => if 0x80 ≤ b then some (Bytes.toNat (b :: rest)) else none
  | b :: rest => if b < 0x80 then some (Bytes.toNat (b :: rest)) else none

def natural : Reader Nat := do
  let content ← primitiveOf integerType
  StateT.lift (natural? content)

/-! ### Strict reading -/

/-- Whether a length has the fewest octets that it needs, of which there are at most three. -/
def isShortest (length : Bytes) : Bool :=
  match length with
  | [_] => true
  | [0x81, n] => 0x80 ≤ n
  | [0x82, h, _] => 0 < h
  | _ => false

def integerId : UInt8 := 0x02
def sequenceId : UInt8 := 0x30

/-- Takes the content of an element with a given identifier, whose length has the fewest octets that
it needs. -/
def strictContentOf (identifier : UInt8) : Reader Bytes := do
  let e ← element
  guard (e.identifier = [identifier] ∧ isShortest e.lengthOctets)
  return e.content

def strictPositive : Reader Nat := do
  let content ← strictContentOf integerId
  let n ← StateT.lift (natural? content)
  guard (0 < n)
  return n

def strictPair? (input : Bytes) : Option (Nat × Nat) := do
  let (content, rest) ← (strictContentOf sequenceId).run input
  guard rest.isEmpty
  let (first, rest) ← strictPositive.run content
  let (second, rest) ← strictPositive.run rest
  guard rest.isEmpty
  return (first, second)

end Der

end AttestedUplink
