import AttestedUplink.Bytes

namespace AttestedUplink

/-!
# Heads of CBOR items

An item of CBOR starts with a head: three bits for its kind and an argument of up to eight octets.
Arguments of any width are read; the shortest one is written.
-/

namespace Cbor

/-- The head of an item. A length of `none` is open: the item goes on up to a break. -/
inductive Head
  | unsigned (n : Nat)
  /-- Stands for `-1 - n`. -/
  | negative (n : Nat)
  | bytes (len : Option Nat)
  | text (len : Option Nat)
  | array (len : Option Nat)
  | map (len : Option Nat)
  | tag (number : Nat)
  | simple (number : Nat)
  | float (octets : Bytes)
  | stop
  deriving Repr, DecidableEq

inductive Argument
  /-- A number of `width` octets; a width of zero is a number in the bits themselves. -/
  | number (width n : Nat)
  | isOpen
  deriving Repr, DecidableEq

def argumentWidth : (low : Nat) → Nat
  | 24 => 1
  | 25 => 2
  | 26 => 4
  | 27 => 8
  | _ => 0

def Argument.read (low : Nat) (input : Bytes) : Option (Argument × Bytes) :=
  if low < 24 then some (.number 0 low, input)
  else if low < 28 then
    (Bytes.split? (argumentWidth low) input).map fun (octets, rest) =>
      (.number (argumentWidth low) (Bytes.toNat octets), rest)
  else if low = 31 then some (.isOpen, input)
  else none

def Head.of? (kind : Nat) (argument : Argument) : Option Head :=
  match kind, argument with
  | 0, .number _ n => some (.unsigned n)
  | 1, .number _ n => some (.negative n)
  | 2, .number _ n => some (.bytes (some n))
  | 2, .isOpen => some (.bytes none)
  | 3, .number _ n => some (.text (some n))
  | 3, .isOpen => some (.text none)
  | 4, .number _ n => some (.array (some n))
  | 4, .isOpen => some (.array none)
  | 5, .number _ n => some (.map (some n))
  | 5, .isOpen => some (.map none)
  | 6, .number _ n => some (.tag n)
  | 7, .number 0 n => some (.simple n)
  | 7, .number 1 n => some (.simple n)
  | 7, .number width n => some (.float (Bytes.ofNat width n))
  | 7, .isOpen => some .stop
  | _, _ => none

def Head.read : Bytes → Option (Head × Bytes)
  | [] => none
  | first :: input =>
    match Argument.read (first.toNat % 32) input with
    | none => none
    | some (argument, rest) => (Head.of? (first.toNat / 32) argument).map (·, rest)

def writeHead (kind n : Nat) : Bytes :=
  let first (low : Nat) : UInt8 := UInt8.ofNat (32 * kind + low)
  if n < 24 then [first n]
  else if n < Bytes.capacity 1 then first 24 :: Bytes.ofNat 1 n
  else if n < Bytes.capacity 2 then first 25 :: Bytes.ofNat 2 n
  else if n < Bytes.capacity 4 then first 26 :: Bytes.ofNat 4 n
  else first 27 :: Bytes.ofNat 8 n

theorem Head.of?_number {kind : Nat} (h : kind < 7) (width n : Nat) :
    Head.of? kind (.number width n) = Head.of? kind (.number 0 n) := by
  match kind, h with
  | 0, _ | 1, _ | 2, _ | 3, _ | 4, _ | 5, _ | 6, _ => rfl

theorem Head.read_cons {kind low : Nat} (hk : kind < 8) (hl : low < 32) (input : Bytes) :
    Head.read (UInt8.ofNat (32 * kind + low) :: input) =
      (Argument.read low input).bind fun (argument, rest) =>
        (Head.of? kind argument).map (·, rest) := by
  have hval : (UInt8.ofNat (32 * kind + low)).toNat = 32 * kind + low :=
    Nat.mod_eq_of_lt (by omega)
  have hlow : (32 * kind + low) % 32 = low := by omega
  have hkind : (32 * kind + low) / 32 = kind := by omega
  rw [Head.read, hval, hlow, hkind]
  cases Argument.read low input <;> rfl

theorem Head.read_writeHead_append {kind n : Nat} (rest : Bytes) (hk : kind < 7)
    (hn : n < Bytes.capacity 8) :
    Head.read (writeHead kind n ++ rest) = (Head.of? kind (.number 0 n)).map (·, rest) := by
  have wide {low width : Nat} (hlow : low < 28) (h24 : 24 ≤ low)
      (hwidth : argumentWidth low = width) (hfit : n < Bytes.capacity width) :
      Head.read (UInt8.ofNat (32 * kind + low) :: (Bytes.ofNat width n ++ rest)) =
        (Head.of? kind (.number 0 n)).map (·, rest) := by
    have hsplit := Bytes.split?_ofNat_append width n rest
    rw [Head.read_cons (by omega) (by omega), Argument.read, if_neg (by omega), if_pos hlow, hwidth,
      hsplit]
    simp only [Option.map_some, Option.bind_some, Bytes.toNat_ofNat, Nat.mod_eq_of_lt hfit,
      Head.of?_number hk width n]
  unfold writeHead
  split
  · rename_i h
    rw [List.cons_append, List.nil_append, Head.read_cons (by omega) (by omega), Argument.read,
      if_pos h]
    rfl
  · split
    · exact wide (by decide) (by decide) rfl (by omega)
    · split
      · exact wide (by decide) (by decide) rfl (by omega)
      · split
        · exact wide (by decide) (by decide) rfl (by omega)
        · exact wide (by decide) (by decide) rfl (by omega)

/-- Reads the parts of a string of open length up to its break. `part?` takes the length out of the
head of a part. `check` is asked of every part of closed length by itself. A part of open length has
parts of its own; `inner` counts such parts that have not ended yet. There are no more heads than
octets in `bound`. -/
def readParts (part? : Head → Option (Option Nat)) (check : Bytes → Bool) :
    (bound : Bytes) → (inner : Nat) → (done : List Bytes) → Bytes → Option (Bytes × Bytes)
  | [], _, _, _ => none
  | _ :: bound, inner, done, input =>
    match Head.read input with
    | none => none
    | some (.stop, rest) =>
      match inner with
      | 0 => some (done.reverse.flatten, rest)
      | inner + 1 => readParts part? check bound inner done rest
    | some (head, rest) =>
      match part? head with
      | none => none
      | some none => readParts part? check bound (inner + 1) done rest
      | some (some len) =>
        match Bytes.split? len rest with
        | none => none
        | some (part, rest) =>
          if check part then readParts part? check bound inner (part :: done) rest else none

def Head.bytesLen? : Head → Option (Option Nat)
  | .bytes len => some len
  | _ => none

def Head.textLen? : Head → Option (Option Nat)
  | .text len => some len
  | _ => none

def readBytes (len : Option Nat) (input : Bytes) : Option (Bytes × Bytes) :=
  match len with
  | some len => Bytes.split? len input
  | none => readParts Head.bytesLen? (fun _ => true) input 0 [] input

/-- Reads the rest of a text whose head gave a length. Every part of closed length is UTF-8 by
itself. -/
def readText (len : Option Nat) (input : Bytes) : Option (String × Bytes) :=
  let octets :=
    match len with
    | some len => Bytes.split? len input
    | none => readParts Head.textLen? (fun part => (Bytes.toText? part).isSome) input 0 [] input
  octets.bind fun (octets, rest) => (Bytes.toText? octets).map (·, rest)

/-- Reads `count` items and puts them after those in `done`, which is in reverse order. -/
def readCounted {α : Type} (read : Bytes → Option (α × Bytes)) :
    (count : Nat) → (done : List α) → Bytes → Option (List α × Bytes)
  | 0, done, input => some (done.reverse, input)
  | count + 1, done, input =>
    match read input with
    | none => none
    | some (item, rest) => readCounted read count (item :: done) rest

/-- Reads items up to a break and puts them after those in `done`, which is in reverse order. There
are fewer items than octets in `bound`. -/
def readOpen {α : Type} (read : Bytes → Option (α × Bytes)) :
    (bound : Bytes) → (done : List α) → Bytes → Option (List α × Bytes)
  | [], _, _ => none
  | _ :: _, done, 0xFF :: rest => some (done.reverse, rest)
  | _ :: bound, done, input =>
    match read input with
    | none => none
    | some (item, rest) => readOpen read bound (item :: done) rest

def readMany {α : Type} (read : Bytes → Option (α × Bytes)) (len : Option Nat) (input : Bytes) :
    Option (List α × Bytes) :=
  match len with
  | some count => readCounted read count [] input
  | none => readOpen read input [] input

end Cbor

end AttestedUplink
