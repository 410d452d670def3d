import AttestedUplink.Fault
import AttestedUplink.Text.Quoted
import AttestedUplink.Text.Reading

namespace AttestedUplink

/-!
# Addresses of the device

What the device is given: an IPv4 address with the length of its prefix, and a hardware address.

### IPv4 addresses

An address is written as four decimal octets with dots between them. An octet has one to three
digits and no leading zero.
-/

structure Ipv4 where
  a : UInt8
  b : UInt8
  c : UInt8
  d : UInt8
  deriving Repr, DecidableEq

namespace Ipv4

def octet? (part : List Char) : Option UInt8 :=
  if part.length ≤ 3 ∧ (part.head? = some '0' → part.length = 1) then
    ((Numeral.digits? part).filter (· ≤ 255)).map UInt8.ofNat
  else none

def parse? (cs : List Char) : Option Ipv4 :=
  match Split.all '.' cs with
  | [a, b, c, d] => do
    let a ← octet? a
    let b ← octet? b
    let c ← octet? c
    let d ← octet? d
    return ⟨a, b, c, d⟩
  | _ => none

def display (ip : Ipv4) : String :=
  s!"{ip.a.toNat}.{ip.b.toNat}.{ip.c.toNat}.{ip.d.toNat}"

end Ipv4

/-!
### Interface addresses

An interface has an IPv4 address and a prefix length, written with a slash between them.
-/

structure InterfaceAddress where
  ip : Ipv4
  prefixLen : UInt8
  deriving Repr, DecidableEq

namespace InterfaceAddress

/-- The address that the characters spell. The prefix is a numeral of at most 32. -/
def parse? (cs : List Char) : Option InterfaceAddress := do
  let (ip, prefixLen) ← Split.first? ['/'] cs
  let ip ← Ipv4.parse? ip
  let prefixLen ← Numeral.read? 32 prefixLen
  return ⟨ip, UInt8.ofNat prefixLen⟩

def parse (text : String) : Except Fault InterfaceAddress :=
  match parse? text.toList with
  | some address => .ok address
  | none => .error ⟨.config, s!"Invalid interface address {Quoted.text text}"⟩

def display (address : InterfaceAddress) : String :=
  s!"{address.ip.display}/{address.prefixLen.toNat}"

end InterfaceAddress

/-!
### Hardware addresses

A hardware address is written as six groups of two characters with colons between them. A group is
a hexadecimal number: two digits of either case, or a plus sign and one digit.
-/

abbrev HardwareAddress := Vector UInt8 6

namespace HardwareAddress

def group? : List Char → Option UInt8
  | ['+', low] => (Hex.digitValue? low.toNat).map UInt8.ofNat
  | [high, low] => do
    let h ← Hex.digitValue? high.toNat
    let l ← Hex.digitValue? low.toNat
    return UInt8.ofNat (h * 16 + l)
  | _ => none

def parse? (cs : List Char) : Option HardwareAddress :=
  match Split.all ':' cs with
  | [a, b, c, d, e, f] => do
    let a ← group? a
    let b ← group? b
    let c ← group? c
    let d ← group? d
    let e ← group? e
    let f ← group? f
    return #v[a, b, c, d, e, f]
  | _ => none

def parse (text : String) : Except Fault HardwareAddress :=
  match parse? text.toList with
  | some address => .ok address
  | none => .error ⟨.config, s!"Invalid MAC address {Quoted.text text}"⟩

end HardwareAddress

end AttestedUplink
