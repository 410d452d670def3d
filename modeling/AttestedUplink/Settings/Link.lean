import AttestedUplink.Endpoint
import AttestedUplink.Frame
import AttestedUplink.Net.Address

namespace AttestedUplink

/-!
# Settings of the link

What the tunnel to the host needs to know. Settings that pass `LinkSettings.validate` suit the
device, the `ip` commands and the frame codec alike.
-/

structure LinkSettings where
  endpoint : Endpoint := .default
  tapName : String := "tap0"
  /-- The payload size of the device; frames carry an Ethernet header on top of it. -/
  mtu : UInt64 := Frame.defaultMtu
  address : InterfaceAddress := ⟨⟨192, 168, 127, 2⟩, 24⟩
  gateway : Ipv4 := ⟨192, 168, 127, 1⟩
  /-- The hardware address as text; the device keeps its own when there is none. -/
  mac : Option String := some "5a:94:ef:e4:0c:ee"
  resolvConf : String := "nameserver 192.168.127.1\n"
  resolvConfPath : String := "/etc/resolv.conf"
  /-- The wait after a failed attempt, in milliseconds. -/
  backoffMs : UInt64 := 1000
  deriving DecidableEq

namespace LinkSettings

def minMtu : UInt64 := 68

/-- The largest payload size whose frames the length field can describe. -/
def maxMtu : UInt64 := 65521

def maxTapNameLen : Nat := 15

/-- The longest frame of the device; the sum stops at the largest word. -/
def maxFrameLen (link : LinkSettings) : UInt64 :=
  UInt64.ofNat (min (link.mtu.toNat + Frame.ethernetHeaderLen.toNat) 0xFFFFFFFFFFFFFFFF)

def codec (link : LinkSettings) : Frame.Codec := .ofMaxLen link.maxFrameLen

def isTapName (name : String) : Bool := name ≠ "" && name.utf8ByteSize ≤ maxTapNameLen

/-- The first thing that is wrong with the settings: payload size, device name, then hardware
address. -/
def validate (link : LinkSettings) : Except Fault Unit := do
  if link.mtu < minMtu ∨ maxMtu < link.mtu then
    throw ⟨.config, s!"MTU {link.mtu.toNat} outside {minMtu.toNat}..={maxMtu.toNat}"⟩
  if !isTapName link.tapName then
    throw ⟨.config, s!"Invalid TAP device name {Quoted.text link.tapName}"⟩
  match link.mac with
  | none => return
  | some mac => let _ ← HardwareAddress.parse mac

end LinkSettings

end AttestedUplink
