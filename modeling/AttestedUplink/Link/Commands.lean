import AttestedUplink.Settings.Link

namespace AttestedUplink

/-!
# Setting up the network device

The device is addressed and brought up by invocations of `ip`, and name resolution is pointed at
the host by one file. This module gives the arguments, the checks made before anything is touched,
and what becomes of the file.
-/

namespace LinkSettings

def configureCommands (link : LinkSettings) : List (List String) :=
  [["addr", "replace", link.address.display, "dev", link.tapName],
   ["link", "set", "dev", link.tapName, "mtu", toString link.mtu.toNat],
   ["route", "replace", "default", "via", link.gateway.display, "dev", link.tapName]]

def linkUpCommands (link : LinkSettings) : List (List String) :=
  (link.mac.toList.map fun mac => ["link", "set", "dev", link.tapName, "address", mac]) ++
    [["link", "set", "dev", link.tapName, "up"]]

/-- The room for a device name in a request to the kernel; the name ends with a zero octet. -/
def interfaceNameRoom : Nat := 16

def checkDeviceName (link : LinkSettings) : Except Fault Unit :=
  if link.tapName = "" ∨ interfaceNameRoom ≤ link.tapName.utf8ByteSize then
    .error ⟨.deviceConfig, s!"Invalid interface name {Quoted.text link.tapName}"⟩
  else .ok ()

def checkHardwareAddress (link : LinkSettings) : Except Fault Unit :=
  match link.mac with
  | none => .ok ()
  | some mac => (HardwareAddress.parse mac).map fun _ => ()

end LinkSettings

inductive ResolverFile
  | file (content : Option String)
  | missingDirectory
  | directory
  deriving Repr, DecidableEq

namespace ResolverFile

/-- Writing replaces the whole content. It fails where no file can be. -/
def write (place : ResolverFile) (path content : String) : Except Fault ResolverFile :=
  let refuse (why : String) := .error ⟨.deviceConfig, s!"Failed to write {path}: {why}"⟩
  match place with
  | .file _ => .ok (.file (some content))
  | .missingDirectory => refuse "No such file or directory (os error 2)"
  | .directory => refuse "Is a directory (os error 21)"

def content? : ResolverFile → Option String
  | .file content => content
  | _ => none

end ResolverFile

end AttestedUplink
