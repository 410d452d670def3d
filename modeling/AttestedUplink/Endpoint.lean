import AttestedUplink.Fault
import AttestedUplink.Text.Reading
import AttestedUplink.Text.Quoted

namespace AttestedUplink

/-!
# Host endpoints

The host proxy is reached over a VM socket or over TCP. An endpoint is written
`scheme://authority/path`; the first `://` ends the scheme, the first slash after it starts the
path, and the last colon of the authority stands before the port.
-/

inductive Endpoint.Address
  | vsock (cid port : UInt32)
  | tcp (host : String) (port : UInt16)
  deriving Repr, DecidableEq

structure Endpoint where
  address : Endpoint.Address
  path : String
  deriving Repr, DecidableEq

namespace Endpoint

def defaultPath : String := "/connect"

/-- The endpoint used when none is configured: the parent instance on its usual port. -/
def default : Endpoint := ⟨.vsock 3 1024, defaultPath⟩

/-- The host part and the port, as the handshake names them. -/
def authority (endpoint : Endpoint) : String :=
  match endpoint.address with
  | .vsock cid port => s!"{cid.toNat}:{port.toNat}"
  | .tcp host port => s!"{host}:{port.toNat}"

def Address.scheme : Address → String
  | .vsock .. => "vsock"
  | .tcp .. => "tcp"

def display (endpoint : Endpoint) : String :=
  s!"{endpoint.address.scheme}://{endpoint.authority}{endpoint.path}"

inductive Defect
  | missingScheme
  | missingPort
  | badCid
  | badPort
  | emptyHost
  | unsupportedScheme (scheme : String)
  deriving Repr, DecidableEq

def Defect.reason : Defect → String
  | .missingScheme => "missing scheme"
  | .missingPort => "missing port"
  | .badCid => "CID is not a number"
  | .badPort => "port is not a number"
  | .emptyHost => "empty host"
  | .unsupportedScheme scheme => s!"unsupported scheme {Quoted.text scheme}"

def splitPath (rest : List Char) : List Char × String :=
  match Split.first? ['/'] rest with
  | some (authority, tail) => (authority, String.ofList ('/' :: tail))
  | none => (rest, defaultPath)

def readAddress (scheme host port : List Char) : Except Defect Address :=
  if scheme = "vsock".toList then
    match Numeral.readWord32? host with
    | none => .error .badCid
    | some cid =>
      match Numeral.readWord32? port with
      | none => .error .badPort
      | some port => .ok (.vsock cid port)
  else if scheme = "tcp".toList then
    if host.isEmpty then .error .emptyHost
    else
      match Numeral.readWord16? port with
      | none => .error .badPort
      | some port => .ok (.tcp (String.ofList host) port)
  else .error (.unsupportedScheme (String.ofList scheme))

def read (cs : List Char) : Except Defect Endpoint :=
  match Split.first? "://".toList cs with
  | none => .error .missingScheme
  | some (scheme, rest) =>
    let (authority, path) := splitPath rest
    match Split.last? ':' authority with
    | none => .error .missingPort
    | some (host, port) => (readAddress scheme host port).map (⟨·, path⟩)

def parse (text : String) : Except Fault Endpoint :=
  (read text.toList).mapError fun defect =>
    ⟨.config, s!"Invalid endpoint {Quoted.text text}: {defect.reason}"⟩

end Endpoint

end AttestedUplink
