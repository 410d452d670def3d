import AttestedUplink.Settings.Attestation
import AttestedUplink.Settings.Link

namespace AttestedUplink

/-!
# Settings

Settings are read from named variables, each of which fixes one field; a variable that is not set
leaves the field at its default. All variables are read before the result is validated.

### Log levels

A level is named in either case, or given by its number, one for the fewest messages.
-/

inductive LogLevel
  | error
  | warn
  | info
  | debug
  | trace
  deriving Repr, DecidableEq

namespace LogLevel

def ofNumber? : UInt64 → Option LogLevel
  | 1 => some .error
  | 2 => some .warn
  | 3 => some .info
  | 4 => some .debug
  | 5 => some .trace
  | _ => none

def ofName? : String → Option LogLevel
  | "error" => some .error
  | "warn" => some .warn
  | "info" => some .info
  | "debug" => some .debug
  | "trace" => some .trace
  | _ => none

def parse? (text : String) : Option LogLevel :=
  match (Numeral.readWord64? text.toList).bind ofNumber? with
  | some level => some level
  | none => ofName? (String.ofList (text.toList.map Char.toLower))

end LogLevel

/-! ### All settings -/

structure Settings where
  link : LinkSettings := {}
  attestation : AttestationSettings := {}
  logLevel : String := "info"
  fdLimit : UInt64 := 65536
  deriving DecidableEq

namespace Settings

/-- The first thing that is wrong with the settings: the link, the fingerprint, the log level, then
the length of nonces. -/
def validate (settings : Settings) : Except Fault Unit := do
  settings.link.validate
  let _ ← settings.attestation.rootFingerprint
  if (LogLevel.parse? settings.logLevel).isNone then
    throw ⟨.config, s!"Invalid log level {Quoted.text settings.logLevel}"⟩
  let nonceLen := settings.attestation.nonceLen
  if nonceLen = 0 ∨ AttestationSettings.maxNonceLen < nonceLen then
    throw ⟨.config,
      s!"Nonce length {nonceLen.toNat} outside 1..={AttestationSettings.maxNonceLen.toNat}"⟩

def field {α : Type} (lookup : String → Option String) (key : String) (unset : α)
    (read : String → Except Fault α) : Except Fault α :=
  match lookup key with
  | none => .ok unset
  | some text => read text

def readNumber (key text : String) : Except Fault UInt64 :=
  match Numeral.readWord64? text.toList with
  | some n => .ok n
  | none => .error ⟨.config, s!"{key} must be a number, got {Quoted.text text}"⟩

def readGateway (text : String) : Except Fault Ipv4 :=
  match Ipv4.parse? text.toList with
  | some ip => .ok ip
  | none => .error ⟨.config, s!"Invalid gateway {Quoted.text text}"⟩

/-- An empty hardware address asks for none. -/
def readMac (text : String) : Option String := if text = "" then none else some text

def resolverLine (nameserver : String) : String := s!"nameserver {nameserver}\n"

/-- A switch is on unless it is turned off by one of three words. -/
def readSwitch (text : String) : Bool := !(text = "0" || text = "false" || text = "no")

def read (lookup : String → Option String) : Except Fault Settings := do
  let unset : Settings := {}
  let word (key : String) (value : UInt64) := field lookup key value (readNumber key)
  let endpoint ← field lookup "ENCLAVE_HOST_ENDPOINT" unset.link.endpoint Endpoint.parse
  let tapName ← field lookup "ENCLAVE_TAP_NAME" unset.link.tapName .ok
  let mtu ← word "ENCLAVE_MTU" unset.link.mtu
  let address ← field lookup "ENCLAVE_TAP_ADDRESS" unset.link.address InterfaceAddress.parse
  let gateway ← field lookup "ENCLAVE_GATEWAY" unset.link.gateway readGateway
  let mac ← field lookup "ENCLAVE_TAP_MAC" unset.link.mac (.ok ∘ readMac)
  let resolvConf ←
    field lookup "ENCLAVE_NAMESERVER" unset.link.resolvConf (.ok ∘ resolverLine)
  let resolvConfPath ← field lookup "ENCLAVE_RESOLV_CONF" unset.link.resolvConfPath .ok
  let backoffMs ← word "ENCLAVE_BACKOFF_MS" unset.link.backoffMs
  let selfCheck ←
    field lookup "ENCLAVE_SELF_ATTEST" unset.attestation.selfCheck (.ok ∘ readSwitch)
  let nonceLen ← word "ENCLAVE_NONCE_LEN" unset.attestation.nonceLen
  let rootSha256 ← field lookup "ENCLAVE_ROOT_CERT_SHA256" unset.attestation.rootSha256 .ok
  let logLevel ← field lookup "ENCLAVE_LOG_LEVEL" unset.logLevel .ok
  let fdLimit ← word "ENCLAVE_FD_LIMIT" unset.fdLimit
  return {
    link := { endpoint, tapName, mtu, address, gateway, mac, resolvConf, resolvConfPath, backoffMs }
    attestation := { selfCheck, nonceLen, rootSha256 }
    logLevel, fdLimit }

def load (lookup : String → Option String) : Except Fault Settings := do
  let settings ← read lookup
  settings.validate
  return settings

end Settings

end AttestedUplink
