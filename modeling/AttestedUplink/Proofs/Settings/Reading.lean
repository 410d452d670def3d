import AttestedUplink.Proofs.Checks
import AttestedUplink.Settings

/-!
# How settings are read

Settings are read exactly when each of their fields is, and each field comes from its own variable
alone. Settings that load are also valid.
-/

namespace AttestedUplink.Settings

open Checks

variable {lookup : String → Option String} {settings : Settings}

theorem field_eq_ok_iff {α : Type} {key : String} {unset value : α}
    {read : String → Except Fault α} :
    field lookup key unset read = .ok value ↔
      (lookup key = none ∧ value = unset) ∨
        ∃ text, lookup key = some text ∧ read text = .ok value := by
  unfold field
  cases lookup key with
  | none => simp [eq_comm]
  | some text => simp

/-- What each variable says about its field. -/
structure Reads (lookup : String → Option String) (settings : Settings) : Prop where
  endpoint : field lookup "ENCLAVE_HOST_ENDPOINT" .default Endpoint.parse =
    .ok settings.link.endpoint
  tapName : field lookup "ENCLAVE_TAP_NAME" ({} : LinkSettings).tapName .ok =
    .ok settings.link.tapName
  mtu : field lookup "ENCLAVE_MTU" ({} : LinkSettings).mtu (readNumber "ENCLAVE_MTU") =
    .ok settings.link.mtu
  address : field lookup "ENCLAVE_TAP_ADDRESS" ({} : LinkSettings).address
    InterfaceAddress.parse = .ok settings.link.address
  gateway : field lookup "ENCLAVE_GATEWAY" ({} : LinkSettings).gateway readGateway =
    .ok settings.link.gateway
  mac : field lookup "ENCLAVE_TAP_MAC" ({} : LinkSettings).mac (.ok ∘ readMac) =
    .ok settings.link.mac
  resolvConf : field lookup "ENCLAVE_NAMESERVER" ({} : LinkSettings).resolvConf
    (.ok ∘ resolverLine) = .ok settings.link.resolvConf
  resolvConfPath : field lookup "ENCLAVE_RESOLV_CONF" ({} : LinkSettings).resolvConfPath .ok =
    .ok settings.link.resolvConfPath
  backoffMs : field lookup "ENCLAVE_BACKOFF_MS" ({} : LinkSettings).backoffMs
    (readNumber "ENCLAVE_BACKOFF_MS") = .ok settings.link.backoffMs
  selfCheck : field lookup "ENCLAVE_SELF_ATTEST" ({} : AttestationSettings).selfCheck
    (.ok ∘ readSwitch) = .ok settings.attestation.selfCheck
  nonceLen : field lookup "ENCLAVE_NONCE_LEN" ({} : AttestationSettings).nonceLen
    (readNumber "ENCLAVE_NONCE_LEN") = .ok settings.attestation.nonceLen
  rootSha256 : field lookup "ENCLAVE_ROOT_CERT_SHA256" ({} : AttestationSettings).rootSha256 .ok =
    .ok settings.attestation.rootSha256
  logLevel : field lookup "ENCLAVE_LOG_LEVEL" ({} : Settings).logLevel .ok = .ok settings.logLevel
  fdLimit : field lookup "ENCLAVE_FD_LIMIT" ({} : Settings).fdLimit
    (readNumber "ENCLAVE_FD_LIMIT") = .ok settings.fdLimit

theorem read_eq_ok_iff : read lookup = .ok settings ↔ Reads lookup settings := by
  simp only [read, bind_eq_ok_iff, pure_eq_ok_iff]
  constructor
  · rintro ⟨_, endpoint, _, tapName, _, mtu, _, address, _, gateway, _, mac, _, resolvConf, _,
      resolvConfPath, _, backoffMs, _, selfCheck, _, nonceLen, _, rootSha256, _, logLevel, _,
      fdLimit, rfl⟩
    exact ⟨endpoint, tapName, mtu, address, gateway, mac, resolvConf, resolvConfPath, backoffMs,
      selfCheck, nonceLen, rootSha256, logLevel, fdLimit⟩
  · intro h
    exact ⟨_, h.endpoint, _, h.tapName, _, h.mtu, _, h.address, _, h.gateway, _, h.mac, _,
      h.resolvConf, _, h.resolvConfPath, _, h.backoffMs, _, h.selfCheck, _, h.nonceLen, _,
      h.rootSha256, _, h.logLevel, _, h.fdLimit, rfl⟩

theorem load_eq_ok_iff :
    load lookup = .ok settings ↔ Reads lookup settings ∧ settings.validate = .ok () := by
  rw [← read_eq_ok_iff, load, bind_eq_ok_iff]
  constructor
  · rintro ⟨loaded, hread, hchecked⟩
    obtain ⟨⟨⟩, hvalid, hpure⟩ := bind_eq_ok_iff.1 hchecked
    obtain rfl := pure_eq_ok_iff.1 hpure
    exact ⟨hread, hvalid⟩
  · rintro ⟨hread, hvalid⟩
    exact ⟨settings, hread, bind_eq_ok_iff.2 ⟨(), hvalid, rfl⟩⟩

theorem link_validate_of_load (h : load lookup = .ok settings) :
    settings.link.validate = .ok () := by
  obtain ⟨-, hvalid⟩ := load_eq_ok_iff.1 h
  obtain ⟨⟨⟩, hlink, -⟩ := bind_eq_ok_iff.1 hvalid
  exact hlink

end AttestedUplink.Settings
