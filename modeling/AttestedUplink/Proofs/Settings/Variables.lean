import AttestedUplink.Proofs.Endpoint.Grammar
import AttestedUplink.Proofs.Net.Quads
import AttestedUplink.Proofs.Settings.Reading
import AttestedUplink.Proofs.Settings.Validation
import Mathlib.Data.List.Nodup

/-!
# The variables of the settings

Fourteen variables are read one after the other, each for a field of its own. Whatever the lookup
answers, the result is told variable by variable and then check by check.
-/

namespace AttestedUplink

open Checks
open Numeral (Spells)

/-! ### The readers of single texts -/

section

variable {text : String}

theorem InterfaceAddress.exists_parse_iff :
    (∃ address, parse text = .ok address) ↔ ∃ address, parse? text.toList = some address := by
  rw [parse_eq_elim, exists_elim_eq_ok_iff]

namespace Settings

theorem readGateway_eq_elim :
    readGateway text =
      (Ipv4.parse? text.toList).elim
        (.error ⟨.config, s!"Invalid gateway {Quoted.text text}"⟩) .ok := by
  unfold readGateway
  cases Ipv4.parse? text.toList <;> rfl

theorem exists_readGateway_iff :
    (∃ ip, readGateway text = .ok ip) ↔ ∃ ip, Ipv4.parse? text.toList = some ip := by
  rw [readGateway_eq_elim, exists_elim_eq_ok_iff]

theorem readNumber_eq_elim {key : String} :
    readNumber key text =
      (Numeral.readWord64? text.toList).elim
        (.error ⟨.config, s!"{key} must be a number, got {Quoted.text text}"⟩) .ok := by
  unfold readNumber
  cases Numeral.readWord64? text.toList <;> rfl

theorem exists_readNumber_iff {key : String} :
    (∃ value, readNumber key text = .ok value) ↔
      ∃ n, Spells text.toList n ∧ n ≤ 0xFFFFFFFFFFFFFFFF := by
  rw [readNumber_eq_elim, exists_elim_eq_ok_iff]
  simp only [Numeral.readWord64?_eq_some_iff]
  constructor
  · rintro ⟨_, n, hspells, hle, -⟩
    exact ⟨n, hspells, hle⟩
  · rintro ⟨n, hspells, hle⟩
    exact ⟨_, n, hspells, hle, rfl⟩

end Settings

end

namespace Settings

/-! ### The variables -/

inductive Variable
  | endpoint
  | tapName
  | mtu
  | address
  | gateway
  | mac
  | nameserver
  | resolvConfPath
  | backoffMs
  | selfCheck
  | nonceLen
  | rootSha256
  | logLevel
  | fdLimit
  deriving DecidableEq

namespace Variable

/-- The order of reading. -/
def order : List Variable :=
  [endpoint, tapName, mtu, address, gateway, mac, nameserver, resolvConfPath, backoffMs, selfCheck,
    nonceLen, rootSha256, logLevel, fdLimit]

def key : Variable → String
  | endpoint => "ENCLAVE_HOST_ENDPOINT"
  | tapName => "ENCLAVE_TAP_NAME"
  | mtu => "ENCLAVE_MTU"
  | address => "ENCLAVE_TAP_ADDRESS"
  | gateway => "ENCLAVE_GATEWAY"
  | mac => "ENCLAVE_TAP_MAC"
  | nameserver => "ENCLAVE_NAMESERVER"
  | resolvConfPath => "ENCLAVE_RESOLV_CONF"
  | backoffMs => "ENCLAVE_BACKOFF_MS"
  | selfCheck => "ENCLAVE_SELF_ATTEST"
  | nonceLen => "ENCLAVE_NONCE_LEN"
  | rootSha256 => "ENCLAVE_ROOT_CERT_SHA256"
  | logLevel => "ENCLAVE_LOG_LEVEL"
  | fdLimit => "ENCLAVE_FD_LIMIT"

/-- What a variable sets. -/
def Value : Variable → Type
  | endpoint => Endpoint
  | address => InterfaceAddress
  | gateway => Ipv4
  | mac => Option String
  | selfCheck => Bool
  | mtu | backoffMs | nonceLen | fdLimit => UInt64
  | tapName | nameserver | resolvConfPath | rootSha256 | logLevel => String

/-- The field that a variable is for. -/
def get : (v : Variable) → Settings → v.Value
  | endpoint => (·.link.endpoint)
  | tapName => (·.link.tapName)
  | mtu => (·.link.mtu)
  | address => (·.link.address)
  | gateway => (·.link.gateway)
  | mac => (·.link.mac)
  | nameserver => (·.link.resolvConf)
  | resolvConfPath => (·.link.resolvConfPath)
  | backoffMs => (·.link.backoffMs)
  | selfCheck => (·.attestation.selfCheck)
  | nonceLen => (·.attestation.nonceLen)
  | rootSha256 => (·.attestation.rootSha256)
  | logLevel => (·.logLevel)
  | fdLimit => (·.fdLimit)

def parse : (v : Variable) → String → Except Fault v.Value
  | endpoint => Endpoint.parse
  | address => InterfaceAddress.parse
  | gateway => readGateway
  | mtu => readNumber (key mtu)
  | backoffMs => readNumber (key backoffMs)
  | nonceLen => readNumber (key nonceLen)
  | fdLimit => readNumber (key fdLimit)
  | mac => .ok ∘ readMac
  | nameserver => .ok ∘ resolverLine
  | selfCheck => .ok ∘ readSwitch
  | tapName => .ok
  | resolvConfPath => .ok
  | rootSha256 => .ok
  | logLevel => .ok

/-- What one variable alone gives its field. -/
def read (lookup : String → Option String) (v : Variable) : Except Fault v.Value :=
  field lookup v.key (v.get {}) v.parse

/-- The texts that a variable takes. -/
def Parses : Variable → String → Prop
  | endpoint, text => ∃ endpoint, Endpoint.Written text endpoint
  | address, text => ∃ address, InterfaceAddress.parse? text.toList = some address
  | gateway, text => ∃ ip, Ipv4.parse? text.toList = some ip
  | mtu, text | backoffMs, text | nonceLen, text | fdLimit, text =>
    ∃ n, Spells text.toList n ∧ n ≤ 0xFFFFFFFFFFFFFFFF
  | _, _ => True

variable {lookup other : String → Option String} {settings settings' : Settings} {v w : Variable}
  {text : String} {cause : Fault}

theorem mem_order (v : Variable) : v ∈ order := by
  cases v <;> decide

theorem nodup_map_key : (order.map key).Nodup := by
  decide +kernel

theorem key_inj (h : v.key = w.key) : v = w :=
  List.inj_on_of_nodup_map nodup_map_key v.mem_order w.mem_order h

theorem ext_get (h : ∀ v : Variable, v.get settings = v.get settings') : settings = settings' := by
  obtain ⟨link, attestation, logLevel', fdLimit'⟩ := settings
  obtain ⟨link', attestation', _, _⟩ := settings'
  cases link
  cases link'
  cases attestation
  cases attestation'
  cases h endpoint
  cases h tapName
  cases h mtu
  cases h address
  cases h gateway
  cases h mac
  cases h nameserver
  cases h resolvConfPath
  cases h backoffMs
  cases h selfCheck
  cases h nonceLen
  cases h rootSha256
  cases h logLevel
  cases h fdLimit
  rfl

theorem read_of_eq_none (h : lookup v.key = none) : v.read lookup = .ok (v.get {}) := by
  rw [read, field, h]

theorem read_of_eq_some (h : lookup v.key = some text) : v.read lookup = v.parse text := by
  rw [read, field, h]

theorem read_congr (h : lookup v.key = other v.key) : v.read lookup = v.read other := by
  rw [read, read, field, field, h]

theorem exists_parse_iff : (∃ value, v.parse text = .ok value) ↔ v.Parses text := by
  cases v with
  | mtu | backoffMs | nonceLen | fdLimit => exact exists_readNumber_iff
  | endpoint => exact exists_congr fun _ ↦ Endpoint.parse_eq_ok_iff
  | address => exact InterfaceAddress.exists_parse_iff
  | gateway => exact exists_readGateway_iff
  | _ => exact ⟨fun _ ↦ trivial, fun _ ↦ ⟨_, rfl⟩⟩

theorem kind_of_parse (h : v.parse text = .error cause) : cause.kind = .config := by
  cases v with
  | mtu | backoffMs | nonceLen | fdLimit =>
    obtain ⟨-, rfl⟩ := elim_eq_error_iff.1 (readNumber_eq_elim.symm.trans h)
    rfl
  | address =>
    obtain ⟨-, rfl⟩ := elim_eq_error_iff.1 (InterfaceAddress.parse_eq_elim.symm.trans h)
    rfl
  | gateway =>
    obtain ⟨-, rfl⟩ := elim_eq_error_iff.1 (readGateway_eq_elim.symm.trans h)
    rfl
  | endpoint =>
    obtain ⟨defect, -, rfl⟩ := mapError_eq_error_iff.1 h
    rfl
  | _ => cases h

theorem kind_of_read (h : v.read lookup = .error cause) : cause.kind = .config := by
  cases htext : lookup v.key with
  | none =>
    rw [read_of_eq_none htext] at h
    cases h
  | some text =>
    rw [read_of_eq_some htext] at h
    exact kind_of_parse h

/-! ### Reading in a row -/

/-- Reading a variable, whatever it then gives. -/
def attempt (lookup : String → Option String) (v : Variable) : Except Fault Unit :=
  v.read lookup >>= fun _ ↦ pure ()

/-- The variable is set to a text that it does not take. -/
def Refuses (lookup : String → Option String) (v : Variable) : Prop :=
  ∃ text, lookup v.key = some text ∧ ¬v.Parses text

theorem exists_read_iff : (∃ value, v.read lookup = .ok value) ↔ ¬v.Refuses lookup := by
  cases htext : lookup v.key with
  | none => simp [read_of_eq_none htext, Refuses, htext]
  | some text => simp [read_of_eq_some htext, Refuses, htext, exists_parse_iff]

theorem attempt_eq_ok_iff : v.attempt lookup = .ok () ↔ ¬v.Refuses lookup := by
  rw [← exists_read_iff, attempt, exists_eq_ok_iff_bind]

theorem attempt_eq_error_iff : v.attempt lookup = .error cause ↔ v.read lookup = .error cause :=
  bind_pure_eq_error_iff

end Variable

open Variable (Refuses)

variable {lookup other : String → Option String} {settings settings' : Settings} {v w : Variable}
  {cause : Fault}

/-- Each variable alone gives its field of the settings. -/
def Gives (lookup : String → Option String) (settings : Settings) : Prop :=
  ∀ v : Variable, v.read lookup = .ok (v.get settings)

theorem read_eq_ok_iff_gives : read lookup = .ok settings ↔ Gives lookup settings := by
  rw [read_eq_ok_iff]
  constructor
  · intro h v
    cases v with
    | endpoint => exact h.endpoint
    | tapName => exact h.tapName
    | mtu => exact h.mtu
    | address => exact h.address
    | gateway => exact h.gateway
    | mac => exact h.mac
    | nameserver => exact h.resolvConf
    | resolvConfPath => exact h.resolvConfPath
    | backoffMs => exact h.backoffMs
    | selfCheck => exact h.selfCheck
    | nonceLen => exact h.nonceLen
    | rootSha256 => exact h.rootSha256
    | logLevel => exact h.logLevel
    | fdLimit => exact h.fdLimit
  · intro h
    exact ⟨h .endpoint, h .tapName, h .mtu, h .address, h .gateway, h .mac, h .nameserver,
      h .resolvConfPath, h .backoffMs, h .selfCheck, h .nonceLen, h .rootSha256, h .logLevel,
      h .fdLimit⟩

theorem read_bind_eq_forM :
    (read lookup >>= fun _ ↦ pure ()) = forM Variable.order (Variable.attempt lookup) := by
  simp only [read, Variable.order, Variable.attempt, List.forM_cons, List.forM_nil, bind_assoc,
    pure_bind]
  rfl

theorem exists_gives_iff :
    (∃ settings, Gives lookup settings) ↔ ∀ v : Variable, ¬v.Refuses lookup := by
  simp only [← read_eq_ok_iff_gives]
  rw [exists_eq_ok_iff_bind, read_bind_eq_forM, forM_eq_ok_iff]
  simp only [Variable.mem_order, true_imp_iff, Variable.attempt_eq_ok_iff]

theorem read_eq_error_iff :
    read lookup = .error cause ↔
      ∃ v : Variable, IsFirst (Refuses lookup) Variable.order v ∧ v.read lookup = .error cause := by
  have hrow : (read lookup >>= fun _ ↦ pure ()) = .error cause ↔ read lookup = .error cause :=
    bind_pure_eq_error_iff
  rw [← hrow, read_bind_eq_forM, forM_eq_error_iff]
  simp only [Ne, Variable.attempt_eq_ok_iff, not_not, Variable.attempt_eq_error_iff]

/-! ### Fields and their variables -/

theorem get_eq_of_unset (h : Gives lookup settings) (hkey : lookup v.key = none) :
    v.get settings = v.get {} := by
  have hread := h v
  rw [Variable.read_of_eq_none hkey] at hread
  exact (Except.ok.inj hread).symm

theorem get_eq_of_key_eq (h : Gives lookup settings) (h' : Gives other settings')
    (hkey : lookup v.key = other v.key) : v.get settings = v.get settings' := by
  have hread := h v
  rw [Variable.read_congr hkey, h' v] at hread
  exact (Except.ok.inj hread).symm

/-- Lookups that differ in one variable give settings that differ in its field at most. -/
theorem get_eq_of_ne (h : Gives lookup settings) (h' : Gives other settings')
    (hothers : ∀ key, key ≠ v.key → lookup key = other key) (hne : w ≠ v) :
    w.get settings = w.get settings' := by
  apply get_eq_of_key_eq h h'
  apply hothers
  exact fun hkey ↦ hne (Variable.key_inj hkey)

theorem eq_of_get_eq {v : Variable} (h : ∀ w : Variable, w ≠ v → w.get settings = w.get settings')
    (hv : v.get settings = v.get settings') : settings = settings' := by
  apply Variable.ext_get
  intro w
  by_cases hw : w = v
  · subst hw
    exact hv
  · exact h w hw

/-! ### Loading -/

theorem load_eq_ok_iff_gives :
    load lookup = .ok settings ↔ Gives lookup settings ∧ ∀ check : Check, check.Holds settings := by
  rw [load_eq_ok_iff, ← read_eq_ok_iff, read_eq_ok_iff_gives, validate_eq_ok_iff]

theorem load_eq_error_iff :
    load lookup = .error cause ↔
      (∃ v : Variable, IsFirst (Refuses lookup) Variable.order v ∧ v.read lookup = .error cause) ∨
        ∃ settings, Gives lookup settings ∧
          ∃ check : Check, IsFirst (¬Check.Holds settings ·) Check.order check ∧
            check.run settings = .error cause := by
  rw [load, bind_eq_error_iff, read_eq_error_iff]
  simp only [read_eq_ok_iff_gives, bind_pure_eq_error_iff, validate_eq_error_iff]

theorem kind_of_load (h : load lookup = .error cause) : cause.kind = .config := by
  rcases load_eq_error_iff.1 h with ⟨v, -, hread⟩ | ⟨settings, -, check, -, hrun⟩
  · exact Variable.kind_of_read hread
  · exact Check.kind_of_run hrun

/-- Settings load exactly if every variable that is set is taken and the values keep their bounds.
Each field is settled by its own variable. Otherwise the first variable in the order of reading that
is not taken is complained of, or else the first value in the order of validation. -/
theorem load_by_variables (lookup : String → Option String) :
    (∀ settings, load lookup = .ok settings ↔
        Gives lookup settings ∧ ∀ check : Check, check.Holds settings) ∧
      ((∃ settings, Gives lookup settings) ↔
        ∀ (v : Variable) (text : String), lookup v.key = some text → v.Parses text) ∧
      (∀ settings, load lookup = .ok settings → ∀ v : Variable,
        (lookup v.key = none → v.get settings = v.get {}) ∧
        ∀ other settings', load other = .ok settings' →
          (lookup v.key = other v.key → v.get settings = v.get settings') ∧
          ((∀ key, key ≠ v.key → lookup key = other key) →
            (∀ w : Variable, w ≠ v → w.get settings = w.get settings') ∧
              (v.get settings = v.get settings' → settings = settings'))) ∧
      ∀ cause, (load lookup = .error cause → cause.kind = .config) ∧
        (load lookup = .error cause ↔
          (∃ v : Variable, IsFirst (Refuses lookup) Variable.order v ∧
            v.read lookup = .error cause) ∨
          ∃ settings, Gives lookup settings ∧
            ∃ check : Check, IsFirst (¬Check.Holds settings ·) Check.order check ∧
              check.run settings = .error cause) := by
  refine ⟨fun _ ↦ load_eq_ok_iff_gives, ?_, ?_, fun _ ↦ ⟨kind_of_load, load_eq_error_iff⟩⟩
  · rw [exists_gives_iff]
    simp only [Refuses, not_exists, not_and, not_not]
  · intro settings hload v
    obtain ⟨hgives, -⟩ := load_eq_ok_iff_gives.1 hload
    refine ⟨get_eq_of_unset hgives, ?_⟩
    intro other settings' hload'
    obtain ⟨hgives', -⟩ := load_eq_ok_iff_gives.1 hload'
    refine ⟨get_eq_of_key_eq hgives hgives', ?_⟩
    intro hothers
    have hrest : ∀ w : Variable, w ≠ v → w.get settings = w.get settings' :=
      fun w hne ↦ get_eq_of_ne hgives hgives' hothers hne
    exact ⟨hrest, eq_of_get_eq hrest⟩

/-- One variable is set. -/
def only (v : Variable) (text key : String) : Option String :=
  if key = v.key then some text else none

theorem load_by_variables_mtu :
    load (fun _ ↦ none) = .ok {} ∧
      load (only .mtu "+068") = .ok { link := { mtu := 68 } } ∧
      (∀ w : Variable, w ≠ .mtu → w.get {} = w.get { link := { mtu := 68 } }) ∧
      ∃ cause, load (only .mtu "67") = .error cause ∧ cause.kind = .config := by
  have hunset : load (fun _ ↦ none) = .ok {} := by
    refine ((load_by_variables _).1 _).2 ⟨?_, Check.holds_default⟩
    exact fun v ↦ Variable.read_of_eq_none rfl
  have hset : load (only .mtu "+068") = .ok { link := { mtu := 68 } } := by
    refine ((load_by_variables _).1 _).2 ⟨?_, ?_⟩
    · intro v
      cases v <;> rfl
    · intro check
      cases check <;> decide +kernel
  have hlow : load (only .mtu "67") = .error ⟨.config, "MTU 67 outside 68..=65521"⟩ := by
    rfl
  refine ⟨hunset, hset, ?_, _, hlow, ((load_by_variables _).2.2.2 _).1 hlow⟩
  obtain ⟨-, hothers⟩ := ((load_by_variables _).2.2.1 _ hunset .mtu).2 _ _ hset
  refine (hothers ?_).1
  intro key hkey
  exact (if_neg hkey).symm

end Settings

end AttestedUplink
