import AttestedUplink.Link.Commands
import AttestedUplink.Proofs.Checks
import AttestedUplink.Proofs.Frame.Limits
import AttestedUplink.Proofs.Net.Groups
import AttestedUplink.Proofs.Text.Hexadecimal
import AttestedUplink.Proofs.Text.Numerals
import AttestedUplink.Settings

/-!
# Validation as a row of checks

Settings are validated by six checks in a row. Each is given twice: as it is made, with the words
for its failure, and as the bound that it stands for.
-/

namespace AttestedUplink

open Checks
open Numeral (Spells)

/-! ### The link -/

theorem HardwareAddress.kind_of_parse {text : String} {cause : Fault}
    (h : parse text = .error cause) : cause.kind = .config := by
  obtain ⟨-, rfl⟩ := elim_eq_error_iff.1 (parse_eq_elim.symm.trans h)
  rfl

namespace LinkSettings

variable {link : LinkSettings} {cause : Fault}

def checkMtu (link : LinkSettings) : Except Fault Unit :=
  require (68 ≤ link.mtu.toNat ∧ link.mtu.toNat ≤ 65521)
    ⟨.config, s!"MTU {link.mtu.toNat} outside {minMtu.toNat}..={maxMtu.toNat}"⟩

def checkTapName (link : LinkSettings) : Except Fault Unit :=
  require (1 ≤ link.tapName.utf8ByteSize ∧ link.tapName.utf8ByteSize ≤ 15)
    ⟨.config, s!"Invalid TAP device name {Quoted.text link.tapName}"⟩

theorem isTapName_iff {name : String} :
    isTapName name = true ↔ 1 ≤ name.utf8ByteSize ∧ name.utf8ByteSize ≤ 15 := by
  rw [isTapName, Bool.and_eq_true, decide_eq_true_iff, decide_eq_true_iff, maxTapNameLen,
    Nat.one_le_iff_ne_zero, Ne, Ne, String.utf8ByteSize_eq_zero_iff]

theorem checkHardwareAddress_eq_ok_iff :
    link.checkHardwareAddress = .ok () ↔
      ∀ mac, link.mac = some mac → ∃ address, HardwareAddress.parse mac = .ok address := by
  unfold checkHardwareAddress
  cases link.mac with
  | none => simp
  | some mac => cases h : HardwareAddress.parse mac <;> simp [Except.map, h]

theorem kind_of_checkHardwareAddress
    (h : link.checkHardwareAddress = .error cause) : cause.kind = .config := by
  unfold checkHardwareAddress at h
  split at h
  · cases h
  · rename_i mac _
    cases hparse : HardwareAddress.parse mac with
    | ok address =>
      rw [hparse] at h
      cases h
    | error fault =>
      rw [hparse] at h
      cases h
      exact HardwareAddress.kind_of_parse hparse

theorem validate_eq :
    link.validate =
      link.checkMtu >>= fun _ ↦ link.checkTapName >>= fun _ ↦ link.checkHardwareAddress := by
  have hmtu : (link.mtu < minMtu ∨ maxMtu < link.mtu) ↔
      ¬(68 ≤ link.mtu.toNat ∧ link.mtu.toNat ≤ 65521) := by
    rw [UInt64.lt_iff_toNat_lt, UInt64.lt_iff_toNat_lt, Decidable.not_and_iff_or_not, Nat.not_le,
      Nat.not_le]
    rfl
  have hname : ((!isTapName link.tapName) = true) ↔
      ¬(1 ≤ link.tapName.utf8ByteSize ∧ link.tapName.utf8ByteSize ≤ 15) := by
    rw [Bool.not_eq_true', ← Bool.not_eq_true, isTapName_iff]
  rw [checkMtu, checkTapName, require_bind, require_bind]
  simp only [validate, hmtu, hname, ite_not, throw_bind, checkHardwareAddress]
  cases link.mac with
  | none => rfl
  | some mac => cases HardwareAddress.parse mac <;> rfl

/-- Settings of a link are valid within three bounds. -/
theorem validate_eq_ok_iff :
    link.validate = .ok () ↔
      (68 ≤ link.mtu.toNat ∧ link.mtu.toNat ≤ 65521) ∧
        (1 ≤ link.tapName.utf8ByteSize ∧ link.tapName.utf8ByteSize ≤ 15) ∧
        link.checkHardwareAddress = .ok () := by
  rw [validate_eq, bind_eq_ok_iff, exists_eq_ok_and_iff, bind_eq_ok_iff, exists_eq_ok_and_iff,
    checkMtu, checkTapName, require_eq_ok_iff, require_eq_ok_iff]

/-- Under valid settings the codec takes the longest frame of the device and none that is longer. -/
theorem maxLen_codec_of_validate (h : link.validate = .ok ()) :
    link.codec.maxLen = link.maxFrameLen.toNat := by
  obtain ⟨⟨-, hmtu⟩, -⟩ := validate_eq_ok_iff.1 h
  have hdescribable : link.maxFrameLen.toNat ≤ 65535 := by
    rw [toNat_maxFrameLen hmtu]
    exact Nat.add_le_add_right hmtu 14
  exact Nat.min_eq_left hdescribable

theorem kind_of_validate (h : link.validate = .error cause) : cause.kind = .config := by
  rw [validate_eq, bind_eq_error_iff, exists_eq_ok_and_iff, bind_eq_error_iff,
    exists_eq_ok_and_iff] at h
  rcases h with hmtu | ⟨-, hname | ⟨-, hmac⟩⟩
  · obtain ⟨-, rfl⟩ := require_eq_error_iff.1 hmtu
    rfl
  · obtain ⟨-, rfl⟩ := require_eq_error_iff.1 hname
    rfl
  · exact kind_of_checkHardwareAddress hmac

end LinkSettings

/-! ### The fingerprint -/

namespace Fingerprint

theorem ofBytes?_eq_some_iff {bytes : Bytes} {fingerprint : Fingerprint} :
    ofBytes? bytes = some fingerprint ↔ bytes = fingerprint.bytes := by
  unfold ofBytes?
  constructor
  · intro h
    obtain ⟨_, hsome⟩ := Option.dite_none_right_eq_some.1 h
    cases hsome
    rfl
  · rintro rfl
    rw [dif_pos fingerprint.length_bytes]

theorem parse_eq_ok_iff {text : String} {fingerprint : Fingerprint} :
    parse text = .ok fingerprint ↔ Hex.decode text = .ok fingerprint.bytes := by
  unfold parse
  constructor
  · intro h
    split at h
    · cases h
    · rename_i bytes hbytes
      split at h
      · rename_i hsome
        cases h
        rw [hbytes, ofBytes?_eq_some_iff.1 hsome]
      · cases h
  · intro h
    rw [h]
    simp only [ofBytes?_eq_some_iff.2 rfl]

/-- A fingerprint is written with sixty-four digits. -/
theorem exists_parse_iff {text : String} :
    (∃ fingerprint, parse text = .ok fingerprint) ↔
      text.toList.length = 64 ∧ ∀ c ∈ text.toList, Hex.IsDigit c := by
  rw [← Hex.exists_decode_iff 32]
  simp only [parse_eq_ok_iff]
  constructor
  · rintro ⟨fingerprint, h⟩
    exact ⟨fingerprint.bytes, h, fingerprint.length_bytes⟩
  · rintro ⟨bytes, h, hlen⟩
    exact ⟨⟨bytes, hlen⟩, h⟩

end Fingerprint

/-! ### The log level -/

namespace LogLevel

def number : LogLevel → ℕ
  | error => 1
  | warn => 2
  | info => 3
  | debug => 4
  | trace => 5

def name : LogLevel → String
  | error => "error"
  | warn => "warn"
  | info => "info"
  | debug => "debug"
  | trace => "trace"

/-- The text names the level in either case, or is a numeral of its number. -/
def Written (text : String) (level : LogLevel) : Prop :=
  Spells text.toList level.number ∨ String.ofList (text.toList.map Char.toLower) = level.name

theorem ofNumber?_eq_some_iff {word : UInt64} {level : LogLevel} :
    ofNumber? word = some level ↔ word = UInt64.ofNat level.number := by
  constructor
  · intro h
    unfold ofNumber? at h
    split at h <;> cases h <;> rfl
  · rintro rfl
    cases level <;> rfl

theorem ofName?_eq_some_iff {text : String} {level : LogLevel} :
    ofName? text = some level ↔ text = level.name := by
  constructor
  · intro h
    unfold ofName? at h
    split at h <;> cases h <;> rfl
  · rintro rfl
    cases level <;> rfl

theorem number_lt (level : LogLevel) : level.number < 6 := by
  cases level <;> decide

theorem readNumber_eq_some_iff {cs : List Char} {level : LogLevel} :
    (Numeral.readWord64? cs).bind ofNumber? = some level ↔ Spells cs level.number := by
  have hlt := level.number_lt
  simp only [Option.bind_eq_some_iff, Numeral.readWord64?_eq_some_iff, ofNumber?_eq_some_iff]
  constructor
  · rintro ⟨word, ⟨n, hspells, hle, rfl⟩, hword⟩
    have hn : n = level.number := by
      rw [UInt64.ofNat_eq_iff_mod_eq_toNat, UInt64.toNat_ofNat'] at hword
      omega
    rwa [← hn]
  · intro h
    exact ⟨_, ⟨_, h, by omega, rfl⟩, rfl⟩

theorem isSome_parse?_iff {text : String} :
    (parse? text).isSome ↔ ∃ level, Written text level := by
  unfold parse?
  cases hnumber : (Numeral.readWord64? text.toList).bind ofNumber? with
  | some level => exact ⟨fun _ ↦ ⟨level, .inl (readNumber_eq_some_iff.1 hnumber)⟩, fun _ ↦ rfl⟩
  | none =>
    rw [Option.isSome_iff_exists]
    constructor
    · rintro ⟨level, hname⟩
      exact ⟨level, .inr (ofName?_eq_some_iff.1 hname)⟩
    · rintro ⟨level, hspells | hname⟩
      · rw [readNumber_eq_some_iff.2 hspells] at hnumber
        cases hnumber
      · exact ⟨level, ofName?_eq_some_iff.2 hname⟩

end LogLevel

/-! ### All settings -/

namespace Settings

variable {settings : Settings} {cause : Fault}

/-- The values that are checked. -/
inductive Check
  | mtu
  | tapName
  | mac
  | rootSha256
  | logLevel
  | nonceLen
  deriving DecidableEq

namespace Check

/-- The order of validation. -/
def order : List Check := [mtu, tapName, mac, rootSha256, logLevel, nonceLen]

theorem mem_order (check : Check) : check ∈ order := by
  cases check <;> decide

/-- The bound on one of the values. -/
def Holds (settings : Settings) : Check → Prop
  | mtu => 68 ≤ settings.link.mtu.toNat ∧ settings.link.mtu.toNat ≤ 65521
  | tapName => 1 ≤ settings.link.tapName.utf8ByteSize ∧ settings.link.tapName.utf8ByteSize ≤ 15
  | mac => ∀ mac, settings.link.mac = some mac →
      ∃ address, HardwareAddress.parse mac = .ok address
  | rootSha256 => settings.attestation.rootSha256.toList.length = 64 ∧
      ∀ c ∈ settings.attestation.rootSha256.toList, Hex.IsDigit c
  | logLevel => ∃ level, LogLevel.Written settings.logLevel level
  | nonceLen => 1 ≤ settings.attestation.nonceLen.toNat ∧
      settings.attestation.nonceLen.toNat ≤ 1024

/-- The check as it is made. -/
def run (settings : Settings) : Check → Except Fault Unit
  | mtu => settings.link.checkMtu
  | tapName => settings.link.checkTapName
  | mac => settings.link.checkHardwareAddress
  | rootSha256 => settings.attestation.rootFingerprint >>= fun _ ↦ pure ()
  | logLevel =>
    require (LogLevel.parse? settings.logLevel).isSome
      ⟨.config, s!"Invalid log level {Quoted.text settings.logLevel}"⟩
  | nonceLen =>
    let length := settings.attestation.nonceLen.toNat
    require (1 ≤ length ∧ length ≤ 1024)
      ⟨.config, s!"Nonce length {length} outside 1..={AttestationSettings.maxNonceLen.toNat}"⟩

theorem run_eq_ok_iff {check : Check} : check.run settings = .ok () ↔ check.Holds settings := by
  cases check with
  | mtu | tapName | nonceLen => exact require_eq_ok_iff
  | mac => exact LinkSettings.checkHardwareAddress_eq_ok_iff
  | logLevel => exact require_eq_ok_iff.trans LogLevel.isSome_parse?_iff
  | rootSha256 =>
    refine Iff.trans ?_ Fingerprint.exists_parse_iff
    rw [run, ← exists_eq_ok_iff_bind]
    simp only [AttestationSettings.rootFingerprint, mapError_eq_ok_iff]

instance (check : Check) : Decidable (check.Holds settings) :=
  decidable_of_iff (check.run settings = .ok ()) run_eq_ok_iff

/-- The defaults keep their bounds. -/
theorem holds_default (check : Check) : check.Holds {} := by
  cases check <;> decide +kernel

theorem kind_of_run {check : Check} (h : check.run settings = .error cause) :
    cause.kind = .config := by
  cases check with
  | mtu | tapName | logLevel | nonceLen =>
    obtain ⟨-, rfl⟩ := require_eq_error_iff.1 h
    rfl
  | mac => exact LinkSettings.kind_of_checkHardwareAddress h
  | rootSha256 =>
    rw [run, bind_pure_eq_error_iff] at h
    obtain ⟨defect, -, rfl⟩ := mapError_eq_error_iff.1 h
    rfl

end Check

theorem validate_eq_forM : settings.validate = forM Check.order (Check.run settings) := by
  have hlevel : ((LogLevel.parse? settings.logLevel).isNone = true) ↔
      ¬(LogLevel.parse? settings.logLevel).isSome := by
    rw [Option.isNone_iff_eq_none, Option.not_isSome_iff_eq_none]
  have hnonce : (settings.attestation.nonceLen = 0 ∨
        AttestationSettings.maxNonceLen < settings.attestation.nonceLen) ↔
      ¬(1 ≤ settings.attestation.nonceLen.toNat ∧
        settings.attestation.nonceLen.toNat ≤ 1024) := by
    rw [UInt64.lt_iff_toNat_lt, ← UInt64.toNat_inj, Decidable.not_and_iff_or_not, Nat.not_le,
      Nat.not_le, Nat.lt_one_iff]
    rfl
  simp only [validate, hlevel, hnonce, ite_not, throw_bind, LinkSettings.validate_eq, Check.order,
    List.forM_cons, List.forM_nil, Check.run, bind_assoc, pure_bind, require_bind]
  rfl

theorem validate_eq_ok_iff :
    settings.validate = .ok () ↔ ∀ check : Check, check.Holds settings := by
  rw [validate_eq_forM, forM_eq_ok_iff]
  simp only [Check.mem_order, true_imp_iff, Check.run_eq_ok_iff]

theorem validate_eq_error_iff :
    settings.validate = .error cause ↔
      ∃ check : Check, IsFirst (¬Check.Holds settings ·) Check.order check ∧
        check.run settings = .error cause := by
  rw [validate_eq_forM, forM_eq_error_iff]
  simp only [Ne, Check.run_eq_ok_iff]

end Settings

end AttestedUplink
