import AttestedUplink.Net.Address
import AttestedUplink.Proofs.Checks
import AttestedUplink.Proofs.Text.Cuts
import AttestedUplink.Proofs.Text.Hexadecimal
import Mathlib.Data.List.Forall2

/-!
# The groups of a hardware address

A hardware address is six groups of two characters with colons between them. The characters of a
group are hexadecimal digits, except that the first one may be a plus sign. Addresses without a plus
sign are exactly those that, in lower case, are written as their octets are.
-/

namespace AttestedUplink.HardwareAddress

open Checks
open Hex (Denotes)

/-- Two digits, and the octet they are for. -/
inductive Pair : (part : List Char) → UInt8 → Prop
  | digits {high low : Char} {h l : ℕ} (hhigh : Denotes high h) (hlow : Denotes low l) :
    Pair [high, low] (.ofNat (h * 16 + l))

/-- What is read as a group, and the octet that it gives. -/
inductive Group : (part : List Char) → UInt8 → Prop
  | pair {part : List Char} {octet : UInt8} (hpair : Pair part octet) : Group part octet
  | signed {low : Char} {l : ℕ} (hlow : Denotes low l) : Group ['+', low] (.ofNat l)

/-- The text is parts with colons between them, one for each octet of the address in order. -/
def Spells (Part : List Char → UInt8 → Prop) (text : String) (address : HardwareAddress) : Prop :=
  ∃ parts, text.toList = [':'].intercalate parts ∧ List.Forall₂ Part parts address.toList

/-- An address as six groups of two lower-case digits. -/
def display (address : HardwareAddress) : String :=
  String.ofList ([':'].intercalate (address.toList.map Hex.octetDigits))

variable {c : Char} {cs part : List Char} {parts : List (List Char)} {octet : UInt8}
  {octets : List UInt8} {text : String} {address : HardwareAddress}

/-! ### One group -/

theorem ne_of_denotes {d : Char} {n : ℕ} (hd : Denotes d n) (hc : Hex.digitValue? c.toNat = none) :
    c ≠ d := by
  rintro rfl
  rw [← Hex.digitValue?_eq_some_iff, hc] at hd
  cases hd

theorem Pair.isDigit (h : Pair part octet) : ∀ c ∈ part, Hex.IsDigit c := by
  cases h with
  | digits hhigh hlow =>
    simp only [List.forall_mem_cons, Hex.isDigit_iff_exists]
    exact ⟨⟨_, hhigh⟩, ⟨_, hlow⟩, nofun⟩

theorem Pair.not_mem (h : Pair part octet) (hc : Hex.digitValue? c.toNat = none) : c ∉ part :=
  fun hmem ↦ Hex.isDigit_iff.1 (h.isDigit c hmem) hc

theorem Group.colon_not_mem (h : Group part octet) : ':' ∉ part := by
  cases h with
  | pair hpair => exact hpair.not_mem rfl
  | signed hlow =>
    exact List.not_mem_cons_of_ne_of_not_mem (by decide)
      (List.mem_singleton.not.2 (ne_of_denotes hlow rfl))

theorem Group.pair_iff (h : Group part octet) : Pair part octet ↔ '+' ∉ part := by
  constructor
  · intro hpair
    exact hpair.not_mem rfl
  · intro hsign
    cases h with
    | pair hpair => exact hpair
    | signed hlow => exact absurd List.mem_cons_self hsign

theorem group?_eq_some_iff : group? part = some octet ↔ Group part octet := by
  constructor
  · intro h
    unfold group? at h
    split at h
    · rename_i low
      obtain ⟨l, hlow, rfl⟩ := Option.map_eq_some_iff.1 h
      exact .signed (Hex.digitValue?_eq_some_iff.1 hlow)
    · rename_i high low hsign
      simp only [Option.bind_eq_bind, Option.bind_eq_some_iff] at h
      obtain ⟨h, hhigh, l, hlow, heq⟩ := h
      cases heq
      exact .pair (.digits (Hex.digitValue?_eq_some_iff.1 hhigh)
        (Hex.digitValue?_eq_some_iff.1 hlow))
    · cases h
  · intro h
    cases h with
    | pair hpair =>
      cases hpair with
      | @digits high low h l hhigh hlow =>
        have hsign : high ≠ '+' := (ne_of_denotes hhigh rfl).symm
        rw [← Hex.digitValue?_eq_some_iff] at hhigh hlow
        rw [group?, hhigh, hlow]
        · rfl
        · exact hsign
    | signed hlow =>
      rw [← Hex.digitValue?_eq_some_iff] at hlow
      rw [group?, hlow]
      rfl

/-- Two digits for an octet are in lower case what is written for it. -/
theorem pair_iff_map_toLower : Pair part octet ↔ part.map Char.toLower = Hex.octetDigits octet := by
  constructor
  · intro hpair
    cases hpair with
    | @digits high low h l hhigh hlow =>
      obtain ⟨hh, hhigh⟩ := hhigh
      obtain ⟨hl, hlow⟩ := hlow
      have hworth : (UInt8.ofNat (h * 16 + l)).toNat = h * 16 + l := by
        rw [UInt8.toNat_ofNat', Nat.mod_eq_of_lt (by omega)]
      have hdiv : (h * 16 + l) / 16 = h := by omega
      have hmod : (h * 16 + l) % 16 = l := by omega
      rw [Hex.octetDigits, hworth, hdiv, hmod, ← hhigh, ← hlow]
      rfl
  · intro h
    obtain ⟨high, rest, rfl, hhigh, hrest⟩ := List.map_eq_cons_iff.1 h
    obtain ⟨low, last, rfl, hlow, hlast⟩ := List.map_eq_cons_iff.1 hrest
    obtain rfl := List.map_eq_nil_iff.1 hlast
    have hlt := octet.toNat_lt
    have hpair := Pair.digits ⟨by omega, hhigh⟩ ⟨Nat.mod_lt octet.toNat (by decide), hlow⟩
    rwa [Nat.div_add_mod', UInt8.ofNat_toNat] at hpair

theorem map_toLower_octetDigits (octet : UInt8) :
    (Hex.octetDigits octet).map Char.toLower = Hex.octetDigits octet := by
  have hlower : ∀ n < 16, (Hex.digitChar n).toLower = Hex.digitChar n := by decide
  have hlt := octet.toNat_lt
  rw [Hex.octetDigits, List.map_cons, List.map_singleton, hlower _ (by omega),
    hlower _ (Nat.mod_lt octet.toNat (by decide))]

theorem pair_octetDigits (octet : UInt8) : Pair (Hex.octetDigits octet) octet :=
  pair_iff_map_toLower.2 (map_toLower_octetDigits octet)

/-! ### Six groups -/

theorem exists_octets (address : HardwareAddress) :
    ∃ a b c d e f, address = #v[a, b, c, d, e, f] := by
  refine ⟨address[0], address[1], address[2], address[3], address[4], address[5], ?_⟩
  ext i hi
  interval_cases i <;> rfl

theorem parse?_eq_some_iff :
    parse? cs = some address ↔ List.Forall₂ Group (Split.all ':' cs) address.toList := by
  unfold parse?
  constructor
  · intro h
    split at h
    · rename_i hparts
      simp only [Option.bind_eq_bind, Option.bind_eq_some_iff, group?_eq_some_iff] at h
      obtain ⟨a, ha, b, hb, c, hc, d, hd, e, he, f, hf, heq⟩ := h
      cases heq
      rw [hparts]
      exact .cons ha (.cons hb (.cons hc (.cons hd (.cons he (.cons hf .nil)))))
    · cases h
  · intro h
    obtain ⟨a, b, c, d, e, f, rfl⟩ := exists_octets address
    simp only [Vector.toList_mk, List.forall₂_cons_right_iff, List.forall₂_nil_right_iff] at h
    obtain ⟨_, _, ha, ⟨_, _, hb, ⟨_, _, hc, ⟨_, _, hd, ⟨_, _, he, ⟨_, _, hf, rfl, rfl⟩, rfl⟩, rfl⟩,
      rfl⟩, rfl⟩, hparts⟩ := h
    rw [hparts]
    simp only [group?_eq_some_iff.2 ha, group?_eq_some_iff.2 hb, group?_eq_some_iff.2 hc,
      group?_eq_some_iff.2 hd, group?_eq_some_iff.2 he, group?_eq_some_iff.2 hf]
    rfl

theorem toList_ne_nil (address : HardwareAddress) : address.toList ≠ [] := by
  obtain ⟨a, b, c, d, e, f, rfl⟩ := exists_octets address
  exact List.cons_ne_nil a _

theorem parse_eq_elim :
    parse text =
      (parse? text.toList).elim
        (.error ⟨.config, s!"Invalid MAC address {Quoted.text text}"⟩) .ok := by
  unfold parse
  cases parse? text.toList <;> rfl

theorem spells_group_iff : Spells Group text address ↔ parse? text.toList = some address := by
  rw [Spells, Split.exists_parts_iff (fun _ _ ↦ Group.colon_not_mem) (toList_ne_nil address),
    parse?_eq_some_iff]

theorem parse_eq_ok_iff : parse text = .ok address ↔ Spells Group text address := by
  rw [parse_eq_elim, elim_eq_ok_iff, spells_group_iff]

theorem parse_of_not_spells (h : ∀ address, ¬Spells Group text address) :
    parse text = .error ⟨.config, s!"Invalid MAC address {Quoted.text text}"⟩ := by
  rw [parse_eq_elim]
  apply elim_of_forall_ne
  intro address hread
  exact h address (spells_group_iff.2 hread)

/-- Without a plus sign all six groups are digits. -/
theorem spells_pair_iff :
    Spells Pair text address ↔ Spells Group text address ∧ '+' ∉ text.toList := by
  constructor
  · rintro ⟨parts, htext, hparts⟩
    refine ⟨⟨parts, htext, hparts.imp fun _ _ ↦ .pair⟩, ?_⟩
    rw [htext, Split.not_mem_intercalate_iff (by decide)]
    exact Split.forall_not_mem_part (fun _ _ h ↦ h.not_mem rfl) hparts
  · rintro ⟨⟨parts, htext, hparts⟩, hsign⟩
    rw [htext, Split.not_mem_intercalate_iff (by decide)] at hsign
    have hboth := (List.forall₂_and_left parts address.toList).2 ⟨hsign, hparts⟩
    exact ⟨parts, htext, hboth.imp fun part octet h ↦ h.2.pair_iff.2 h.1⟩

theorem toLower_eq_colon_iff (c : Char) : c.toLower = ':' ↔ c = ':' := by
  have hcolon : ':'.toNat = 58 := rfl
  rw [← Char.toNat_inj, ← Char.toNat_inj, Hex.toNat_toLower, hcolon]
  split <;> omega

theorem forall₂_pair_iff :
    List.Forall₂ Pair parts octets ↔
      parts.map (List.map Char.toLower) = octets.map Hex.octetDigits := by
  have hpair : Pair = fun part octet ↦ part.map Char.toLower = Hex.octetDigits octet := by
    funext part octet
    exact propext pair_iff_map_toLower
  calc
    List.Forall₂ Pair parts octets ↔
        List.Forall₂ (· = ·) (parts.map (List.map Char.toLower)) (octets.map Hex.octetDigits) := by
      rw [hpair, List.forall₂_map_left_iff, List.forall₂_map_right_iff]
    _ ↔ _ := by rw [List.forall₂_eq_eq_eq]

theorem toLower_eq_display_iff :
    text.toLower = address.display ↔
      text.toList.map Char.toLower = [':'].intercalate (address.toList.map Hex.octetDigits) := by
  have hlower : text.toLower = text.map Char.toLower := rfl
  rw [← String.toList_inj, hlower, String.toList_map, display, String.toList_ofList]

/-- A text of six pairs of digits is in lower case the address as it is written, and no other text
is. -/
theorem spells_pair_iff_toLower : Spells Pair text address ↔ text.toLower = address.display := by
  rw [toLower_eq_display_iff]
  constructor
  · rintro ⟨parts, htext, hparts⟩
    rw [htext, Split.map_intercalate, forall₂_pair_iff.1 hparts]
    rfl
  · intro htext
    have hne : address.toList.map Hex.octetDigits ≠ [] :=
      mt List.map_eq_nil_iff.1 (toList_ne_nil address)
    have hcut : (Split.all ':' text.toList).map (List.map Char.toLower) =
        address.toList.map Hex.octetDigits := by
      rw [← Split.all_map toLower_eq_colon_iff, Split.all_eq_iff hne]
      refine ⟨htext, fun part hpart ↦ ?_⟩
      obtain ⟨octet, -, rfl⟩ := List.mem_map.1 hpart
      exact (pair_octetDigits octet).not_mem rfl
    exact ⟨_, (List.intercalate_splitOn ':').symm, forall₂_pair_iff.2 hcut⟩

/-- A text is read as a hardware address exactly if it is six groups, and then as the octets of the
groups in order. The texts without a plus sign among these are those of six pairs of digits, which
in lower case are the address as it is written. No other text is read. -/
theorem parse_groups (text : String) :
    (∀ address, parse text = .ok address ↔ Spells Group text address) ∧
      (∀ address, Spells Pair text address ↔ parse text = .ok address ∧ '+' ∉ text.toList) ∧
      (∀ address, Spells Pair text address ↔ text.toLower = address.display) ∧
      ((∀ address, ¬Spells Group text address) →
        parse text = .error ⟨.config, s!"Invalid MAC address {Quoted.text text}"⟩) := by
  refine ⟨fun _ ↦ parse_eq_ok_iff, fun address ↦ ?_, fun _ ↦ spells_pair_iff_toLower,
    parse_of_not_spells⟩
  rw [spells_pair_iff, parse_eq_ok_iff]

/-- Digits of both cases are read. A letter of two octets is not two digits. -/
theorem parse_groups_mixedCase :
    parse "5A:94:ef:E4:0c:eE" = .ok #v[0x5a, 0x94, 0xef, 0xe4, 0x0c, 0xee] ∧
      Spells Pair "5A:94:ef:E4:0c:eE" #v[0x5a, 0x94, 0xef, 0xe4, 0x0c, 0xee] ∧
      (∀ address, ¬Spells Group "5a:94:ef:e4:0c:ß" address) ∧
      ∃ fault, parse "5a:94:ef:e4:0c:ß" = .error fault ∧ fault.kind = .config := by
  have hread : parse "5A:94:ef:E4:0c:eE" = .ok #v[0x5a, 0x94, 0xef, 0xe4, 0x0c, 0xee] := by
    decide +kernel
  have hrefused : parse? "5a:94:ef:e4:0c:ß".toList = none := by decide +kernel
  have hgroups : ∀ address, ¬Spells Group "5a:94:ef:e4:0c:ß" address := by
    intro address h
    rw [spells_group_iff, hrefused] at h
    cases h
  exact ⟨hread, ((parse_groups _).2.1 _).2 ⟨hread, by decide⟩, hgroups,
    _, (parse_groups _).2.2.2 hgroups, rfl⟩

/-- A plus sign passes for a digit: this text is read, is not six pairs of digits for any address,
and is not what the address that it gives is written as. -/
theorem signedGroup_read :
    parse "+5:94:ef:e4:0c:ee" = .ok #v[0x05, 0x94, 0xef, 0xe4, 0x0c, 0xee] ∧
      (∀ address, ¬Spells Pair "+5:94:ef:e4:0c:ee" address) ∧
      "+5:94:ef:e4:0c:ee".toLower ≠ display #v[0x05, 0x94, 0xef, 0xe4, 0x0c, 0xee] := by
  have hpairs : ∀ address, ¬Spells Pair "+5:94:ef:e4:0c:ee" address := by
    intro address h
    exact absurd (spells_pair_iff.1 h).2 (by decide)
  exact ⟨by decide +kernel, hpairs, fun h ↦ hpairs _ (spells_pair_iff_toLower.2 h)⟩

end AttestedUplink.HardwareAddress
