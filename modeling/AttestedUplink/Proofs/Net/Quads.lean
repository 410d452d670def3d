import AttestedUplink.Net.Address
import AttestedUplink.Proofs.Checks
import AttestedUplink.Proofs.Text.Cuts
import AttestedUplink.Proofs.Text.Numerals

/-!
# Addresses with a prefix length

An address has one text for its four octets, and as many texts for its prefix length as this has
numerals. What is read is told here by the parts of a text; an address that is shown is read back
unless its prefix is longer than an address.
-/

namespace AttestedUplink

namespace Ipv4

/-- One to three digits that do not start with a zero for nothing, and what they are worth. -/
structure Octet (part : List Char) (octet : UInt8) : Prop where
  ne_nil : part ≠ []
  short : part.length ≤ 3
  digits : ∀ c ∈ part, c.isDigit = true
  leading : part.head? = some '0' → part.length = 1
  worth : Nat.ofDigitChars 10 part 0 = octet.toNat

/-- Four octets with dots between them. -/
def Quad (cs : List Char) (ip : Ipv4) : Prop :=
  ∃ parts, cs = ['.'].intercalate parts ∧ List.Forall₂ Octet parts [ip.a, ip.b, ip.c, ip.d]

variable {c : Char} {cs part : List Char} {octet : UInt8} {ip : Ipv4}

theorem octet?_eq_some_iff : octet? part = some octet ↔ Octet part octet := by
  unfold octet?
  constructor
  · intro h
    split at h
    · rename_i hshape
      obtain ⟨n, hfilter, rfl⟩ := Option.map_eq_some_iff.1 h
      obtain ⟨hn, hle⟩ := Option.filter_eq_some_iff.1 hfilter
      obtain ⟨hne, hdigits, hworth⟩ := Numeral.digits?_eq_some_iff.1 hn
      have hlt : n < 256 := Nat.lt_succ_of_le (of_decide_eq_true hle)
      exact ⟨hne, hshape.1, hdigits, hshape.2,
        by rw [hworth, UInt8.toNat_ofNat', Nat.mod_eq_of_lt hlt]⟩
    · cases h
  · intro h
    have hle : octet.toNat ≤ 255 := Nat.le_of_lt_succ octet.toNat_lt
    rw [if_pos ⟨h.short, h.leading⟩, Numeral.digits?_eq_some_iff.2 ⟨h.ne_nil, h.digits, h.worth⟩,
      Option.filter_some, if_pos (decide_eq_true hle), Option.map_some, UInt8.ofNat_toNat]

theorem Octet.not_mem (h : Octet part octet) (hc : c.isDigit = false) : c ∉ part := by
  intro hmem
  rw [h.digits c hmem] at hc
  cases hc

theorem octet_toString (octet : UInt8) : Octet (toString octet.toNat).toList octet := by
  have htext : (toString octet.toNat).toList = Nat.toDigits 10 octet.toNat := by
    rw [Nat.toString_eq_ofList_toDigits, String.toList_ofList]
  have hlt := octet.toNat_lt
  constructor
  · rw [htext]
    exact Nat.toDigits_ne_nil
  · rw [htext, Nat.length_toDigits_le_iff (by decide) (by decide)]
    omega
  · exact fun c hc ↦ Numeral.isDigit_of_mem_toString hc
  · rw [htext]
    intro hhead
    rw [Numeral.eq_zero_of_head?_toDigits hhead]
    rfl
  · rw [htext, Nat.ofDigitChars_ten_toDigits]

theorem parse?_eq_some_iff : parse? cs = some ip ↔ Quad cs ip := by
  rw [Quad, Split.exists_parts_iff (fun _ _ h ↦ h.not_mem rfl) (List.cons_ne_nil _ _), parse?]
  constructor
  · intro h
    split at h
    · rename_i hparts
      simp only [Option.bind_eq_bind, Option.bind_eq_some_iff, octet?_eq_some_iff] at h
      obtain ⟨a, ha, b, hb, c, hc, d, hd, heq⟩ := h
      cases heq
      rw [hparts]
      exact .cons ha (.cons hb (.cons hc (.cons hd .nil)))
    · cases h
  · intro h
    simp only [List.forall₂_cons_right_iff, List.forall₂_nil_right_iff] at h
    obtain ⟨_, _, ha, ⟨_, _, hb, ⟨_, _, hc, ⟨_, _, hd, rfl, rfl⟩, rfl⟩, rfl⟩, hparts⟩ := h
    rw [hparts]
    simp only [octet?_eq_some_iff.2 ha, octet?_eq_some_iff.2 hb, octet?_eq_some_iff.2 hc,
      octet?_eq_some_iff.2 hd]
    rfl

theorem Quad.slash_not_mem (h : Quad cs ip) : '/' ∉ cs := by
  obtain ⟨parts, rfl, hparts⟩ := h
  rw [Split.not_mem_intercalate_iff (by decide)]
  exact Split.forall_not_mem_part (fun _ _ h ↦ h.not_mem rfl) hparts

theorem Quad.unique {ip' : Ipv4} (h : Quad cs ip) (h' : Quad cs ip') : ip = ip' := by
  rw [← parse?_eq_some_iff] at h h'
  exact Option.some_inj.1 (h.symm.trans h')

theorem toList_display (ip : Ipv4) :
    ip.display.toList = ['.'].intercalate
      ([ip.a, ip.b, ip.c, ip.d].map fun octet ↦ (toString octet.toNat).toList) := by
  have hdot : ".".toList = ['.'] := rfl
  have hdisplay : ip.display = toString ip.a.toNat ++ "." ++ toString ip.b.toNat ++ "." ++
      toString ip.c.toNat ++ "." ++ toString ip.d.toNat := rfl
  rw [hdisplay]
  simp only [String.toList_append, hdot, List.map_cons, List.map_nil, List.intercalate_cons_cons,
    List.intercalate_singleton, List.append_assoc]

theorem quad_display (ip : Ipv4) : Quad ip.display.toList ip := by
  refine ⟨_, toList_display ip, ?_⟩
  rw [List.forall₂_map_left_iff, List.forall₂_same]
  exact fun octet _ ↦ octet_toString octet

end Ipv4

namespace InterfaceAddress

open Checks
open Numeral (Spells)

/-- The text is a dotted quad, a slash and a numeral that is worth no more than the length of an
address, and it is a way to write the address with that prefix length. -/
def Written (text : String) (address : InterfaceAddress) : Prop :=
  ∃ quad numeral, text.toList = quad ++ '/' :: numeral ∧ Ipv4.Quad quad address.ip ∧
    Spells numeral address.prefixLen.toNat ∧ address.prefixLen.toNat ≤ 32

variable {cs : List Char} {text : String} {address address' : InterfaceAddress}

theorem parse?_eq_some_iff : parse? text.toList = some address ↔ Written text address := by
  unfold parse?
  simp only [Option.bind_eq_bind, Option.bind_eq_some_iff, Prod.exists, Split.first?_eq_some_iff,
    Ipv4.parse?_eq_some_iff, Numeral.read?_eq_some_iff]
  constructor
  · rintro ⟨quad, numeral, ⟨htext, -⟩, ip, hquad, n, ⟨hspells, hle⟩, heq⟩
    cases heq
    have hworth : (UInt8.ofNat n).toNat = n := by
      rw [UInt8.toNat_ofNat', Nat.mod_eq_of_lt (by omega)]
    refine ⟨quad, numeral, htext, hquad, ?_, ?_⟩
    · rwa [hworth]
    · rwa [hworth]
  · rintro ⟨quad, numeral, htext, hquad, hspells, hle⟩
    refine ⟨quad, numeral, ⟨htext, hquad.slash_not_mem⟩, _, hquad, _, ⟨hspells, hle⟩, ?_⟩
    rw [UInt8.ofNat_toNat]
    rfl

theorem parse_eq_elim :
    parse text =
      (parse? text.toList).elim
        (.error ⟨.config, s!"Invalid interface address {Quoted.text text}"⟩) .ok := by
  unfold parse
  cases parse? text.toList <;> rfl

theorem parse_eq_ok_iff : parse text = .ok address ↔ Written text address := by
  rw [parse_eq_elim, elim_eq_ok_iff, parse?_eq_some_iff]

theorem parse_of_not_written (h : ∀ address, ¬Written text address) :
    parse text = .error ⟨.config, s!"Invalid interface address {Quoted.text text}"⟩ := by
  rw [parse_eq_elim]
  apply elim_of_forall_ne
  intro address hread
  exact h address (parse?_eq_some_iff.1 hread)

/-! ### Addresses as they are shown -/

theorem toList_display (address : InterfaceAddress) :
    address.display.toList =
      address.ip.display.toList ++ '/' :: (toString address.prefixLen.toNat).toList := by
  have hslash : "/".toList = ['/'] := rfl
  have hdisplay : address.display =
      address.ip.display ++ "/" ++ toString address.prefixLen.toNat := rfl
  rw [hdisplay, String.toList_append, String.toList_append, hslash, List.append_assoc]
  rfl

theorem written_display (h : address.prefixLen.toNat ≤ 32) : Written address.display address :=
  ⟨_, _, toList_display address, Ipv4.quad_display address.ip, Numeral.spells_toString _, h⟩

theorem Written.prefixLen_le (h : Written text address) : address.prefixLen.toNat ≤ 32 := by
  obtain ⟨-, -, -, -, -, hle⟩ := h
  exact hle

theorem first?_display (address : InterfaceAddress) :
    Split.first? ['/'] address.display.toList =
      some (address.ip.display.toList, (toString address.prefixLen.toNat).toList) :=
  Split.first?_eq_some_iff.2
    ⟨toList_display address, (Ipv4.quad_display address.ip).slash_not_mem⟩

theorem display_injective : Function.Injective display := by
  intro address address' h
  have hcut := first?_display address
  rw [h, first?_display address', Option.some_inj, Prod.mk.injEq] at hcut
  obtain ⟨hquad, hnumeral⟩ := hcut
  have hip : address.ip = address'.ip :=
    (Ipv4.quad_display address.ip).unique (hquad ▸ Ipv4.quad_display address'.ip)
  have hlen : address.prefixLen.toNat = address'.prefixLen.toNat :=
    (Numeral.spells_toString _).unique (hnumeral ▸ Numeral.spells_toString _)
  cases address
  cases address'
  cases hip
  cases UInt8.toNat_inj.1 hlen
  rfl

/-- A text is read as an address exactly if it is a way to write it, and is refused otherwise. An
address that is shown is read back if its prefix is no longer than an address. Different addresses
are never shown alike, whatever their prefixes. -/
theorem parse_and_display :
    (∀ text address, parse text = .ok address ↔ Written text address) ∧
      (∀ text, (∀ address, ¬Written text address) →
        parse text = .error ⟨.config, s!"Invalid interface address {Quoted.text text}"⟩) ∧
      (∀ address, parse address.display = .ok address ↔ address.prefixLen.toNat ≤ 32) ∧
      ∀ address address' : InterfaceAddress,
        address.display = address'.display → address = address' := by
  refine ⟨fun _ _ ↦ parse_eq_ok_iff, fun _ ↦ parse_of_not_written, fun address ↦ ?_,
    fun _ _ h ↦ display_injective h⟩
  rw [parse_eq_ok_iff]
  exact ⟨Written.prefixLen_le, written_display⟩

/-- The prefix length may have a sign and zeros in front, the octets may not, and a prefix of 33 is
too long. No digit can be taken for part of another number. -/
theorem parse_and_display_padded :
    parse "192.168.127.2/+024" = .ok ⟨⟨192, 168, 127, 2⟩, 24⟩ ∧
      (∀ address, ¬Written "192.168.127.02/33" address) ∧
      (∃ fault, parse "192.168.127.02/33" = .error fault ∧ fault.kind = .config) ∧
      display ⟨⟨1, 2, 3, 4⟩, 20⟩ ≠ display ⟨⟨1, 2, 3, 42⟩, 0⟩ := by
  have hread : Written "192.168.127.2/+024" ⟨⟨192, 168, 127, 2⟩, 24⟩ := by
    rw [← parse?_eq_some_iff]
    decide +kernel
  have hrefused : ∀ address, ¬Written "192.168.127.02/33" address := by
    intro address h
    have hnone : parse? "192.168.127.02/33".toList = none := by decide +kernel
    rw [← parse?_eq_some_iff, hnone] at h
    cases h
  refine ⟨(parse_and_display.1 _ _).2 hread, hrefused,
    ⟨_, parse_and_display.2.1 _ hrefused, rfl⟩, fun h ↦ ?_⟩
  exact absurd (parse_and_display.2.2.2 _ _ h) (by decide)

end InterfaceAddress

end AttestedUplink
