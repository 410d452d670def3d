import AttestedUplink.Proofs.Text.Utf8
import AttestedUplink.Text.Reading
import Mathlib.Tactic.IntervalCases

/-!
# Texts of hexadecimal digits

Hexadecimal text is read by its octets. The digits are characters of one octet each, so the texts
that are read are those with an even number of characters, all of them digits.
-/

namespace AttestedUplink

open Bytes (ofText)

/-- Characters below 128 travel as octets of the same number. -/
theorem Bytes.utf8EncodeChar_of_lt {c : Char} (h : c.toNat < 128) :
    String.utf8EncodeChar c = [UInt8.ofNat c.toNat] := by
  have hval : c.val.toNat = c.toNat := rfl
  unfold String.utf8EncodeChar
  rw [hval, if_pos (Nat.le_of_lt_succ h)]

namespace Hex

variable {c : Char} {n : ℕ} {text : String} {octets done bytes : Bytes} {position : ℕ}

/-- A hexadecimal digit of either case. -/
def IsDigit (c : Char) : Prop :=
  c.isDigit = true ∨ ('a' ≤ c ∧ c ≤ 'f') ∨ ('A' ≤ c ∧ c ≤ 'F')

theorem digitValue?_eq_none_iff {code : ℕ} :
    digitValue? code = none ↔
      ¬((48 ≤ code ∧ code ≤ 57) ∨ (97 ≤ code ∧ code ≤ 102) ∨ (65 ≤ code ∧ code ≤ 70)) := by
  unfold digitValue?
  split <;> (try split) <;> (try split) <;> simp <;> omega

theorem isDigit_iff : IsDigit c ↔ digitValue? c.toNat ≠ none := by
  rw [Ne, digitValue?_eq_none_iff, not_not, IsDigit, Char.isDigit, Bool.and_eq_true,
    decide_eq_true_iff, decide_eq_true_iff]
  rfl

theorem toNat_lt_of_isDigit (h : IsDigit c) : c.toNat < 128 := by
  rw [isDigit_iff, Ne, digitValue?_eq_none_iff, not_not] at h
  omega

/-! ### The number of a digit -/

/-- The character is the digit for a number, of either case. -/
def Denotes (c : Char) (n : ℕ) : Prop := n < 16 ∧ c.toLower = digitChar n

theorem toNat_toLower (c : Char) :
    c.toLower.toNat = if 65 ≤ c.toNat ∧ c.toNat ≤ 90 then c.toNat + 32 else c.toNat := by
  have hupper : c.val ≥ 'A'.val ∧ c.val ≤ 'Z'.val ↔ 65 ≤ c.toNat ∧ c.toNat ≤ 90 := Iff.rfl
  unfold Char.toLower
  split
  · rename_i h
    have hle : c.val.toNat ≤ 90 := h.2
    have hadd : (c.val + 32).toNat = (c.val.toNat + 32) % 2 ^ 32 := UInt32.toNat_add ..
    rw [if_pos (hupper.1 h)]
    change (c.val + 32).toNat = c.val.toNat + 32
    omega
  · rename_i h
    rw [if_neg (mt hupper.2 h)]

theorem toNat_digitChar (hn : n < 16) :
    (digitChar n).toNat = if n < 10 then n + 48 else n + 87 := by
  interval_cases n <;> rfl

theorem denotes_iff :
    Denotes c n ↔ n < 16 ∧
      (if 65 ≤ c.toNat ∧ c.toNat ≤ 90 then c.toNat + 32 else c.toNat) =
        if n < 10 then n + 48 else n + 87 := by
  refine and_congr_right fun hn ↦ ?_
  rw [← Char.toNat_inj, toNat_toLower, toNat_digitChar hn]

theorem digitValue?_eq_some_iff : digitValue? c.toNat = some n ↔ Denotes c n := by
  rw [denotes_iff, digitValue?]
  split_ifs <;> simp <;> omega

theorem isDigit_iff_exists : IsDigit c ↔ ∃ n, Denotes c n := by
  simp only [isDigit_iff, Option.ne_none_iff_exists', digitValue?_eq_some_iff]

/-! ### Reading octets -/

/-- Octets that are read in pairs are digits, and each pair gives an octet. -/
theorem of_decodePairs (heven : octets.length % 2 = 0)
    (h : decodePairs position done octets = .ok bytes) :
    (∀ b ∈ octets, digitValue? b.toNat ≠ none) ∧
      bytes.length = done.length + octets.length / 2 := by
  fun_induction decodePairs position done octets with
  | case1 | case2 => cases h
  | case3 position done high low rest hi hhigh lo hlow ih =>
    have heven' : rest.length % 2 = 0 := by
      simp only [List.length_cons] at heven
      omega
    obtain ⟨hrest, hlen⟩ := ih heven' h
    constructor
    · rw [List.forall_mem_cons, List.forall_mem_cons, hhigh, hlow]
      exact ⟨nofun, nofun, hrest⟩
    · simp only [List.length_cons] at hlen ⊢
      omega
  | case4 octets position done hshort =>
    cases h
    rcases octets with _ | ⟨high, _ | ⟨low, rest⟩⟩
    · exact ⟨nofun, List.length_reverse⟩
    · cases heven
    · exact absurd rfl (hshort high low rest)

theorem exists_decodePairs (h : ∀ b ∈ octets, digitValue? b.toNat ≠ none) :
    ∃ bytes, decodePairs position done octets = .ok bytes := by
  fun_induction decodePairs position done octets with
  | case1 position done high low rest hhigh => exact absurd hhigh (h high List.mem_cons_self)
  | case2 position done high low rest hi hhigh hlow =>
    exact absurd hlow (h low (List.mem_cons_of_mem high List.mem_cons_self))
  | case3 position done high low rest hi hhigh lo hlow ih =>
    apply ih
    intro b hb
    exact h b (List.mem_cons_of_mem high (List.mem_cons_of_mem low hb))
  | case4 octets position done => exact ⟨done.reverse, rfl⟩

/-! ### Reading texts -/

theorem ofText_of_digits (h : ∀ c ∈ text.toList, IsDigit c) :
    ofText text = text.toList.map fun c ↦ UInt8.ofNat c.toNat := by
  rw [Bytes.ofText_eq_flatMap, List.map_eq_flatMap]
  apply List.flatMap_congr
  intro c hc
  exact Bytes.utf8EncodeChar_of_lt (toNat_lt_of_isDigit (h c hc))

/-- The octets of a text are digits exactly if its characters are. -/
theorem forall_mem_ofText_iff :
    (∀ b ∈ ofText text, digitValue? b.toNat ≠ none) ↔ ∀ c ∈ text.toList, IsDigit c := by
  constructor
  · intro h c hc
    obtain ⟨b, hb⟩ := List.exists_mem_of_ne_nil _ (String.utf8EncodeChar_ne_nil (c := c))
    have hmem : b ∈ ofText text := by
      rw [Bytes.ofText_eq_flatMap]
      exact List.mem_flatMap.2 ⟨c, hc, hb⟩
    have hdigit := h b hmem
    have hlow : b.toNat < 128 := by
      rw [Ne, digitValue?_eq_none_iff, not_not] at hdigit
      omega
    rwa [isDigit_iff, Bytes.toNat_eq_of_mem_utf8EncodeChar hb hlow]
  · intro h b hb
    rw [ofText_of_digits h, List.mem_map] at hb
    obtain ⟨c, hc, rfl⟩ := hb
    have hlow := toNat_lt_of_isDigit (h c hc)
    rw [UInt8.toNat_ofNat', Nat.mod_eq_of_lt (Nat.lt_trans hlow (by decide))]
    exact isDigit_iff.1 (h c hc)

/-- The texts of hexadecimal digits for a given number of octets. -/
theorem exists_decode_iff (count : ℕ) :
    (∃ bytes, decode text = .ok bytes ∧ bytes.length = count) ↔
      text.toList.length = 2 * count ∧ ∀ c ∈ text.toList, IsDigit c := by
  simp only [decode]
  constructor
  · rintro ⟨bytes, h, rfl⟩
    split at h
    · cases h
    · rename_i heven
      obtain ⟨hdigits, hlen⟩ := of_decodePairs (by omega) h
      rw [forall_mem_ofText_iff] at hdigits
      rw [ofText_of_digits hdigits, List.length_map] at heven hlen
      refine ⟨?_, hdigits⟩
      rw [hlen, List.length_nil]
      omega
  · rintro ⟨hlen, hdigits⟩
    obtain ⟨bytes, h⟩ : ∃ bytes, decodePairs 0 [] (ofText text) = .ok bytes :=
      exists_decodePairs (forall_mem_ofText_iff.2 hdigits)
    have heven : (ofText text).length = 2 * count := by
      rw [ofText_of_digits hdigits, List.length_map, hlen]
    refine ⟨bytes, ?_, ?_⟩
    · rw [if_neg (by omega), h]
    · rw [(of_decodePairs (by omega) h).2, heven, List.length_nil]
      omega

end Hex

end AttestedUplink
