import AttestedUplink.Text.Reading
import Mathlib.Data.List.Basic

/-!
# What numerals are worth

A numeral is at least one ASCII digit, with or without a plus sign in front, and it is worth what
its digits are worth. A number has many numerals, for zeros may lead. Readers take exactly the
numerals within their bound.
-/

namespace AttestedUplink.Numeral

/-- The characters are a numeral, and `n` is its worth. -/
inductive Spells : List Char → ℕ → Prop
  | plain {digits : List Char} (hne : digits ≠ []) (hdigits : ∀ c ∈ digits, c.isDigit = true) :
    Spells digits (Nat.ofDigitChars 10 digits 0)
  | signed {digits : List Char} (hne : digits ≠ []) (hdigits : ∀ c ∈ digits, c.isDigit = true) :
    Spells ('+' :: digits) (Nat.ofDigitChars 10 digits 0)

variable {c : Char} {cs : List Char} {n m : ℕ}

theorem digit?_eq : digit? c = if c.isDigit then some (c.toNat - '0'.toNat) else none := by
  simp only [digit?, Char.isDigit, Bool.and_eq_true, decide_eq_true_eq]
  rfl

theorem foldDigits?_eq_some_iff :
    foldDigits? n cs = some m ↔
      (∀ c ∈ cs, c.isDigit = true) ∧ Nat.ofDigitChars 10 cs n = m := by
  induction cs generalizing n with
  | nil => simp [foldDigits?]
  | cons c cs ih =>
    rw [foldDigits?, digit?_eq, List.forall_mem_cons, Nat.ofDigitChars_cons, Nat.mul_comm 10 n]
    by_cases hdigit : c.isDigit = true
    · simp [hdigit, ih]
    · simp [hdigit]

theorem digits?_eq_some_iff :
    digits? cs = some n ↔
      cs ≠ [] ∧ (∀ c ∈ cs, c.isDigit = true) ∧ Nat.ofDigitChars 10 cs 0 = n := by
  cases cs with
  | nil => simp [digits?]
  | cons c cs =>
    rw [digits?, foldDigits?_eq_some_iff]
    exact (and_iff_right (List.cons_ne_nil c cs)).symm

theorem unsigned_of_digits (hdigits : ∀ c ∈ cs, c.isDigit = true) : unsigned cs = cs := by
  unfold unsigned
  split
  · exact absurd (hdigits '+' List.mem_cons_self) (by decide)
  · rfl

theorem eq_unsigned_or (cs : List Char) : cs = '+' :: unsigned cs ∨ cs = unsigned cs := by
  unfold unsigned
  split
  · exact .inl rfl
  · exact .inr rfl

theorem spells_iff : Spells cs n ↔ digits? (unsigned cs) = some n := by
  rw [digits?_eq_some_iff]
  constructor
  · rintro (⟨hne, hdigits⟩ | ⟨hne, hdigits⟩)
    · rw [unsigned_of_digits hdigits]
      exact ⟨hne, hdigits, rfl⟩
    · exact ⟨hne, hdigits, rfl⟩
  · rintro ⟨hne, hdigits, rfl⟩
    rcases eq_unsigned_or cs with hcs | hcs
    · have hspells := Spells.signed hne hdigits
      rwa [← hcs] at hspells
    · have hspells := Spells.plain hne hdigits
      rwa [← hcs] at hspells ⊢

theorem read?_eq_some_iff {most : ℕ} : read? most cs = some n ↔ Spells cs n ∧ n ≤ most := by
  rw [read?, Option.filter_eq_some_iff, spells_iff, decide_eq_true_iff]

theorem isDigit_of_mem_toString (hc : c ∈ (toString n).toList) : c.isDigit = true := by
  rw [Nat.toString_eq_ofList_toDigits, String.toList_ofList] at hc
  exact Nat.isDigit_of_mem_toDigits (by decide) (by decide) hc

/-- The usual numeral of a number. -/
theorem spells_toString (n : ℕ) : Spells (toString n).toList n := by
  have htext : (toString n).toList = Nat.toDigits 10 n := by
    rw [Nat.toString_eq_ofList_toDigits, String.toList_ofList]
  have hspells := Spells.plain (htext ▸ Nat.toDigits_ne_nil)
    (fun _ ↦ isDigit_of_mem_toString (n := n))
  rwa [htext, Nat.ofDigitChars_ten_toDigits, ← htext] at hspells

theorem Spells.unique (h : Spells cs n) (h' : Spells cs m) : n = m := by
  rw [spells_iff] at h h'
  exact Option.some_inj.1 (h.symm.trans h')

/-- Only the usual numeral of zero starts with a zero. -/
theorem eq_zero_of_head?_toDigits (h : (Nat.toDigits 10 n).head? = some '0') : n = 0 := by
  induction n using Nat.strongRecOn with
  | ind n ih =>
    by_cases hlt : n < 10
    · rw [Nat.toDigits_of_lt_base hlt, List.head?_cons, Option.some_inj] at h
      exact Nat.digitChar_eq_zero.1 h
    · rw [Nat.toDigits_of_base_le (by decide) (by omega),
        List.head?_append_of_ne_nil _ Nat.toDigits_ne_nil] at h
      have hfront := ih (n / 10) (by omega) h
      omega

theorem not_mem_toString (n : ℕ) (hc : c.isDigit = false) : c ∉ (toString n).toList := by
  intro hmem
  rw [isDigit_of_mem_toString hmem] at hc
  cases hc

/-! ### Numerals of words -/

theorem map_read?_eq_some_iff {Word : Type} {ofNat : ℕ → Word} {most : ℕ} {word : Word} :
    (read? most cs).map ofNat = some word ↔ ∃ n, Spells cs n ∧ n ≤ most ∧ ofNat n = word := by
  simp only [Option.map_eq_some_iff, read?_eq_some_iff, and_assoc]

theorem readWord16?_eq_some_iff {word : UInt16} :
    readWord16? cs = some word ↔ ∃ n, Spells cs n ∧ n ≤ 0xFFFF ∧ UInt16.ofNat n = word :=
  map_read?_eq_some_iff

theorem readWord32?_eq_some_iff {word : UInt32} :
    readWord32? cs = some word ↔ ∃ n, Spells cs n ∧ n ≤ 0xFFFFFFFF ∧ UInt32.ofNat n = word :=
  map_read?_eq_some_iff

theorem readWord64?_eq_some_iff {word : UInt64} :
    readWord64? cs = some word ↔
      ∃ n, Spells cs n ∧ n ≤ 0xFFFFFFFFFFFFFFFF ∧ UInt64.ofNat n = word :=
  map_read?_eq_some_iff

end AttestedUplink.Numeral
