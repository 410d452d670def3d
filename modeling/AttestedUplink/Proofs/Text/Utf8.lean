import AttestedUplink.Bytes
import Mathlib.Data.List.Basic

/-!
# Texts as octets

A text travels as the octets of its characters, one after the other. It is read back from them, and
an octet below 128 stands for the character with its number and nowhere else.
-/

namespace AttestedUplink.Bytes

theorem toList_loop (octets : ByteArray) (position : Nat) (done : List UInt8) :
    ByteArray.toList.loop octets position done =
      done.reverse ++ octets.data.toList.drop position := by
  fun_induction ByteArray.toList.loop octets position done with
  | case1 position done hlt ih =>
    have hlen : position < octets.data.toList.length := by simpa using hlt
    have hget : octets.get! position = octets.data.toList[position] := by
      rw [ByteArray.get!, Array.getElem_toList]
      exact getElem!_pos octets.data position _
    rw [ih, List.drop_eq_getElem_cons hlen, hget]
    simp
  | case2 position done hge =>
    have hlen : octets.data.toList.length ≤ position := by simpa using hge
    simp [List.drop_eq_nil_of_le hlen]

theorem toList_eq_data (octets : ByteArray) : octets.toList = octets.data.toList := by
  rw [ByteArray.toList, toList_loop]
  rfl

theorem ofText_eq (text : String) : ofText text = text.toByteArray.data.toList :=
  toList_eq_data _

@[simp] theorem ofText_append (first second : String) :
    ofText (first ++ second) = ofText first ++ ofText second := by
  simp only [ofText_eq, String.toByteArray_append, ByteArray.data_append, Array.toList_append]

@[simp] theorem ofText_ofList (cs : List Char) :
    ofText (String.ofList cs) = cs.flatMap String.utf8EncodeChar := by
  rw [ofText_eq, String.toByteArray_ofList, List.utf8Encode, List.toList_data_toByteArray]

theorem ofText_eq_flatMap (text : String) :
    ofText text = text.toList.flatMap String.utf8EncodeChar := by
  rw [← ofText_ofList, String.ofList_toList]

theorem ofText_injective : Function.Injective ofText := by
  intro first second h
  rw [ofText_eq, ofText_eq] at h
  have hdata : first.toByteArray.data = second.toByteArray.data := Array.toList_inj.1 h
  exact String.toByteArray_inj.1 (ByteArray.ext hdata)

theorem toByteArray_ofText (text : String) :
    ByteArray.mk (ofText text).toArray = text.toByteArray :=
  ByteArray.ext (congrArg List.toArray (ofText_eq text))

/-- A text is read back from its octets, and from no others. -/
theorem toText?_eq_some_iff {octets : Bytes} {text : String} :
    toText? octets = some text ↔ octets = ofText text := by
  unfold toText? String.fromUTF8?
  constructor
  · intro h
    split at h
    · cases h
      rw [ofText_eq]
      rfl
    · cases h
  · rintro rfl
    have hvalid : (ByteArray.mk (ofText text).toArray).IsValidUTF8 := by
      rw [toByteArray_ofText]
      exact text.isValidUTF8
    rw [dif_pos hvalid, Option.some.injEq]
    exact String.toByteArray_inj.1 (toByteArray_ofText text)

@[simp] theorem toText?_ofText (text : String) : toText? (ofText text) = some text :=
  toText?_eq_some_iff.2 rfl

/-- An octet below 128 is a character of its own. -/
theorem toNat_eq_of_mem_utf8EncodeChar {c : Char} {b : UInt8}
    (hmem : b ∈ String.utf8EncodeChar c) (hlow : b.toNat < 128) : c.toNat = b.toNat := by
  unfold String.utf8EncodeChar at hmem
  have hval : c.val.toNat = c.toNat := rfl
  simp only [hval] at hmem
  -- all but the shortest form have octets of 128 and more
  split at hmem
  · rename_i hshort
    rw [List.mem_singleton.1 hmem, UInt8.toNat_ofNat']
    omega
  · exfalso
    split at hmem
    · simp only [List.mem_cons, List.not_mem_nil, or_false] at hmem
      rcases hmem with rfl | rfl <;> rw [UInt8.toNat_ofNat'] at hlow <;> omega
    · split at hmem
      · simp only [List.mem_cons, List.not_mem_nil, or_false] at hmem
        rcases hmem with rfl | rfl | rfl <;> rw [UInt8.toNat_ofNat'] at hlow <;> omega
      · simp only [List.mem_cons, List.not_mem_nil, or_false] at hmem
        rcases hmem with rfl | rfl | rfl | rfl <;> rw [UInt8.toNat_ofNat'] at hlow <;> omega

theorem not_mem_ofText {text : String} {b : UInt8} (hlow : b.toNat < 128)
    (h : ∀ c ∈ text.toList, c.toNat ≠ b.toNat) : b ∉ ofText text := by
  rw [ofText_eq_flatMap]
  intro hmem
  obtain ⟨c, hc, hb⟩ := List.mem_flatMap.1 hmem
  exact h c hc (toNat_eq_of_mem_utf8EncodeChar hb hlow)

end AttestedUplink.Bytes
