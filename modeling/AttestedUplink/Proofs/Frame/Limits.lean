import AttestedUplink.Proofs.Frame.Wire
import AttestedUplink.Settings.Link

/-!
# Limits of codecs

The limit of a codec comes from a word of 64 bits and is capped by what the length field can
describe. Two sums lead from the payload size of a device to that word. The sum of the settings
stops at the largest word, so that its limit is exact for every payload size. The sum of
`Codec.ofMtu` starts over, so that its limit is exact only while a header on top of the payload size
is still a word. Beyond that a header alone is above the limit.

Neither sum has a say in what is written: a frame within the limit always goes out behind its length
in full.
-/

namespace AttestedUplink

namespace Frame

/-- A length of sixteen bits is written in full. -/
theorem exists_envelope_eq {frame : Bytes} (h : frame.length ≤ maxDescribable) :
    ∃ low high : UInt8, envelope frame = low :: high :: frame ∧
      low.toNat + 256 * high.toNat = frame.length := by
  refine ⟨UInt8.ofNat frame.length, UInt8.ofNat (frame.length / 256), rfl, ?_⟩
  rw [UInt8.toNat_ofNat', UInt8.toNat_ofNat']
  simp only [maxDescribable] at h
  omega

theorem Codec.encode_eq_error_iff {codec : Codec} {frame : Bytes} {violation : Violation} :
    codec.encode frame = .error violation ↔
      codec.maxLen < frame.length ∧ violation = .tooLong frame.length codec.maxLen := by
  unfold encode
  by_cases hlt : codec.maxLen < frame.length
  · simp [hlt, eq_comm]
  · simp [hlt]

theorem Codec.exists_encode_eq_error_iff {codec : Codec} {frame : Bytes} :
    (∃ violation, codec.encode frame = .error violation) ↔ codec.maxLen < frame.length := by
  simp only [encode_eq_error_iff, exists_and_left, exists_eq, and_true]

end Frame

/-- The sum of the settings is never more than the largest word, and up to there it is exact. -/
theorem LinkSettings.toNat_maxFrameLen_eq_min (link : LinkSettings) :
    link.maxFrameLen.toNat = min (link.mtu.toNat + 14) (UInt64.size - 1) := by
  have hheader : Frame.ethernetHeaderLen.toNat = 14 := rfl
  have hsize : UInt64.size = 0x10000000000000000 := rfl
  rw [maxFrameLen, UInt64.toNat_ofNat', hheader]
  omega

theorem LinkSettings.toNat_maxFrameLen {link : LinkSettings} (h : link.mtu.toNat ≤ 65521) :
    link.maxFrameLen.toNat = link.mtu.toNat + 14 := by
  have hroom : link.mtu.toNat + 14 ≤ UInt64.size - 1 :=
    (Nat.add_le_add_right h 14).trans (by decide)
  rw [toNat_maxFrameLen_eq_min, Nat.min_eq_left hroom]

namespace Frame.Codec

/-- A frame of at most `limit` octets goes into a buffer behind its length in full. A longer one is
refused and leaves the buffer as it was. -/
structure LimitedTo (codec : Codec) (limit : ℕ) : Prop where
  maxLen : codec.maxLen = limit
  encode : ∀ buffer frame,
    (limit < frame.length ∧
      codec.perform buffer (.encode frame) = (.refused (.tooLong frame.length limit), buffer)) ∨
    (frame.length ≤ limit ∧ ∃ low high : UInt8, low.toNat + 256 * high.toNat = frame.length ∧
      codec.perform buffer (.encode frame) = (.done, buffer ++ low :: high :: frame))

/-- A larger word never gives a lower limit. -/
def Rising (codec : UInt64 → Codec) : Prop :=
  ∀ ⦃small large⦄, small ≤ large → (codec small).maxLen ≤ (codec large).maxLen

variable {codec other : Codec} {limit : ℕ} {mtu small large : UInt64}

/-- What a codec writes depends on nothing but its limit, and no limit is above what the length
field can describe. -/
theorem limitedTo_of_maxLen (h : codec.maxLen = limit) : codec.LimitedTo limit where
  maxLen := h
  encode := by
    subst h
    intro buffer frame
    rcases Nat.lt_or_ge codec.maxLen frame.length with hlong | hfits
    · refine .inl ⟨hlong, ?_⟩
      rw [perform, encode_eq_error_iff.2 ⟨hlong, rfl⟩]
    · obtain ⟨low, high, henvelope, hlength⟩ := exists_envelope_eq (hfits.trans codec.maxLen_le)
      refine .inr ⟨hfits, low, high, hlength, ?_⟩
      rw [perform, encode_eq_ok_iff.2 ⟨hfits, rfl⟩, henvelope]

theorem eq_iff_maxLen_eq : codec = other ↔ codec.maxLen = other.maxLen := by
  cases codec
  cases other
  rw [mk.injEq]

/-! ### The limits of both sums -/

theorem maxLen_ofMaxLen (maxLen : UInt64) :
    (ofMaxLen maxLen).maxLen = min maxLen.toNat 65535 := rfl

/-- A sum that is exact as far as the length field reaches keeps the order of its words. -/
theorem rising_of_maxLen_eq {codec : UInt64 → Codec} (header : ℕ)
    (h : ∀ word, (codec word).maxLen = min (word.toNat + header) 65535) : Rising codec := by
  intro small large hle
  have hsum : small.toNat + header ≤ large.toNat + header :=
    Nat.add_le_add_right (UInt64.le_iff_toNat_le.1 hle) header
  rw [h, h]
  omega

theorem maxLen_ofMaxLen_maxFrameLen (link : LinkSettings) :
    (ofMaxLen link.maxFrameLen).maxLen = min (link.mtu.toNat + 14) 65535 := by
  rw [maxLen_ofMaxLen, link.toNat_maxFrameLen_eq_min, min_assoc]
  rfl

theorem maxLen_ofMtu (mtu : UInt64) :
    (ofMtu mtu).maxLen = min ((mtu.toNat + 14) % UInt64.size) 65535 := by
  rw [ofMtu, maxLen_ofMaxLen, UInt64.toNat_add]
  rfl

/-- The largest payload size that leaves room for a header, and the next one. -/
example : (ofMtu 0xFFFFFFFFFFFFFFF1).maxLen = 65535 ∧ (ofMtu 0xFFFFFFFFFFFFFFF2).maxLen = 0 :=
  ⟨rfl, rfl⟩

theorem maxLen_ofMtu_of_lt (h : mtu.toNat + 14 < UInt64.size) :
    (ofMtu mtu).maxLen = min (mtu.toNat + 14) 65535 := by
  rw [maxLen_ofMtu, Nat.mod_eq_of_lt h]

/-- Where the sum starts over it does not reach a header. -/
theorem maxLen_ofMtu_of_le (h : UInt64.size ≤ mtu.toNat + 14) :
    (ofMtu mtu).maxLen = mtu.toNat + 14 - UInt64.size ∧ mtu.toNat + 14 - UInt64.size < 14 := by
  have hheader : mtu.toNat + 14 - UInt64.size < 14 := by
    have hlt := mtu.toNat_lt_size
    omega
  refine ⟨?_, hheader⟩
  rw [maxLen_ofMtu, Nat.mod_eq_sub_mod h, Nat.mod_eq_of_lt (hheader.trans (by decide))]
  omega

/-- The two sums give one codec exactly if a header on top of the payload size is a word. -/
theorem ofMtu_eq_iff (link : LinkSettings) :
    ofMtu link.mtu = ofMaxLen link.maxFrameLen ↔ link.mtu.toNat + 14 < UInt64.size := by
  rw [eq_iff_maxLen_eq, maxLen_ofMaxLen_maxFrameLen]
  rcases Nat.lt_or_ge (link.mtu.toNat + 14) UInt64.size with hroom | hfull
  · exact iff_of_true (maxLen_ofMtu_of_lt hroom) hroom
  · obtain ⟨hlimit, hheader⟩ := maxLen_ofMtu_of_le hfull
    rw [hlimit]
    omega

/-- Of two payload sizes the larger one gets the lower limit exactly if the sum starts over between
them. -/
theorem maxLen_ofMtu_lt_iff :
    small ≤ large ∧ (ofMtu large).maxLen < (ofMtu small).maxLen ↔
      small.toNat + 14 < UInt64.size ∧ UInt64.size ≤ large.toNat + 14 := by
  rw [UInt64.le_iff_toNat_le]
  rcases Nat.lt_or_ge (small.toNat + 14) UInt64.size with hsmall | hsmall
  · rw [maxLen_ofMtu_of_lt hsmall]
    rcases Nat.lt_or_ge (large.toNat + 14) UInt64.size with hlarge | hlarge
    · rw [maxLen_ofMtu_of_lt hlarge]
      omega
    · -- A sum that has not started over is at least a header, and one that has is below it.
      obtain ⟨hlimit, hheader⟩ := maxLen_ofMtu_of_le hlarge
      rw [hlimit]
      omega
  · -- From a sum that has started over on, all later ones have, and they are in order again.
    rw [(maxLen_ofMtu_of_le hsmall).1]
    constructor
    · rintro ⟨hle, hlower⟩
      have hlarge := hsmall.trans (Nat.add_le_add_right hle 14)
      rw [(maxLen_ofMtu_of_le hlarge).1] at hlower
      omega
    · rintro ⟨hroom, -⟩
      omega

/-- The limits that words give to codecs. A word on its own gives itself, and the sum of the
settings gives the payload size and a header, both as far as the length field reaches and both in
order. The sum that starts over gives the same as that of the settings, and keeps the order, exactly
while it has not started over. A codec with any of these limits refuses a frame or writes its length
in full. -/
theorem limits_of_words (maxLen : UInt64) (link : LinkSettings) :
    (ofMaxLen maxLen).LimitedTo (min maxLen.toNat 65535) ∧
      Rising ofMaxLen ∧
      link.maxFrameLen.toNat = min (link.mtu.toNat + 14) (UInt64.size - 1) ∧
      (ofMaxLen link.maxFrameLen).LimitedTo (min (link.mtu.toNat + 14) 65535) ∧
      Rising (fun mtu ↦ ofMaxLen { link with mtu }.maxFrameLen) ∧
      (ofMtu link.mtu).LimitedTo (min ((link.mtu.toNat + 14) % UInt64.size) 65535) ∧
      (ofMtu link.mtu = ofMaxLen link.maxFrameLen ↔ link.mtu.toNat + 14 < UInt64.size) ∧
      ∀ large, link.mtu ≤ large ∧ (ofMtu large).maxLen < (ofMtu link.mtu).maxLen ↔
        link.mtu.toNat + 14 < UInt64.size ∧ UInt64.size ≤ large.toNat + 14 := by
  refine ⟨?word, ?wordRising, ?sum, ?settings, ?settingsRising, ?payload, ?agrees, ?lower⟩
  case word => exact limitedTo_of_maxLen (maxLen_ofMaxLen maxLen)
  case wordRising => exact rising_of_maxLen_eq 0 maxLen_ofMaxLen
  case sum => exact link.toNat_maxFrameLen_eq_min
  case settings => exact limitedTo_of_maxLen (maxLen_ofMaxLen_maxFrameLen link)
  case settingsRising =>
    exact rising_of_maxLen_eq 14 fun mtu ↦ maxLen_ofMaxLen_maxFrameLen { link with mtu }
  case payload => exact limitedTo_of_maxLen (maxLen_ofMtu link.mtu)
  case agrees => exact ofMtu_eq_iff link
  case lower => exact fun large ↦ maxLen_ofMtu_lt_iff

/-- At the largest word the sum has started over: a header alone is above the limit. That is not the
limit of the settings, and it is out of order, as an empty payload has a higher one. -/
theorem ofMtu_largest :
    (ofMtu 0xFFFFFFFFFFFFFFFF).maxLen = 13 ∧
      (ofMaxLen ({ mtu := 0xFFFFFFFFFFFFFFFF } : LinkSettings).maxFrameLen).maxLen = 65535 ∧
      min ((0xFFFFFFFFFFFFFFFF : UInt64).toNat + 14) 65535 = 65535 ∧
      ¬Rising ofMtu := by
  refine ⟨rfl, rfl, rfl, fun hrising ↦ ?_⟩
  have hlower : (ofMtu 0).maxLen ≤ (ofMtu 0xFFFFFFFFFFFFFFFF).maxLen := hrising (by decide)
  exact absurd hlower (by decide)

end Frame.Codec

end AttestedUplink
