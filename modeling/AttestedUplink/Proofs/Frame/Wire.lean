import AttestedUplink.Frame
import Mathlib.Data.List.Infix

/-!
# Frames in a stream

A codec takes exactly one envelope off a stream, so a stream has one decomposition into the whole
frames at its front and a rest that starts with no frame. Everything that readers and writers of
frames do is stated through that decomposition.
-/

namespace AttestedUplink.Frame

/-- Frames as they travel, one after the other. -/
def wire (frames : List Bytes) : Bytes := frames.flatMap envelope

@[simp] theorem wire_nil : wire [] = [] := rfl

@[simp] theorem wire_cons (frame : Bytes) (frames : List Bytes) :
    wire (frame :: frames) = envelope frame ++ wire frames := rfl

@[simp] theorem wire_append (first second : List Bytes) :
    wire (first ++ second) = wire first ++ wire second :=
  List.flatMap_append

/-! ### One frame -/

theorem ofNatLE_two (n : ℕ) :
    Bytes.ofNatLE prefixLen n = [UInt8.ofNat n, UInt8.ofNat (n / 256)] := rfl

/-- The two octets of a length are the ones that are written for it. -/
theorem envelope_of_announced {low high : UInt8} {frame : Bytes}
    (h : frame.length = low.toNat + 256 * high.toNat) :
    envelope frame = low :: high :: frame := by
  have hlow : UInt8.ofNat frame.length = low := by
    rw [← UInt8.toNat_inj, UInt8.toNat_ofNat', h]
    have := low.toNat_lt
    omega
  have hhigh : UInt8.ofNat (frame.length / 256) = high := by
    rw [← UInt8.toNat_inj, UInt8.toNat_ofNat', h]
    have := low.toNat_lt
    have := high.toNat_lt
    omega
  rw [envelope, ofNatLE_two, hlow, hhigh]
  rfl

namespace Codec

variable {codec : Codec} {stream frame rest : Bytes}

theorem announced?_append {stream : Bytes} {length : ℕ} (h : announced? stream = some length)
    (more : Bytes) : announced? (stream ++ more) = some length := by
  match stream, h with
  | _ :: _ :: _, h => exact h

/-- A stream gives a frame exactly when it starts with its envelope. -/
theorem decode_eq_some_iff :
    codec.decode stream = .ok (some (frame, rest)) ↔
      frame.length ≤ codec.maxLen ∧ stream = envelope frame ++ rest := by
  constructor
  · intro h
    match stream with
    | [] => simp [decode, announced?] at h
    | [_] => simp [decode, announced?] at h
    | low :: high :: tail =>
      simp only [decode, announced?] at h
      split at h
      · cases h
      · rename_i hle
        have hsplit := Bytes.split?_eq_some_iff.mp (Except.ok.inj h)
        obtain ⟨hlen, htail⟩ := hsplit
        refine ⟨by omega, ?_⟩
        have htail : tail = frame ++ rest := by simpa [prefixLen] using htail
        rw [envelope_of_announced hlen, htail]
        rfl
  · rintro ⟨hle, rfl⟩
    exact decode_envelope_append rest hle

/-- The length at the front of a stream is there and above the limit. -/
def Oversized (codec : Codec) (stream : Bytes) : Prop :=
  ∃ length, announced? stream = some length ∧ codec.maxLen < length

theorem decode_eq_error_iff {violation : Violation} :
    codec.decode stream = .error violation ↔
      ∃ length, announced? stream = some length ∧ codec.maxLen < length ∧
        violation = .lengthTooLarge length codec.maxLen := by
  unfold decode
  cases announced? stream with
  | none => simp
  | some length =>
    by_cases hlt : codec.maxLen < length
    · simp [hlt, eq_comm]
    · simp [hlt]

theorem oversized_iff :
    codec.Oversized stream ↔ ∃ violation, codec.decode stream = .error violation := by
  constructor
  · rintro ⟨length, hlen, hlt⟩
    exact ⟨_, decode_eq_error_iff.mpr ⟨length, hlen, hlt, rfl⟩⟩
  · rintro ⟨violation, h⟩
    obtain ⟨length, hlen, hlt, -⟩ := decode_eq_error_iff.mp h
    exact ⟨length, hlen, hlt⟩

/-- A refused length is refused whatever follows it. -/
theorem decode_append_of_error {violation : Violation} (h : codec.decode stream = .error violation)
    (more : Bytes) : codec.decode (stream ++ more) = .error violation := by
  obtain ⟨length, hlen, hlt, rfl⟩ := decode_eq_error_iff.mp h
  exact decode_eq_error_iff.mpr ⟨length, announced?_append hlen more, hlt, rfl⟩

theorem decode_append_of_some (h : codec.decode stream = .ok (some (frame, rest))) (more : Bytes) :
    codec.decode (stream ++ more) = .ok (some (frame, rest ++ more)) := by
  obtain ⟨hle, rfl⟩ := decode_eq_some_iff.mp h
  rw [List.append_assoc]
  exact decode_envelope_append _ hle

/-- What is left when a stream ends is a fault unless nothing is left. -/
theorem decodeEnd_of_none (h : codec.decode stream = .ok none) :
    (stream = [] ∧ codec.decodeEnd stream = .ok none) ∨
      (stream ≠ [] ∧ ∃ violation, codec.decodeEnd stream = .error violation) := by
  unfold decodeEnd
  rw [h]
  cases stream with
  | nil => exact Or.inl ⟨rfl, rfl⟩
  | cons b bs =>
    refine Or.inr ⟨List.cons_ne_nil b bs, ?_⟩
    cases announced? (b :: bs) with
    | none => exact ⟨.closedInLength, rfl⟩
    | some length => exact ⟨.closedInFrame length _, rfl⟩

/-! ### The frames at the front of a stream -/

/-- `frames` make the longest front of `stream` that consists of whole frames within the limit, and
`rest` follows it. -/
structure Splits (codec : Codec) (stream : Bytes) (frames : List Bytes) (rest : Bytes) : Prop where
  fit : ∀ frame ∈ frames, frame.length ≤ codec.maxLen
  eq : stream = wire frames ++ rest
  longest : ∀ others, (∀ frame ∈ others, frame.length ≤ codec.maxLen) →
    wire others <+: stream → wire others <+: wire frames

namespace Splits

variable {frames : List Bytes}

/-- No frame starts in the rest: it would make the front longer. -/
theorem decode_rest_ne (h : codec.Splits stream frames rest) (frame tail : Bytes) :
    codec.decode rest ≠ .ok (some (frame, tail)) := by
  intro hdecode
  obtain ⟨hle, hrest⟩ := decode_eq_some_iff.mp hdecode
  have hfit : ∀ other ∈ frames ++ [frame], other.length ≤ codec.maxLen := by
    intro other hother
    rcases List.mem_append.mp hother with hother | hother
    · exact h.fit other hother
    · rw [List.mem_singleton.mp hother]
      exact hle
  have hprefix : wire (frames ++ [frame]) <+: stream :=
    ⟨tail, by rw [h.eq, hrest]; simp⟩
  have hlen := (h.longest _ hfit hprefix).length_le
  rw [wire_append, wire_cons, wire_nil, List.append_nil, List.length_append, length_envelope,
    prefixLen] at hlen
  omega

/-- A decomposition whose rest starts with no frame is the one with the longest front: the frames of
any other front are met one by one. -/
theorem of_decode_rest (hfit : ∀ frame ∈ frames, frame.length ≤ codec.maxLen)
    (heq : stream = wire frames ++ rest) (hrest : ∀ frame tail,
      codec.decode rest ≠ .ok (some (frame, tail))) : codec.Splits stream frames rest where
  fit := hfit
  eq := heq
  longest := by
    intro others hothers hprefix
    induction others generalizing stream frames with
    | nil => exact List.nil_prefix
    | cons other others ih =>
      obtain ⟨more, hmore⟩ := hprefix
      have hdecode : codec.decode stream = .ok (some (other, wire others ++ more)) :=
        decode_eq_some_iff.mpr ⟨hothers other List.mem_cons_self, by simp [← hmore]⟩
      cases frames with
      | nil =>
        rw [heq] at hdecode
        exact absurd hdecode (hrest _ _)
      | cons frame frames =>
        have hfirst : codec.decode stream = .ok (some (frame, wire frames ++ rest)) :=
          decode_eq_some_iff.mpr ⟨hfit frame List.mem_cons_self, by simp [heq]⟩
        rw [hfirst] at hdecode
        obtain ⟨rfl, htail⟩ : frame = other ∧ wire frames ++ rest = wire others ++ more := by
          simpa using hdecode
        have hmem : wire others <+: wire frames :=
          ih (fun f hf ↦ hfit f (List.mem_cons_of_mem frame hf)) rfl
            (fun f hf ↦ hothers f (List.mem_cons_of_mem frame hf)) ⟨more, htail.symm⟩
        exact (List.prefix_append_right_inj (envelope frame)).mpr hmem

theorem nil_iff_of_decode (h : ∀ frame tail, codec.decode stream ≠ .ok (some (frame, tail))) :
    codec.Splits stream frames rest ↔ frames = [] ∧ rest = stream := by
  constructor
  · intro hs
    cases frames with
    | nil => exact ⟨rfl, by simpa using hs.eq.symm⟩
    | cons frame frames =>
      exact absurd (decode_eq_some_iff.mpr ⟨hs.fit frame List.mem_cons_self, by simpa using hs.eq⟩)
        (h frame (wire frames ++ rest))
  · rintro ⟨rfl, rfl⟩
    exact of_decode_rest (by simp) (by simp) h

/-- A frame that can be taken off a stream is the first of its front. -/
theorem exists_cons (h : codec.Splits stream frames rest) {tail : Bytes}
    (hdecode : codec.decode stream = .ok (some (frame, tail))) :
    ∃ others, frames = frame :: others ∧ codec.Splits tail others rest := by
  cases frames with
  | nil =>
    have hrest : rest = stream := by simpa using h.eq.symm
    exact absurd hdecode (hrest ▸ h.decode_rest_ne frame tail)
  | cons first others =>
    have hfirst : codec.decode stream = .ok (some (first, wire others ++ rest)) :=
      decode_eq_some_iff.mpr ⟨h.fit first List.mem_cons_self, by simpa using h.eq⟩
    rw [hdecode] at hfirst
    obtain ⟨rfl, rfl⟩ : frame = first ∧ tail = wire others ++ rest := by simpa using hfirst
    exact ⟨others, rfl,
      of_decode_rest (fun f hf ↦ h.fit f (List.mem_cons_of_mem frame hf)) rfl h.decode_rest_ne⟩

end Splits

/-- Every stream has a front of whole frames. -/
theorem exists_splits (codec : Codec) (stream : Bytes) :
    ∃ frames rest, codec.Splits stream frames rest := by
  induction hlen : stream.length using Nat.strong_induction_on generalizing stream with
  | _ n ih =>
    match hdecode : codec.decode stream with
    | .ok (some (frame, tail)) =>
      obtain ⟨hle, heq⟩ := decode_eq_some_iff.mp hdecode
      have hlt : tail.length < n := by
        have := congrArg List.length heq
        simp [prefixLen] at this
        omega
      obtain ⟨frames, rest, h⟩ := ih tail.length hlt tail rfl
      refine ⟨frame :: frames, rest,
        Splits.of_decode_rest ?_ (by simp [heq, h.eq]) h.decode_rest_ne⟩
      intro f hf
      rcases List.mem_cons.mp hf with rfl | hf
      · exact hle
      · exact h.fit f hf
    | .ok none =>
      exact ⟨[], stream, (Splits.nil_iff_of_decode (by simp [hdecode])).mpr ⟨rfl, rfl⟩⟩
    | .error violation =>
      exact ⟨[], stream, (Splits.nil_iff_of_decode (by simp [hdecode])).mpr ⟨rfl, rfl⟩⟩

end Codec

end AttestedUplink.Frame
