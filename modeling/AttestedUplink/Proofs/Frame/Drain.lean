import AttestedUplink.Proofs.Checks
import AttestedUplink.Proofs.Frame.Wire
import AttestedUplink.Tunnel.Forwarding

/-!
# Draining a stream

A stream that will not grow is drained by taking frames off it until it gives none, and then ending
it. That ends well exactly for the streams that frames within the limit are written as, and gives
these frames back. Any other stream is refused after the frames at its front.
-/

namespace AttestedUplink.Frame.Codec

open Checks

/-- What a stream gave: its frames, and the answer when it was ended. -/
structure Drained where
  frames : List Bytes := []
  ending : Except Violation (Option (Bytes × Bytes))

def drain (codec : Codec) (stream : Bytes) : Drained :=
  match _h : codec.decode stream with
  | .ok (some (frame, rest)) =>
    let later := drain codec rest
    { later with frames := frame :: later.frames }
  | .ok none => { ending := codec.decodeEnd stream }
  | .error violation => { ending := .error violation }
termination_by stream.length
decreasing_by exact length_lt_of_decode _h

/-- Puts frames into a buffer behind what is there. -/
def encodeOnto (codec : Codec) (buffer : Bytes) : List Bytes → Except Violation Bytes
  | [] => .ok buffer
  | frame :: frames => do
    let octets ← codec.encode frame
    codec.encodeOnto (buffer ++ octets) frames

/-- The stream is these frames, one after the other, and none is above the limit. -/
def Written (codec : Codec) (frames : List Bytes) (stream : Bytes) : Prop :=
  (∀ frame ∈ frames, frame.length ≤ codec.maxLen) ∧ stream = wire frames

variable {codec : Codec} {stream frame rest buffer octets : Bytes} {frames : List Bytes}

theorem written_cons :
    codec.Written (frame :: frames) stream ↔
      frame.length ≤ codec.maxLen ∧
        ∃ tail, stream = envelope frame ++ tail ∧ codec.Written frames tail := by
  constructor
  · rintro ⟨hfit, rfl⟩
    obtain ⟨hframe, hframes⟩ := List.forall_mem_cons.1 hfit
    exact ⟨hframe, wire frames, rfl, hframes, rfl⟩
  · rintro ⟨hframe, tail, rfl, hframes, rfl⟩
    exact ⟨List.forall_mem_cons.2 ⟨hframe, hframes⟩, rfl⟩

/-! ### Writing -/

/-- Frames are put into a buffer exactly when each is within the limit. -/
theorem encodeOnto_eq_ok_iff :
    codec.encodeOnto buffer frames = .ok octets ↔
      ∃ tail, octets = buffer ++ tail ∧ codec.Written frames tail := by
  induction frames generalizing buffer with
  | nil =>
    constructor
    · intro h
      obtain rfl := Except.ok.inj h
      exact ⟨[], (List.append_nil _).symm, List.forall_mem_nil _, rfl⟩
    · rintro ⟨tail, rfl, -, rfl⟩
      exact congrArg Except.ok (List.append_nil buffer).symm
  | cons frame frames ih =>
    rw [encodeOnto, bind_eq_ok_iff]
    constructor
    · rintro ⟨first, hfirst, hrest⟩
      obtain ⟨hframe, rfl⟩ := encode_eq_ok_iff.1 hfirst
      obtain ⟨tail, rfl, htail⟩ := ih.1 hrest
      refine ⟨envelope frame ++ tail, List.append_assoc .., ?_⟩
      exact written_cons.2 ⟨hframe, tail, rfl, htail⟩
    · rintro ⟨_, rfl, hwritten⟩
      obtain ⟨hframe, tail, rfl, htail⟩ := written_cons.1 hwritten
      refine ⟨envelope frame, encode_eq_ok_iff.2 ⟨hframe, rfl⟩, ih.2 ⟨tail, ?_, htail⟩⟩
      exact (List.append_assoc ..).symm

/-! ### Reading -/

theorem drain_of_some (h : codec.decode stream = .ok (some (frame, rest))) :
    codec.drain stream =
      { codec.drain rest with frames := frame :: (codec.drain rest).frames } := by
  rw [drain]
  split <;> simp_all

theorem drain_of_none (h : codec.decode stream = .ok none) :
    codec.drain stream = { ending := codec.decodeEnd stream } := by
  rw [drain]
  split <;> simp_all

theorem drain_of_error {violation : Violation} (h : codec.decode stream = .error violation) :
    codec.drain stream = { ending := .error violation } := by
  rw [drain]
  split <;> simp_all

/-- Frames within the limit are drained first, whatever follows them. -/
theorem drain_wire_append (hfit : ∀ frame ∈ frames, frame.length ≤ codec.maxLen) (rest : Bytes) :
    codec.drain (wire frames ++ rest) =
      { codec.drain rest with frames := frames ++ (codec.drain rest).frames } := by
  induction frames with
  | nil => rfl
  | cons frame frames ih =>
    obtain ⟨hframe, hframes⟩ := List.forall_mem_cons.1 hfit
    have hfirst : codec.decode (wire (frame :: frames) ++ rest) =
        .ok (some (frame, wire frames ++ rest)) := by
      rw [wire_cons, List.append_assoc]
      exact decode_envelope_append _ hframe
    rw [drain_of_some hfirst, ih hframes]
    rfl

theorem decodeEnd_of_error {violation : Violation} (h : codec.decode stream = .error violation) :
    codec.decodeEnd stream = .error violation := by
  rw [decodeEnd, h]

/-- A stream that starts with no frame is drained at once. -/
theorem drain_of_no_frame (h : ∀ frame tail, codec.decode stream ≠ .ok (some (frame, tail))) :
    codec.drain stream = { ending := codec.decodeEnd stream } := by
  match hdecode : codec.decode stream with
  | .ok (some (frame, tail)) => exact absurd hdecode (h frame tail)
  | .ok none => exact drain_of_none hdecode
  | .error violation => rw [drain_of_error hdecode, decodeEnd_of_error hdecode]

/-- What a stream gives is the longest front of whole frames, and then what the rest ends with. -/
theorem drain_of_splits (h : codec.Splits stream frames rest) :
    codec.drain stream = { frames, ending := codec.decodeEnd rest } := by
  rw [h.eq, drain_wire_append h.fit, drain_of_no_frame h.decode_rest_ne, List.append_nil]

/-- Ending what starts with no frame goes well only if there is nothing. -/
theorem decodeEnd_of_no_frame (h : ∀ frame tail, codec.decode rest ≠ .ok (some (frame, tail))) :
    (rest = [] ∧ codec.decodeEnd rest = .ok none) ∨
      (rest ≠ [] ∧ ∃ violation, codec.decodeEnd rest = .error violation) := by
  match hdecode : codec.decode rest with
  | .ok (some (frame, tail)) => exact absurd hdecode (h frame tail)
  | .ok none => exact decodeEnd_of_none hdecode
  | .error violation =>
    refine .inr ⟨?_, violation, decodeEnd_of_error hdecode⟩
    rintro rfl
    cases hdecode

/-- A stream ends well exactly when it is written, and then as the frames that it gives. -/
theorem drain_eq_ok_iff :
    codec.drain stream = { frames, ending := .ok none } ↔ codec.Written frames stream := by
  constructor
  · intro h
    obtain ⟨front, rest, hsplits⟩ := exists_splits codec stream
    rw [drain_of_splits hsplits] at h
    obtain ⟨rfl, hend⟩ := Drained.mk.inj h
    rcases decodeEnd_of_no_frame hsplits.decode_rest_ne with ⟨rfl, -⟩ | ⟨-, violation, herror⟩
    · exact ⟨hsplits.fit, hsplits.eq.trans (List.append_nil _)⟩
    · rw [herror] at hend
      cases hend
  · rintro ⟨hfit, rfl⟩
    have hwhole := drain_wire_append hfit []
    rw [List.append_nil, drain_of_none (decode_nil codec), decodeEnd_nil, List.append_nil] at hwhole
    exact hwhole

/-- The streams that a codec drains without a fault are the ones that frames within its limit are
written as: reading them and writing frames undo each other. Any other stream is a violation of the
protocol after the longest front of it that is written. -/
theorem drain_grammar (maxLen : UInt64) (stream : Bytes) :
    (ofMaxLen maxLen).maxLen = min maxLen.toNat 65535 ∧
      (∀ frames, (ofMaxLen maxLen).drain stream = { frames, ending := .ok none } ↔
        (ofMaxLen maxLen).Written frames stream) ∧
      ((¬∃ frames, (ofMaxLen maxLen).Written frames stream) →
        ∃ frames rest violation, (ofMaxLen maxLen).Splits stream frames rest ∧
          (ofMaxLen maxLen).drain stream = { frames, ending := .error violation } ∧
          violation.toFault.kind = .protocolViolation) ∧
      (∀ frames : List Bytes, (∀ frame ∈ frames, frame.length ≤ (ofMaxLen maxLen).maxLen) →
        ∃ octets, (ofMaxLen maxLen).encodeOnto [] frames = .ok octets ∧
          (ofMaxLen maxLen).drain octets = { frames, ending := .ok none }) ∧
      ∀ frames, (ofMaxLen maxLen).drain stream = { frames, ending := .ok none } →
        (ofMaxLen maxLen).encodeOnto [] frames = .ok stream := by
  refine ⟨rfl, fun frames ↦ drain_eq_ok_iff, ?_, ?_, ?_⟩
  · intro hunwritten
    obtain ⟨frames, rest, hsplits⟩ := exists_splits (ofMaxLen maxLen) stream
    have hdrain := drain_of_splits hsplits
    rcases decodeEnd_of_no_frame hsplits.decode_rest_ne with ⟨-, hend⟩ | ⟨-, violation, hend⟩
    · rw [hend] at hdrain
      exact absurd ⟨frames, drain_eq_ok_iff.1 hdrain⟩ hunwritten
    · rw [hend] at hdrain
      exact ⟨frames, rest, violation, hsplits, hdrain, rfl⟩
  · intro frames hfit
    have hwritten : (ofMaxLen maxLen).Written frames (wire frames) := ⟨hfit, rfl⟩
    exact ⟨wire frames, encodeOnto_eq_ok_iff.2 ⟨wire frames, rfl, hwritten⟩,
      drain_eq_ok_iff.2 hwritten⟩
  · intro frames hdrain
    exact encodeOnto_eq_ok_iff.2 ⟨stream, rfl, drain_eq_ok_iff.1 hdrain⟩

end AttestedUplink.Frame.Codec
