import AttestedUplink.Link.Commands
import AttestedUplink.Proofs.Frame.Limits
import AttestedUplink.Proofs.Settings.Validation
import AttestedUplink.Proofs.Tunnel.WireImage

/-!
# What a valid link spares

The bounds of validation are set so that nothing behind it has to refuse: not the device for its
name, not the link for its hardware address, and not the codec for the length of a frame. The codec
and the buffer of the uplink agree on one limit, so that a frame that fits into the buffer always
goes out whole.
-/

namespace AttestedUplink

open AttestedUplink.Frame

/-! ### The uplink -/

namespace Uplink

variable {codec : Codec} {uplink : Uplink} {limit : ℕ}

/-- The buffer is as long as the limit. -/
def Buffered (limit : ℕ) : Uplink → Prop
  | reading buffer | writing buffer _ => buffer.length = limit
  | ended => True

/-- Runs the loop on some inputs. With it comes what it ended with. -/
def run (codec : Codec) (uplink : Uplink) : List UplinkInput → Uplink × List LoopEnd
  | [] => (uplink, [])
  | input :: inputs =>
    let moved := uplink.step codec input
    let (last, endings) := moved.loop.run codec inputs
    (last, moved.ending.toList ++ endings)

theorem buffered_start (limit : ℕ) : (start limit).Buffered limit :=
  List.length_replicate

theorem Buffered.step (h : uplink.Buffered codec.maxLen) (input : UplinkInput) :
    (uplink.step codec input).loop.Buffered codec.maxLen := by
  cases uplink with
  | ended => exact h
  | reading buffer =>
    cases input with
    | frame octets =>
      rw [step_frame h]
      exact (length_fill buffer octets).trans h
    | frameFailed text => exact trivial
    | stream answer => exact h
  | writing buffer writer =>
    cases input with
    | stream answer =>
      rcases hstep : writer.step answer with ⟨taken, _ | _ | _⟩ <;> simp only [Uplink.step, hstep]
      · exact h
      · exact h
      · exact trivial
    | frame octets => exact h
    | frameFailed text => exact h

/-- A buffer within the limit of the codec never holds too long a frame. -/
theorem Buffered.kind_of_ending (h : uplink.Buffered codec.maxLen) {input : UplinkInput}
    {ending : LoopEnd} (hending : (uplink.step codec input).ending = some ending) :
    ending.toFault.kind = .transport := by
  cases uplink with
  | ended => cases hending
  | reading buffer =>
    cases input with
    | frame octets =>
      rw [step_frame h] at hending
      cases hending
    | frameFailed text =>
      cases hending
      rfl
    | stream answer => cases hending
  | writing buffer writer =>
    cases input with
    | stream answer =>
      rcases hstep : writer.step answer with ⟨taken, _ | _ | _⟩ <;>
        simp only [Uplink.step, hstep] at hending <;> cases hending
      rfl
    | frame octets => cases hending
    | frameFailed text => cases hending

theorem Buffered.run (h : uplink.Buffered codec.maxLen) (inputs : List UplinkInput) :
    (uplink.run codec inputs).1.Buffered codec.maxLen ∧
      ∀ ending ∈ (uplink.run codec inputs).2, ending.toFault.kind = .transport := by
  induction inputs generalizing uplink with
  | nil => exact ⟨h, nofun⟩
  | cons input inputs ih =>
    obtain ⟨hlast, hendings⟩ := ih (h.step input)
    refine ⟨hlast, ?_⟩
    intro ending hmem
    rcases List.mem_append.1 hmem with hfirst | hrest
    · exact h.kind_of_ending (Option.mem_toList.1 hfirst)
    · exact hendings ending hrest

end Uplink

theorem Tunnel.Passage.Carries.buffered {codec : Codec} {head : Bytes} {passage : Passage}
    {uplink : Uplink} (h : passage.Carries codec head uplink) : uplink.Buffered codec.maxLen := by
  cases uplink with
  | reading buffer => exact h.1
  | writing buffer writer => exact h.1
  | ended => exact trivial

/-- In every session the buffer is as long as the limit of the codec. -/
theorem Tunnel.buffered_of_forwarding {link : LinkSettings} {stopped : Bool}
    {stimuli : List Stimulus} {session : Session}
    (h : (run link stopped stimuli).1.phase = .forwarding session) :
    session.uplink.Buffered link.codec.maxLen := by
  have hsuits := suits_passage link stopped stimuli
  rw [h] at hsuits
  obtain ⟨head, -, hcarries⟩ := hsuits
  exact hcarries.buffered

/-! ### The limits -/

namespace LinkSettings

variable {link : LinkSettings}

theorem checkDeviceName_eq_ok_iff :
    link.checkDeviceName = .ok () ↔
      1 ≤ link.tapName.utf8ByteSize ∧ link.tapName.utf8ByteSize ≤ 15 := by
  have hroom : (link.tapName = "" ∨ interfaceNameRoom ≤ link.tapName.utf8ByteSize) ↔
      ¬(1 ≤ link.tapName.utf8ByteSize ∧ link.tapName.utf8ByteSize ≤ 15) := by
    rw [← String.utf8ByteSize_eq_zero_iff, interfaceNameRoom]
    omega
  simp only [checkDeviceName, hroom, ite_not]
  exact Checks.require_eq_ok_iff

/-- What the parts behind a link find when its settings are valid. All limits are one number, and
within it a frame always gets its envelope, with its length in full. -/
structure Safe (link : LinkSettings) : Prop where
  deviceName : link.checkDeviceName = .ok ()
  hardwareAddress : link.checkHardwareAddress = .ok ()
  longest : link.maxFrameLen.toNat = link.mtu.toNat + 14
  describable : link.maxFrameLen.toNat ≤ 65535
  limit : link.codec.maxLen = link.maxFrameLen.toNat
  start : (Tunnel.Session.start link).uplink = .start link.codec.maxLen
  refusesToEncode : ∀ frame, (∃ violation, link.codec.encode frame = .error violation) ↔
    link.maxFrameLen.toNat < frame.length
  refusesToDecode : ∀ stream, (∃ violation, link.codec.decode stream = .error violation) ↔
    ∃ length, Codec.announced? stream = some length ∧ link.maxFrameLen.toNat < length
  encoded : ∀ frame, frame.length ≤ link.maxFrameLen.toNat → ∃ low high : UInt8,
    link.codec.encode frame = .ok (low :: high :: frame) ∧
      low.toNat + 256 * high.toNat = frame.length
  handedOver : ∀ buffer frame, buffer.length = link.maxFrameLen.toNat →
    frame.length ≤ buffer.length → ∃ low high : UInt8,
      (Uplink.reading buffer).step link.codec (.frame frame) =
        { loop := .writing (Uplink.fill buffer frame).2 (.start (low :: high :: frame)) } ∧
      low.toNat + 256 * high.toNat = frame.length
  uplink : ∀ inputs,
    ((Uplink.start link.maxFrameLen.toNat).run link.codec inputs).1.Buffered
        link.maxFrameLen.toNat ∧
      ∀ ending ∈ ((Uplink.start link.maxFrameLen.toNat).run link.codec inputs).2,
        ending.toFault.kind = .transport
  session : ∀ stopped stimuli session,
    (Tunnel.run link stopped stimuli).1.phase = .forwarding session →
      session.uplink.Buffered link.maxFrameLen.toNat ∧
        ∀ input ending, (session.uplink.step link.codec input).ending = some ending →
          ending.toFault.kind = .transport

/-- The bounds of validation are enough for all parts behind it. -/
theorem safe_of_validate (h : link.validate = .ok ()) : link.Safe := by
  obtain ⟨⟨-, hmtu⟩, hname, hmac⟩ := validate_eq_ok_iff.1 h
  have hlongest := toNat_maxFrameLen hmtu
  have hdescribable : link.maxFrameLen.toNat ≤ 65535 := by omega
  have hlimit := maxLen_codec_of_validate h
  have henvelope : ∀ frame : Bytes, frame.length ≤ link.maxFrameLen.toNat → ∃ low high : UInt8,
      envelope frame = low :: high :: frame ∧ low.toNat + 256 * high.toNat = frame.length :=
    fun frame hframe ↦ exists_envelope_eq (hframe.trans hdescribable)
  refine
    { deviceName := checkDeviceName_eq_ok_iff.2 hname
      hardwareAddress := hmac
      longest := hlongest
      describable := hdescribable
      limit := hlimit
      start := congrArg Uplink.start hlimit.symm
      refusesToEncode := ?_
      refusesToDecode := ?_
      encoded := ?_
      handedOver := ?_
      uplink := ?_
      session := ?_ }
  · intro frame
    rw [Codec.exists_encode_eq_error_iff, hlimit]
  · intro stream
    rw [← Codec.oversized_iff, Codec.Oversized, hlimit]
  · intro frame hframe
    obtain ⟨low, high, henv, hlen⟩ := henvelope frame hframe
    refine ⟨low, high, ?_, hlen⟩
    rw [← henv]
    exact Codec.encode_eq_ok_iff.2 ⟨hlimit ▸ hframe, rfl⟩
  · intro buffer frame hbuffer hframe
    obtain ⟨low, high, henv, hlen⟩ := henvelope frame (hframe.trans_eq hbuffer)
    refine ⟨low, high, ?_, hlen⟩
    rw [Uplink.step_frame (hbuffer.trans hlimit.symm), hlimit, ← hbuffer,
      List.take_of_length_le hframe, henv]
  · rw [← hlimit]
    exact fun inputs ↦ (Uplink.buffered_start _).run inputs
  · intro stopped stimuli session hphase
    have hbuffered := Tunnel.buffered_of_forwarding hphase
    rw [← hlimit]
    exact ⟨hbuffered, fun _ _ hending ↦ hbuffered.kind_of_ending hending⟩

/-- The largest payload size with the longest name, and a session under the smallest one. -/
theorem safe_of_validate_limits :
    ({ mtu := 65521, tapName := "uplink000000000" } : LinkSettings).validate = .ok () ∧
      ({ mtu := 65521, tapName := "uplink000000000" } : LinkSettings).Safe ∧
      ∃ session, (Tunnel.run { mtu := 68 } false Tunnel.halfWritten).1.phase =
        .forwarding session ∧ session.uplink.Buffered 82 := by
  have hlargest :
      ({ mtu := 65521, tapName := "uplink000000000" } : LinkSettings).validate = .ok () := by
    decide +kernel
  have hsmallest : ({ mtu := 68 } : LinkSettings).validate = .ok () := by
    decide +kernel
  have hheeds : (Tunnel.run { mtu := 68 } false Tunnel.halfWritten).1.heeds
      (.uplink (.frame [])) = true := by
    decide +kernel
  refine ⟨hlargest, safe_of_validate hlargest, ?_⟩
  cases hphase : (Tunnel.run { mtu := 68 } false Tunnel.halfWritten).1.phase with
  | forwarding session =>
    obtain ⟨hbuffered, -⟩ := (safe_of_validate hsmallest).session _ _ _ hphase
    exact ⟨session, rfl, hbuffered⟩
  | _ =>
    rw [Tunnel.State.heeds, hphase] at hheeds
    cases hheeds

end LinkSettings

end AttestedUplink
