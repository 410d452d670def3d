import AttestedUplink.ErrorSlot
import AttestedUplink.Frame
import AttestedUplink.Tunnel.Writer

namespace AttestedUplink

/-!
# The forwarding loops

Two loops run in a session. The uplink reads frames from the device and writes them to the host; the
downlink reads octets from the host and hands the frames in them to the device. Neither stops until
something fails, and then it reports the fault to the slot that both share.
-/

inductive LoopEnd
  | deviceRead (text : String)
  | violation (cause : Frame.Violation)
  | hostWrite (failure : StreamWriter.Failure)
  | hostClosed
  | hostRead (text : String)
  | deviceWrite (text : String)
  deriving Repr, DecidableEq

namespace LoopEnd

def writeText : StreamWriter.Failure → String
  | .tookNothing => "failed to write frame to transport"
  | .write text => text
  | .flush text => text

def toFault : LoopEnd → Fault
  | .deviceRead text => ⟨.transport, s!"failed to read frame from TAP device: {text}"⟩
  | .violation cause => cause.toFault
  | .hostWrite failure =>
    ⟨.transport, s!"failed to write frame to connection: {writeText failure}"⟩
  | .hostClosed => ⟨.transport, "host closed the connection"⟩
  | .hostRead text => ⟨.transport, s!"failed to read frame from connection: {text}"⟩
  | .deviceWrite text => ⟨.transport, s!"failed to write frame to TAP device: {text}"⟩

end LoopEnd

/-! ### From the device to the host -/

/-- The uplink. One buffer receives all frames of a session. -/
inductive Uplink
  | reading (buffer : Bytes)
  | writing (buffer : Bytes) (writer : StreamWriter)
  | ended
  deriving Repr, DecidableEq

inductive UplinkInput
  /-- The device hands over a frame, of which as much counts as fits into the buffer. -/
  | frame (octets : Bytes)
  | frameFailed (text : String)
  | stream (answer : StreamAnswer)
  deriving Repr, DecidableEq

structure LoopStep (Loop : Type) where
  loop : Loop
  /-- The octets that went to the host, or the frames that went to the device. -/
  moved : List Bytes := []
  ending : Option LoopEnd := none

namespace Uplink

def start (maxLen : Nat) : Uplink := .reading (List.replicate maxLen 0)

/-- Puts a frame into the buffer: the length of what fits, and the buffer afterwards. -/
def fill (buffer frame : Bytes) : Nat × Bytes :=
  let fitting := frame.take buffer.length
  (fitting.length, fitting ++ buffer.drop fitting.length)

def finish (ending : LoopEnd) : LoopStep Uplink := { loop := .ended, ending := some ending }

/-- Moves the uplink on. Input for which it does not wait changes nothing. -/
def step (codec : Frame.Codec) (uplink : Uplink) (input : UplinkInput) : LoopStep Uplink :=
  match uplink, input with
  | .reading buffer, .frame octets =>
    let (length, buffer) := fill buffer octets
    match codec.encode (buffer.take length) with
    | .ok envelope => { loop := .writing buffer (.start envelope) }
    | .error violation => finish (.violation violation)
  | .reading _, .frameFailed text => finish (.deviceRead text)
  | .writing buffer writer, .stream answer =>
    match writer.step answer with
    | (taken, .writing writer) => { loop := .writing buffer writer, moved := [taken] }
    | (taken, .done) => { loop := .reading buffer, moved := [taken] }
    | (taken, .failed failure) => { finish (.hostWrite failure) with moved := [taken] }
  | uplink, _ => { loop := uplink }

end Uplink

/-! ### From the host to the device -/

/-- The downlink with the octets that are no complete frame yet. -/
inductive Downlink
  | reading (buffer : Bytes)
  /-- Waits for the device to take a frame. `isLast` says that no more octets will come. -/
  | delivering (frame buffer : Bytes) (isLast : Bool)
  | ended
  deriving Repr, DecidableEq

inductive DownlinkInput
  /-- Octets from the host; none at all are the end of the stream. -/
  | octets (chunk : Bytes)
  | readFailed (text : String)
  | delivered
  | deliveryFailed (text : String)
  deriving Repr, DecidableEq

namespace Frame.Codec

theorem length_lt_of_decode {codec : Codec} {stream frame rest : Bytes}
    (h : codec.decode stream = .ok (some (frame, rest))) : rest.length < stream.length := by
  unfold decode at h
  split at h
  · simp at h
  · rename_i length hlen
    split at h
    · simp at h
    · simp only [Bytes.split?, Except.ok.injEq, Option.ite_none_right_eq_some, Option.some.injEq,
        Prod.mk.injEq] at h
      obtain ⟨_, _, rfl⟩ := h
      rcases stream with _ | ⟨low, _ | ⟨high, tail⟩⟩
      · simp [announced?] at hlen
      · simp [announced?] at hlen
      · simp [prefixLen]
        omega

theorem decodeEnd_some {codec : Codec} {stream : Bytes} {taken : Bytes × Bytes} :
    codec.decodeEnd stream = .ok (some taken) ↔ codec.decode stream = .ok (some taken) := by
  unfold decodeEnd
  split
  · simp_all
  · simp_all
  · split <;> (try split) <;> simp_all

/-- Takes the next frame off a stream that goes on or, when `isLast`, off one that does not. -/
def next (codec : Codec) (isLast : Bool) (stream : Bytes) :
    Except Violation (Option (Bytes × Bytes)) :=
  if isLast then codec.decodeEnd stream else codec.decode stream

theorem length_lt_of_next {codec : Codec} {isLast : Bool} {stream frame rest : Bytes}
    (h : codec.next isLast stream = .ok (some (frame, rest))) : rest.length < stream.length := by
  unfold next at h
  split at h
  · exact length_lt_of_decode (decodeEnd_some.1 h)
  · exact length_lt_of_decode h

end Frame.Codec

namespace Downlink

def finish (ending : LoopEnd) : LoopStep Downlink := { loop := .ended, ending := some ending }

/-- Goes on with the octets at hand: empty frames are skipped, any other is handed to the device,
and when no frame is complete more octets are waited for. -/
def drain (codec : Frame.Codec) (isLast : Bool) (buffer : Bytes) : LoopStep Downlink :=
  match _h : codec.next isLast buffer with
  | .error violation => finish (.violation violation)
  | .ok none => if isLast then finish .hostClosed else { loop := .reading buffer }
  | .ok (some ([], rest)) => drain codec isLast rest
  | .ok (some (b :: bs, rest)) => { loop := .delivering (b :: bs) rest isLast }
termination_by buffer.length
decreasing_by exact Frame.Codec.length_lt_of_next _h

def start : Downlink := .reading []

def step (codec : Frame.Codec) (downlink : Downlink) (input : DownlinkInput) :
    LoopStep Downlink :=
  match downlink, input with
  | .reading buffer, .octets chunk => drain codec chunk.isEmpty (buffer ++ chunk)
  | .reading _, .readFailed text => finish (.hostRead text)
  | .delivering frame buffer isLast, .delivered =>
    { drain codec isLast buffer with moved := [frame] }
  | .delivering .., .deliveryFailed text => finish (.deviceWrite text)
  | downlink, _ => { loop := downlink }

end Downlink

end AttestedUplink
