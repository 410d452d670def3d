import AttestedUplink.Bytes
import AttestedUplink.Fault

namespace AttestedUplink

/-!
# Frames on the wire

A frame travels as its length in two octets, the least significant first, followed by its octets.
Both ends agree on the longest frame, which the length field caps at 65535.
-/

namespace Frame

def prefixLen : Nat := 2

def maxDescribable : Nat := 65535

def ethernetHeaderLen : UInt64 := 14

def defaultMtu : UInt64 := 4000

inductive Violation
  | tooLong (length limit : Nat)
  | lengthTooLarge (length limit : Nat)
  | closedInLength
  | closedInFrame (expected received : Nat)
  deriving Repr, DecidableEq

def Violation.message : Violation → String
  | .tooLong length limit => s!"frame of {length} bytes exceeds limit of {limit}"
  | .lengthTooLarge length limit => s!"length prefix {length} exceeds limit of {limit}"
  | .closedInLength => "stream closed inside a length prefix"
  | .closedInFrame expected received =>
    s!"expected frame of size {expected} but stream closed after {received}"

def Violation.toFault (violation : Violation) : Fault := ⟨.protocolViolation, violation.message⟩

def envelope (frame : Bytes) : Bytes := Bytes.ofNatLE prefixLen frame.length ++ frame

@[simp] theorem length_envelope (frame : Bytes) :
    (envelope frame).length = prefixLen + frame.length := by
  simp [envelope]

/-- A codec is fixed by the longest frame that it lets through. -/
structure Codec where
  maxLen : Nat
  maxLen_le : maxLen ≤ maxDescribable

namespace Codec

/-- The codec for frames of at most `maxLen` octets, as far as the length field reaches. -/
def ofMaxLen (maxLen : UInt64) : Codec := ⟨min maxLen.toNat maxDescribable, Nat.min_le_right ..⟩

/-- The codec for the frames of an interface. The sum is taken in words of 64 bits, so that it
starts over for a payload size within a header of their end. -/
def ofMtu (mtu : UInt64) : Codec := ofMaxLen (mtu + ethernetHeaderLen)

def default : Codec := ofMtu defaultMtu

def encode (codec : Codec) (frame : Bytes) : Except Violation Bytes :=
  if frame.length > codec.maxLen then .error (.tooLong frame.length codec.maxLen)
  else .ok (envelope frame)

def announced? : Bytes → Option Nat
  | low :: high :: _ => some (low.toNat + 256 * high.toNat)
  | _ => none

theorem announced?_eq_toNatLE {low high : UInt8} (rest : Bytes) :
    announced? (low :: high :: rest) = some (Bytes.toNatLE [low, high]) := by
  simp [announced?, Bytes.toNatLE, Bytes.toNat]
  omega

theorem announced?_envelope_append {frame : Bytes} (rest : Bytes)
    (h : frame.length ≤ maxDescribable) :
    announced? (envelope frame ++ rest) = some frame.length := by
  have hlen := Bytes.length_ofNatLE prefixLen frame.length
  have hval := Bytes.toNatLE_ofNatLE prefixLen frame.length
  unfold envelope
  match Bytes.ofNatLE prefixLen frame.length, hlen, hval with
  | [low, high], _, hval =>
    have : frame.length % Bytes.capacity prefixLen = frame.length :=
      Nat.mod_eq_of_lt (Nat.lt_of_le_of_lt h (by decide))
    simp [announced?_eq_toNatLE, hval, this]

theorem drop_envelope_append (frame rest : Bytes) :
    (envelope frame ++ rest).drop prefixLen = frame ++ rest := by
  simp [envelope]

/-- Takes one frame off a stream: the frame and what follows it, or nothing while the frame is not
complete. A length above the limit is refused as soon as it is there. -/
def decode (codec : Codec) (stream : Bytes) : Except Violation (Option (Bytes × Bytes)) :=
  match announced? stream with
  | none => .ok none
  | some length =>
    if length > codec.maxLen then .error (.lengthTooLarge length codec.maxLen)
    else .ok (Bytes.split? length (stream.drop prefixLen))

/-- Takes one frame off a stream that will not grow. What is left must be whole. -/
def decodeEnd (codec : Codec) (stream : Bytes) : Except Violation (Option (Bytes × Bytes)) :=
  match codec.decode stream with
  | .error violation => .error violation
  | .ok (some taken) => .ok (some taken)
  | .ok none =>
    if stream.isEmpty then .ok none
    else
      match announced? stream with
      | none => .error .closedInLength
      | some expected => .error (.closedInFrame expected (stream.length - prefixLen))

theorem encode_eq_ok_iff {codec : Codec} {frame octets : Bytes} :
    codec.encode frame = .ok octets ↔ frame.length ≤ codec.maxLen ∧ octets = envelope frame := by
  unfold encode
  split
  · simp; omega
  · simp [eq_comm]; omega

/-- The envelope of a frame within the limit is read back, whatever follows it. -/
theorem decode_envelope_append {codec : Codec} {frame : Bytes} (rest : Bytes)
    (h : frame.length ≤ codec.maxLen) :
    codec.decode (envelope frame ++ rest) = .ok (some (frame, rest)) := by
  have hlen := announced?_envelope_append rest (Nat.le_trans h codec.maxLen_le)
  simp [decode, hlen, Nat.not_lt.2 h, drop_envelope_append]

@[simp] theorem decode_nil (codec : Codec) : codec.decode [] = .ok none := rfl

@[simp] theorem decodeEnd_nil (codec : Codec) : codec.decodeEnd [] = .ok none := rfl

inductive Operation
  | encode (frame : Bytes)
  | feed (octets : Bytes)
  | decode
  | decodeEnd
  | clear
  deriving Repr, DecidableEq

inductive Reply
  | done
  | frame (taken : Option Bytes)
  | refused (violation : Violation)
  deriving Repr, DecidableEq

def takeOff (buffer : Bytes) : Except Violation (Option (Bytes × Bytes)) → Reply × Bytes
  | .ok (some (frame, rest)) => (.frame (some frame), rest)
  | .ok none => (.frame none, buffer)
  | .error violation => (.refused violation, buffer)

/-- Does something with a buffer. What fails leaves the buffer as it was. -/
def perform (codec : Codec) (buffer : Bytes) : Operation → Reply × Bytes
  | .encode frame =>
    match codec.encode frame with
    | .ok envelope => (.done, buffer ++ envelope)
    | .error violation => (.refused violation, buffer)
  | .feed octets => (.done, buffer ++ octets)
  | .decode => takeOff buffer (codec.decode buffer)
  | .decodeEnd => takeOff buffer (codec.decodeEnd buffer)
  | .clear => (.done, [])

end Codec

end Frame

end AttestedUplink
