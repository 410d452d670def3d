import AttestedUplink.Proofs.Frame.Wire
import AttestedUplink.Tunnel.Forwarding

/-!
# What a downlink makes of the host's stream

A downlink is run against a host, whose stream comes in reads of any sizes, and against a device
that may refuse a frame. The frames that the device gets and the one report at the end are those of
the whole stream, however it was cut into reads.
-/

namespace AttestedUplink.Downlink

open AttestedUplink.Frame

/-- How a host's stream ends. -/
inductive HostEnd
  | closed
  | failed (text : String)
  deriving DecidableEq

/-- The read that meets the end of a stream: no octets, or the words of an error. -/
def HostEnd.read : HostEnd → Except String Bytes
  | .closed => .ok []
  | .failed text => .error text

/-- What the loop is told about a read. -/
def readInput : Except String Bytes → DownlinkInput
  | .ok octets => .octets octets
  | .error text => .readFailed text

/-- What a device answers to the frame with this number, counted from zero; `refusal` has words for
the frames that it does not take. -/
def deviceAnswer (refusal : ℕ → Option String) (count : ℕ) : DownlinkInput :=
  match refusal count with
  | some text => .deliveryFailed text
  | none => .delivered

/-- What a downlink did: the frames that it handed to the device, those that the device took, and
its reports. -/
structure Relay where
  offered : List Bytes := []
  accepted : List Bytes := []
  reports : List LoopEnd := []
  deriving DecidableEq

/-- The octets that a downlink still holds, with one more for a frame that is on its way. -/
def load : Downlink → ℕ
  | .reading buffer => buffer.length
  | .delivering _ buffer _ => buffer.length + 1
  | .ended => 0

section Drain

variable {codec : Codec} {isLast : Bool} {buffer rest : Bytes}

theorem drain_of_error {violation : Violation} (h : codec.next isLast buffer = .error violation) :
    drain codec isLast buffer = finish (.violation violation) := by
  rw [drain]
  split <;> simp_all

theorem drain_of_none (h : codec.next isLast buffer = .ok none) :
    drain codec isLast buffer =
      if isLast then finish .hostClosed else { loop := .reading buffer } := by
  rw [drain]
  split <;> simp_all

theorem drain_of_empty (h : codec.next isLast buffer = .ok (some ([], rest))) :
    drain codec isLast buffer = drain codec isLast rest := by
  rw [drain]
  split <;> simp_all

theorem drain_of_frame {frame : Bytes} (hframe : frame ≠ [])
    (h : codec.next isLast buffer = .ok (some (frame, rest))) :
    drain codec isLast buffer = { loop := .delivering frame rest isLast } := by
  rw [drain]
  split <;> simp_all

theorem load_drain_le (codec : Codec) (isLast : Bool) (buffer : Bytes) :
    (drain codec isLast buffer).loop.load ≤ buffer.length := by
  fun_induction drain codec isLast buffer with
  | case1 => simp [finish, load]
  | case2 => simp [finish, load]
  | case3 => simp [load]
  | case4 buffer rest h ih =>
    have := Codec.length_lt_of_next h
    omega
  | case5 buffer b bs rest h =>
    have := Codec.length_lt_of_next h
    simp only [load]
    omega

end Drain

theorem load_deliver_lt (codec : Codec) (refusal : ℕ → Option String) (count : ℕ)
    (frame buffer : Bytes) (isLast : Bool) :
    (step codec (.delivering frame buffer isLast) (deviceAnswer refusal count)).loop.load <
      (Downlink.delivering frame buffer isLast).load := by
  unfold deviceAnswer
  cases refusal count with
  | some text => simp [step, finish, load]
  | none => exact Nat.lt_succ_of_le (load_drain_le codec isLast buffer)

/-- Runs a downlink against the reads that are to come and against the device, which was handed
`count` frames before. It stops when the loop has ended, or waits for a read that does not come. -/
def relay (codec : Codec) (refusal : ℕ → Option String) :
    (reads : List (Except String Bytes)) → (count : ℕ) → Downlink → Relay
  | _, _, .ended => {}
  | [], _, .reading _ => {}
  | read :: reads, count, .reading buffer =>
    let moved := step codec (.reading buffer) (readInput read)
    let later := relay codec refusal reads count moved.loop
    { later with
      accepted := moved.moved ++ later.accepted
      reports := moved.ending.toList ++ later.reports }
  | reads, count, .delivering frame buffer isLast =>
    let moved := step codec (.delivering frame buffer isLast) (deviceAnswer refusal count)
    let later := relay codec refusal reads (count + 1) moved.loop
    { offered := frame :: later.offered
      accepted := moved.moved ++ later.accepted
      reports := moved.ending.toList ++ later.reports }
  termination_by reads _ downlink => (reads.length, downlink.load)
  decreasing_by
    · exact Prod.Lex.left _ _ (Nat.lt_succ_self _)
    · exact Prod.Lex.right _ (load_deliver_lt codec refusal count frame buffer isLast)

/-- What a downlink does from a move on. -/
def follow (codec : Codec) (refusal : ℕ → Option String) (reads : List (Except String Bytes))
    (count : ℕ) (moved : LoopStep Downlink) : Relay :=
  let later := relay codec refusal reads count moved.loop
  { later with
    accepted := moved.moved ++ later.accepted
    reports := moved.ending.toList ++ later.reports }

/-- The frames of a stream that the device gets: empty ones are skipped. -/
def due (frames : List Bytes) : List Bytes := frames.filter fun frame => !frame.isEmpty

@[simp] theorem due_nil : due [] = [] := rfl

@[simp] theorem due_cons_nil (frames : List Bytes) : due ([] :: frames) = due frames := rfl

@[simp] theorem due_cons_cons (b : UInt8) (bs : Bytes) (frames : List Bytes) :
    due ((b :: bs) :: frames) = (b :: bs) :: due frames := rfl

/-- What becomes of frames that are due to the device: it gets them in order until it refuses one.
If it takes them all, `final` is the report that follows. -/
def outcome (refusal : ℕ → Option String) (final : Option LoopEnd) :
    (due : List Bytes) → (count : ℕ) → Relay
  | [], _ => { reports := final.toList }
  | frame :: due, count =>
    match refusal count with
    | some text => { offered := [frame], reports := [.deviceWrite text] }
    | none =>
      let later := outcome refusal final due (count + 1)
      { later with offered := frame :: later.offered, accepted := frame :: later.accepted }

theorem moved_drain (codec : Codec) (isLast : Bool) (buffer : Bytes) :
    (drain codec isLast buffer).moved = [] := by
  fun_induction drain codec isLast buffer with
  | case1 | case2 | case3 | case5 => rfl
  | case4 buffer rest h ih => exact ih

section Relay

variable {codec : Codec} {refusal : ℕ → Option String} {reads later : List (Except String Bytes)}
  {count : ℕ} {frame buffer rest : Bytes} {isLast : Bool} {final : Option LoopEnd}

theorem relay_reading_cons (read : Except String Bytes) :
    relay codec refusal (read :: reads) count (.reading buffer) =
      follow codec refusal reads count (step codec (.reading buffer) (readInput read)) := by
  rw [relay]
  rfl

/-- A move without effect leaves what the loop does afterwards. -/
theorem follow_loop (downlink : Downlink) :
    follow codec refusal reads count { loop := downlink } =
      relay codec refusal reads count downlink := by
  simp [follow]

theorem relay_delivering_of_refused {text : String} (h : refusal count = some text) :
    relay codec refusal reads count (.delivering frame buffer isLast) =
      { offered := [frame], reports := [.deviceWrite text] } := by
  rw [relay, deviceAnswer, h]
  simp [step, finish, relay]

theorem relay_delivering_of_taken (h : refusal count = none) :
    relay codec refusal reads count (.delivering frame buffer isLast) =
      let later := follow codec refusal reads (count + 1) (drain codec isLast buffer)
      { later with offered := frame :: later.offered, accepted := frame :: later.accepted } := by
  rw [relay, deviceAnswer, h, follow, moved_drain]
  rfl

/-- If `more` is still to be read, the device gets the frames that are in the buffer and `more`
together, provided that this is so from every buffer without a whole frame. The induction is on the
octets in the buffer. -/
theorem follow_drain {more : Bytes}
    (hwait : ∀ buffer count frames, codec.decode buffer = .ok none →
      codec.Splits (buffer ++ more) frames rest →
        relay codec refusal reads count (.reading buffer) =
          outcome refusal final (due frames) count)
    (hviolation : ∀ violation, codec.decode rest = .error violation →
      final = some (.violation violation))
    {frames : List Bytes} (h : codec.Splits (buffer ++ more) frames rest) :
    follow codec refusal reads count (drain codec false buffer) =
      outcome refusal final (due frames) count := by
  induction hlen : buffer.length using Nat.strong_induction_on generalizing buffer count frames with
  | _ n ih =>
    have hnext : codec.next false buffer = codec.decode buffer := rfl
    match hdecode : codec.decode buffer with
    | .error violation =>
      have hall := Codec.decode_append_of_error hdecode more
      obtain ⟨rfl, rfl⟩ := (Codec.Splits.nil_iff_of_decode (by simp [hall])).mp h
      rw [drain_of_error (hnext.trans hdecode), hviolation violation hall]
      simp [follow, finish, relay, outcome]
    | .ok none =>
      rw [drain_of_none (hnext.trans hdecode), if_neg (by decide), follow_loop]
      exact hwait buffer count frames hdecode h
    | .ok (some (frame, tail)) =>
      have hlt : tail.length < n := hlen ▸ Codec.length_lt_of_decode hdecode
      obtain ⟨others, rfl, hothers⟩ :=
        h.exists_cons (Codec.decode_append_of_some hdecode more)
      cases frame with
      | nil =>
        rw [drain_of_empty (hnext.trans hdecode)]
        simpa using ih tail.length hlt hothers rfl
      | cons b bs =>
        rw [drain_of_frame (List.cons_ne_nil b bs) (hnext.trans hdecode), follow_loop]
        cases hrefusal : refusal count with
        | some text =>
          rw [relay_delivering_of_refused hrefusal]
          simp [outcome, hrefusal]
        | none =>
          have hlater := @ih tail.length hlt (count + 1) tail others hothers rfl
          rw [relay_delivering_of_taken hrefusal, hlater]
          simp [outcome, hrefusal]

/-- However the octets are cut into reads, the device gets the frames of all of them together. -/
theorem relay_chunks
    (hlater : codec.decode rest = .ok none →
      ∀ count, relay codec refusal later count (.reading rest) = { reports := final.toList })
    (hviolation : ∀ violation, codec.decode rest = .error violation →
      final = some (.violation violation))
    {chunks : List Bytes} (hchunks : ∀ chunk ∈ chunks, chunk ≠ []) {frames : List Bytes}
    (hbuffer : codec.decode buffer = .ok none)
    (h : codec.Splits (buffer ++ chunks.flatten) frames rest) :
    relay codec refusal (chunks.map .ok ++ later) count (.reading buffer) =
      outcome refusal final (due frames) count := by
  induction chunks generalizing buffer frames count with
  | nil =>
    rw [List.flatten_nil, List.append_nil] at h
    obtain ⟨rfl, rfl⟩ := (Codec.Splits.nil_iff_of_decode (by simp [hbuffer])).mp h
    simpa [outcome] using hlater hbuffer count
  | cons chunk chunks ih =>
    have hchunk : chunk.isEmpty = false := by
      simpa using hchunks chunk List.mem_cons_self
    rw [List.flatten_cons, ← List.append_assoc] at h
    rw [List.map_cons, List.cons_append, relay_reading_cons]
    have hstep : step codec (.reading buffer) (readInput (.ok chunk)) =
        drain codec false (buffer ++ chunk) := by
      simp [step, readInput, hchunk]
    rw [hstep]
    refine follow_drain (fun buffer count frames hnone hs ↦ ?_) hviolation h
    exact ih (fun c hc ↦ hchunks c (List.mem_cons_of_mem chunk hc)) hnone hs

theorem outcome_of_taken {frames : List Bytes}
    (h : ∀ k < frames.length, refusal (count + k) = none) :
    outcome refusal final frames count = ⟨frames, frames, final.toList⟩ := by
  induction frames generalizing count with
  | nil => rfl
  | cons frame frames ih =>
    have hfirst : refusal count = none := h 0 (Nat.succ_pos _)
    have hothers : ∀ k < frames.length, refusal (count + 1 + k) = none := by
      intro k hk
      rw [Nat.add_assoc, Nat.add_comm 1 k]
      exact h (k + 1) (Nat.succ_lt_succ hk)
    have hlater := ih hothers
    simp [outcome, hfirst, hlater]

theorem outcome_of_refused {frames : List Bytes} {k : ℕ} {text : String} (hk : k < frames.length)
    (htext : refusal (count + k) = some text) (h : ∀ j < k, refusal (count + j) = none) :
    outcome refusal final frames count =
      ⟨frames.take (k + 1), frames.take k, [.deviceWrite text]⟩ := by
  induction frames generalizing count k with
  | nil => simp at hk
  | cons frame frames ih =>
    cases k with
    | zero => simp [outcome, show refusal count = some text from htext]
    | succ k =>
      have hfirst : refusal count = none := h 0 (Nat.succ_pos _)
      have hothers : ∀ j < k, refusal (count + 1 + j) = none := by
        intro j hj
        rw [Nat.add_assoc, Nat.add_comm 1 j]
        exact h (j + 1) (Nat.succ_lt_succ hj)
      rw [← Nat.add_assoc, Nat.add_right_comm] at htext
      have hlater := ih (Nat.lt_of_succ_lt_succ hk) htext hothers
      simp [outcome, hfirst, hlater]

end Relay

/-! ### The report at the end -/

/-- The report of a loop whose stream ends after `rest`, which holds no whole frame. -/
def lastReport (codec : Codec) (ending : HostEnd) (rest : Bytes) : LoopEnd :=
  match codec.decode rest, ending with
  | .error violation, _ => .violation violation
  | .ok _, .failed text => .hostRead text
  | .ok _, .closed =>
    match codec.decodeEnd rest with
    | .error violation => .violation violation
    | .ok _ => .hostClosed

section LastReport

variable {codec : Codec} {ending : HostEnd} {rest : Bytes}

theorem relay_ending (refusal : ℕ → Option String) (h : codec.decode rest = .ok none) (count : ℕ) :
    relay codec refusal [ending.read] count (.reading rest) =
      { reports := [lastReport codec ending rest] } := by
  rw [relay_reading_cons]
  cases ending with
  | failed text => simp [HostEnd.read, readInput, step, finish, follow, relay, lastReport, h]
  | closed =>
    have hstep : step codec (.reading rest) (readInput HostEnd.closed.read) =
        drain codec true rest := by
      simp [HostEnd.read, readInput, step]
    rw [hstep]
    rcases Codec.decodeEnd_of_none h with ⟨-, hend⟩ | ⟨-, violation, hend⟩
    · have hnext : codec.next true rest = .ok none := hend
      simp [drain_of_none hnext, finish, follow, relay, lastReport, h, hend]
    · have hnext : codec.next true rest = .error violation := hend
      simp [drain_of_error hnext, finish, follow, relay, lastReport, h, hend]

theorem toFault_hostRead (text : String) :
    (LoopEnd.hostRead text).toFault =
      ⟨.transport, "failed to read frame from connection: " ++ text⟩ := by
  simp [LoopEnd.toFault]
  rfl

theorem toFault_deviceWrite (text : String) :
    (LoopEnd.deviceWrite text).toFault =
      ⟨.transport, "failed to write frame to TAP device: " ++ text⟩ := by
  simp [LoopEnd.toFault]
  rfl

theorem lastReport_cases (ending : HostEnd)
    (hrest : ∀ frame tail, codec.decode rest ≠ .ok (some (frame, tail))) :
    (codec.Oversized rest ∧ rest ≠ [] ∧
        ∃ violation, lastReport codec ending rest = .violation violation) ∨
      (¬codec.Oversized rest ∧
        ((∃ text, ending = .failed text ∧ lastReport codec ending rest = .hostRead text) ∨
          (ending = .closed ∧ rest = [] ∧ lastReport codec ending rest = .hostClosed) ∨
          (ending = .closed ∧ rest ≠ [] ∧
            ∃ violation, lastReport codec ending rest = .violation violation))) := by
  rw [Codec.oversized_iff]
  match hdecode : codec.decode rest with
  | .ok (some (frame, tail)) => exact absurd hdecode (hrest frame tail)
  | .error violation =>
    refine Or.inl ⟨⟨violation, rfl⟩, ?_, violation, by simp [lastReport, hdecode]⟩
    rintro rfl
    simp at hdecode
  | .ok none =>
    refine Or.inr ⟨by simp, ?_⟩
    cases ending with
    | failed text => exact Or.inl ⟨text, rfl, by simp [lastReport, hdecode]⟩
    | closed =>
      rcases Codec.decodeEnd_of_none hdecode with ⟨hnil, hend⟩ | ⟨hnil, violation, hend⟩
      · exact Or.inr (Or.inl ⟨rfl, hnil, by simp [lastReport, hdecode, hend]⟩)
      · exact Or.inr (Or.inr ⟨rfl, hnil, violation, by simp [lastReport, hdecode, hend]⟩)

theorem kind_toFault_violation (violation : Violation) :
    (LoopEnd.violation violation).toFault.kind = .protocolViolation := rfl

theorem toFault_lastReport_eq_closed_iff
    (hrest : ∀ frame tail, codec.decode rest ≠ .ok (some (frame, tail))) :
    (lastReport codec ending rest).toFault = ⟨.transport, "host closed the connection"⟩ ↔
      ending = .closed ∧ rest = [] := by
  rcases lastReport_cases ending hrest with
    ⟨-, hne, violation, h⟩ | ⟨-, ⟨text, rfl, h⟩ | ⟨rfl, rfl, h⟩ | ⟨rfl, hne, violation, h⟩⟩
  · simp [h, LoopEnd.toFault, Violation.toFault, hne]
  · rw [h, toFault_hostRead]
    refine iff_of_false (fun heq ↦ ?_) (by simp)
    -- the two texts differ in their first character
    have hfirst := congrArg (fun fault ↦ fault.text.toList.head?) heq
    simp at hfirst
  · simp [h, LoopEnd.toFault]
  · simp [h, LoopEnd.toFault, Violation.toFault, hne]

theorem kind_toFault_lastReport_eq_violation_iff
    (hrest : ∀ frame tail, codec.decode rest ≠ .ok (some (frame, tail))) :
    (lastReport codec ending rest).toFault.kind = .protocolViolation ↔
      codec.Oversized rest ∨ ending = .closed ∧ rest ≠ [] := by
  rcases lastReport_cases ending hrest with
    ⟨hover, -, violation, h⟩ | ⟨hover, ⟨text, rfl, h⟩ | ⟨rfl, rfl, h⟩ | ⟨rfl, hne, violation, h⟩⟩
  · simp [h, kind_toFault_violation, hover]
  · simp [h, toFault_hostRead, hover]
  · simp [h, LoopEnd.toFault, hover]
  · simp [h, kind_toFault_violation, hne]

theorem toFault_lastReport_eq_read_iff
    (hrest : ∀ frame tail, codec.decode rest ≠ .ok (some (frame, tail))) (text : String) :
    (lastReport codec ending rest).toFault =
        ⟨.transport, "failed to read frame from connection: " ++ text⟩ ↔
      ending = .failed text ∧ ¬codec.Oversized rest := by
  rcases lastReport_cases ending hrest with
    ⟨hover, -, violation, h⟩ | ⟨hover, ⟨other, rfl, h⟩ | ⟨rfl, rfl, h⟩ | ⟨rfl, hne, violation, h⟩⟩
  · simp [h, LoopEnd.toFault, Violation.toFault, hover]
  · rw [h, toFault_hostRead]
    simp [hover]
  · refine iff_of_false (fun heq ↦ ?_) (by simp)
    rw [h] at heq
    have hfirst := congrArg (fun fault ↦ fault.text.toList.head?) heq
    simp [LoopEnd.toFault] at hfirst
  · simp [h, LoopEnd.toFault, Violation.toFault]

end LastReport

/-- What a downlink does with a stream follows from the octets of the stream alone. -/
theorem relay_eq_outcome (refusal : ℕ → Option String) {codec : Codec} {chunks frames : List Bytes}
    {rest : Bytes} (hchunks : ∀ chunk ∈ chunks, chunk ≠ []) (ending : HostEnd)
    (h : codec.Splits chunks.flatten frames rest) :
    relay codec refusal (chunks.map .ok ++ [ending.read]) 0 start =
      outcome refusal (some (lastReport codec ending rest)) (due frames) 0 := by
  refine relay_chunks (fun hnone count ↦ relay_ending refusal hnone count) ?_ hchunks rfl h
  intro violation hviolation
  simp [lastReport, hviolation]

/-- A device that takes every frame gets the frames of the whole stream that are not empty, and the
loop then ends with one report, which the octets after the last whole frame decide. A device that
refuses a frame got all frames before it and gets none after it, and its words are reported. Neither
depends on how the stream is cut, and a length above the limit decides the report whatever follows
it. -/
theorem relay_stream (codec : Codec) (refusal : ℕ → Option String) {chunks : List Bytes}
    (hchunks : ∀ chunk ∈ chunks, chunk ≠ []) (ending : HostEnd) :
    ∃ frames rest, codec.Splits chunks.flatten frames rest ∧
      ((∀ k < (due frames).length, refusal k = none) →
        ∃ report, relay codec refusal (chunks.map .ok ++ [ending.read]) 0 start =
            ⟨due frames, due frames, [report]⟩ ∧
          (report.toFault = ⟨.transport, "host closed the connection"⟩ ↔
            ending = .closed ∧ rest = []) ∧
          (report.toFault.kind = .protocolViolation ↔
            codec.Oversized rest ∨ ending = .closed ∧ rest ≠ []) ∧
          ∀ text, report.toFault =
              ⟨.transport, "failed to read frame from connection: " ++ text⟩ ↔
            ending = .failed text ∧ ¬codec.Oversized rest) ∧
      (∀ k text, k < (due frames).length → refusal k = some text → (∀ j < k, refusal j = none) →
        relay codec refusal (chunks.map .ok ++ [ending.read]) 0 start =
            ⟨(due frames).take (k + 1), (due frames).take k, [.deviceWrite text]⟩ ∧
          (LoopEnd.deviceWrite text).toFault =
            ⟨.transport, "failed to write frame to TAP device: " ++ text⟩) ∧
      (∀ others : List Bytes, (∀ chunk ∈ others, chunk ≠ []) → others.flatten = chunks.flatten →
        relay codec refusal (others.map .ok ++ [ending.read]) 0 start =
          relay codec refusal (chunks.map .ok ++ [ending.read]) 0 start) ∧
      (codec.Oversized rest → ∀ later,
        relay codec refusal (chunks.map .ok ++ later) 0 start =
          relay codec refusal (chunks.map .ok ++ [ending.read]) 0 start) := by
  obtain ⟨frames, rest, hs⟩ := Codec.exists_splits codec chunks.flatten
  have hrun := relay_eq_outcome refusal hchunks ending hs
  refine ⟨frames, rest, hs, ?_, ?_, ?_, ?_⟩
  · intro htaken
    refine ⟨lastReport codec ending rest, ?_,
      toFault_lastReport_eq_closed_iff hs.decode_rest_ne,
      kind_toFault_lastReport_eq_violation_iff hs.decode_rest_ne,
      toFault_lastReport_eq_read_iff hs.decode_rest_ne⟩
    rw [hrun, outcome_of_taken (by simpa using htaken)]
    rfl
  · intro k text hk htext hbefore
    refine ⟨?_, toFault_deviceWrite text⟩
    rw [hrun]
    exact outcome_of_refused hk (by simpa using htext) (by simpa using hbefore)
  · intro others hothers hflatten
    rw [hrun]
    exact relay_eq_outcome refusal hothers ending (hflatten ▸ hs)
  · intro hover later
    obtain ⟨violation, hviolation⟩ := Codec.oversized_iff.mp hover
    rw [hrun]
    refine relay_chunks (fun hnone ↦ ?_) ?_ hchunks rfl hs
    · rw [hviolation] at hnone
      cases hnone
    · intro other hother
      simp [lastReport, hother]

theorem relay_stream_half_prefix :
    (∀ chunk ∈ ([[1, 0, 7, 0], [0, 2]] : List Bytes), chunk ≠ []) ∧
      ∃ report,
        relay .default (fun _ ↦ none)
            (([[1, 0, 7, 0], [0, 2]] : List Bytes).map .ok ++ [HostEnd.closed.read]) 0 start =
          ⟨[[7]], [[7]], [report]⟩ ∧
        report.toFault.kind = .protocolViolation := by
  have hchunks : ∀ chunk ∈ ([[1, 0, 7, 0], [0, 2]] : List Bytes), chunk ≠ [] := by decide
  refine ⟨hchunks, ?_⟩
  obtain ⟨frames, rest, hs, htaken, -⟩ := relay_stream .default (fun _ ↦ none) hchunks .closed
  have hfirst : Codec.default.decode [1, 0, 7, 0, 0, 2] = .ok (some ([7], [0, 0, 2])) := rfl
  have hsecond : Codec.default.decode [0, 0, 2] = .ok (some ([], [2])) := rfl
  have hthird : ∀ frame tail, Codec.default.decode [2] ≠ .ok (some (frame, tail)) := by
    simp [Codec.decode, Codec.announced?]
  obtain ⟨frames', rfl, hs'⟩ := hs.exists_cons hfirst
  obtain ⟨frames'', rfl, hs''⟩ := hs'.exists_cons hsecond
  obtain ⟨rfl, rfl⟩ := (Codec.Splits.nil_iff_of_decode hthird).mp hs''
  obtain ⟨report, hrun, -, hkind, -⟩ := htaken fun _ _ ↦ rfl
  exact ⟨report, hrun, hkind.mpr (Or.inr ⟨rfl, by simp⟩)⟩

end AttestedUplink.Downlink
