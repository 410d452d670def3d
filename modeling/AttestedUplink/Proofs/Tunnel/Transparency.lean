import AttestedUplink.Proofs.Handshake.BlankLine
import AttestedUplink.Proofs.Tunnel.Reception
import AttestedUplink.Proofs.Tunnel.WireImage

/-!
# From one end to the other

What one end writes is read by the other. The stream between them may take the octets in portions of
any sizes and give them out in reads of any sizes: the frames arrive as they were sent.
-/

namespace AttestedUplink

/-! ### Writing to a stream that takes everything -/

namespace StreamWriter

/-- What a stream answers that fails at nothing and was asked `count` times before; `sizes` says how
many octets it takes each time. -/
def answer (sizes : ℕ → ℕ) (count : ℕ) : StreamWriter → StreamAnswer
  | .sending _ => .took (sizes count)
  | .flushing => .flushed

/-- A bound on the answers that a writer still waits for. -/
def load : StreamWriter → ℕ
  | .sending pending => pending.length + 2
  | .flushing => 1

variable {sizes : ℕ → ℕ} {count : ℕ} {writer next : StreamWriter} {taken : Bytes}

theorem load_start_drop_lt (pending : Bytes) (count : ℕ) :
    (start (pending.drop (count + 1))).load < (StreamWriter.sending pending).load := by
  unfold start
  split
  · exact Nat.lt_add_left pending.length (Nat.lt_succ_self 1)
  · rename_i hne
    have hlen := List.length_pos_of_ne_nil hne
    rw [List.length_drop] at hlen
    simp only [load, List.length_drop]
    omega

theorem load_step_lt (h : writer.step (writer.answer sizes count) = (taken, .writing next)) :
    next.load < writer.load := by
  cases writer with
  | flushing => cases h
  | sending pending =>
    rw [answer] at h
    cases hsize : sizes count with
    | zero =>
      rw [hsize] at h
      cases h
    | succ size =>
      rw [hsize] at h
      cases h
      exact load_start_drop_lt pending size

theorem step_answer_ne_failed (hsizes : ∀ k, 0 < sizes k) {failure : Failure} :
    writer.step (writer.answer sizes count) ≠ (taken, .failed failure) := by
  cases writer with
  | flushing => exact nofun
  | sending pending =>
    obtain ⟨size, hsize⟩ := Nat.exists_eq_succ_of_ne_zero (hsizes count).ne'
    rw [answer, hsize]
    exact nofun

/-- What a stream took of a writer, how often it was asked altogether, and why it failed. -/
structure Account where
  octets : Bytes
  asked : ℕ
  failure : Option Failure

/-- Runs a writer against a stream that was asked `count` times before. -/
def drive (sizes : ℕ → ℕ) (count : ℕ) (writer : StreamWriter) : Account :=
  match _h : writer.step (writer.answer sizes count) with
  | (taken, .writing next) =>
    let later := drive sizes (count + 1) next
    { later with octets := taken ++ later.octets }
  | (taken, .done) => ⟨taken, count + 1, none⟩
  | (taken, .failed failure) => ⟨taken, count + 1, some failure⟩
termination_by writer.load
decreasing_by exact load_step_lt _h

/-- A stream that takes something each time takes everything. -/
theorem drive_eq (hsizes : ∀ k, 0 < sizes k) (count : ℕ) (writer : StreamWriter) :
    ∃ asked, writer.drive sizes count = ⟨writer.pending, asked, none⟩ := by
  fun_induction drive sizes count writer with
  | case1 count writer taken next hstep later ih =>
    obtain ⟨asked, hlater⟩ := ih
    refine ⟨asked, ?_⟩
    rw [← step_writing hstep, show later = ⟨next.pending, asked, none⟩ from hlater]
  | case2 count writer taken hstep =>
    obtain ⟨rfl, hpending⟩ := step_done hstep
    exact ⟨count + 1, by rw [hpending]⟩
  | case3 count writer taken failure hstep => exact absurd hstep (step_answer_ne_failed hsizes)

end StreamWriter

/-- Sends the opening request: what the stream took of it, unless that fails. -/
def Handshake.send (sizes : ℕ → ℕ) (endpoint : Endpoint) : Except Fault StreamWriter.Account :=
  match writer endpoint with
  | .error fault => .error fault
  | .ok writer =>
    let sent := writer.drive sizes 0
    match sent.failure with
    | some failure => .error (writeFault failure)
    | none => .ok sent

/-! ### A session of the uplink -/

namespace Uplink

/-- A bound on the answers of the stream that an uplink still waits for. -/
def load : Uplink → ℕ
  | .writing _ writer => writer.load + 1
  | _ => 0

theorem load_answer_lt (codec : Frame.Codec) (sizes : ℕ → ℕ) (count : ℕ) (buffer : Bytes)
    (writer : StreamWriter) :
    (step codec (.writing buffer writer) (.stream (writer.answer sizes count))).loop.load <
      (Uplink.writing buffer writer).load := by
  rcases hstep : writer.step (writer.answer sizes count) with ⟨taken, next | _ | failure⟩
  · have hlt := StreamWriter.load_step_lt hstep
    simp only [step, hstep, load]
    omega
  · simp [step, hstep, load]
  · simp [step, hstep, load, finish]

/-- What an uplink did: the octets that the stream took, its reports, and where it stands. -/
structure Account where
  octets : Bytes := []
  reports : List LoopEnd := []
  final : Uplink

/-- With octets that the stream took before. -/
def Account.preceded (taken : Bytes) (later : Account) : Account :=
  { later with octets := taken ++ later.octets }

/-- What an uplink does from a move on. -/
def Account.after (moved : LoopStep Uplink) (later : Account) : Account :=
  { later.preceded moved.moved.flatten with reports := moved.ending.toList ++ later.reports }

/-- Runs an uplink against a device with some frames and a stream that was asked `count` times
before. It stops when the loop has ended, or waits for a frame that does not come. -/
def forward (codec : Frame.Codec) (sizes : ℕ → ℕ) :
    (frames : List Bytes) → (count : ℕ) → Uplink → Account
  | _, _, .ended => { final := .ended }
  | [], _, .reading buffer => { final := .reading buffer }
  | frame :: frames, count, .reading buffer =>
    let moved := step codec (.reading buffer) (.frame frame)
    (forward codec sizes frames count moved.loop).after moved
  | frames, count, .writing buffer writer =>
    let moved := step codec (.writing buffer writer) (.stream (writer.answer sizes count))
    (forward codec sizes frames (count + 1) moved.loop).after moved
  termination_by frames _ uplink => (frames.length, uplink.load)
  decreasing_by
    · exact Prod.Lex.left _ _ (Nat.lt_succ_self _)
    · exact Prod.Lex.right _ (load_answer_lt codec sizes count buffer writer)

variable {codec : Frame.Codec} {sizes : ℕ → ℕ} {frames : List Bytes}

theorem forward_nil (count : ℕ) (buffer : Bytes) :
    forward codec sizes [] count (.reading buffer) = { final := .reading buffer } := by
  rw [forward]

theorem forward_cons (frame : Bytes) (count : ℕ) (buffer : Bytes) :
    forward codec sizes (frame :: frames) count (.reading buffer) =
      (forward codec sizes frames count (step codec (.reading buffer) (.frame frame)).loop).after
        (step codec (.reading buffer) (.frame frame)) := by
  rw [forward]

theorem forward_writing (count : ℕ) (buffer : Bytes) (writer : StreamWriter) :
    forward codec sizes frames count (.writing buffer writer) =
      (forward codec sizes frames (count + 1)
        (step codec (.writing buffer writer) (.stream (writer.answer sizes count))).loop).after
          (step codec (.writing buffer writer) (.stream (writer.answer sizes count))) := by
  rw [forward]

theorem after_taken (loop : Uplink) (taken : Bytes) (later : Account) :
    later.after { loop := loop, moved := [taken] } = later.preceded taken := by
  simp [Account.after, Account.preceded]

/-- A frame that is being written is written to its end. The induction is on the answers that its
writer waits for. -/
theorem forward_pending (codec : Frame.Codec) (frames : List Bytes) (hsizes : ∀ k, 0 < sizes k)
    (count : ℕ) (buffer : Bytes) (writer : StreamWriter) : ∃ asked,
      forward codec sizes frames count (.writing buffer writer) =
        (forward codec sizes frames asked (.reading buffer)).preceded writer.pending := by
  induction hload : writer.load using Nat.strong_induction_on generalizing count writer with
  | _ n ih =>
    rw [forward_writing]
    rcases hstep : writer.step (writer.answer sizes count) with ⟨taken, next | _ | failure⟩
    · have hlt : next.load < n := hload ▸ StreamWriter.load_step_lt hstep
      obtain ⟨asked, hlater⟩ := ih next.load hlt (count + 1) next rfl
      refine ⟨asked, ?_⟩
      simp only [step, hstep, hlater, after_taken, Account.preceded, List.append_assoc,
        ← StreamWriter.step_writing hstep]
    · obtain ⟨rfl, hpending⟩ := StreamWriter.step_done hstep
      refine ⟨count + 1, ?_⟩
      simp only [step, hstep, after_taken, hpending]
    · exact absurd hstep (StreamWriter.step_answer_ne_failed hsizes)

/-- An uplink sends the envelopes of the frames and waits for more. -/
theorem forward_frames (hsizes : ∀ k, 0 < sizes k)
    (hfit : ∀ frame ∈ frames, frame.length ≤ codec.maxLen) (count : ℕ) {buffer : Bytes}
    (hbuffer : buffer.length = codec.maxLen) : ∃ buffer',
      forward codec sizes frames count (.reading buffer) =
        { octets := Frame.wire frames, final := .reading buffer' } := by
  induction frames generalizing count buffer with
  | nil => exact ⟨buffer, forward_nil count buffer⟩
  | cons frame frames ih =>
    obtain ⟨hfirst, hlater⟩ := List.forall_mem_cons.1 hfit
    have hfilled : (fill buffer frame).2.length = codec.maxLen :=
      (length_fill buffer frame).trans hbuffer
    have hstep := step_frame hbuffer frame
    rw [List.take_of_length_le hfirst] at hstep
    obtain ⟨asked, hwriting⟩ := forward_pending codec frames hsizes count (fill buffer frame).2
      (.start (Frame.envelope frame))
    obtain ⟨buffer', hrest⟩ := ih hlater asked hfilled
    refine ⟨buffer', ?_⟩
    rw [forward_cons, hstep, hwriting, hrest, StreamWriter.pending_start]
    rfl

end Uplink

namespace Tunnel

open Downlink (HostEnd due relay)

/-- The request is sent as soon as there is one. -/
theorem send_of_head {sizes : ℕ → ℕ} (hsizes : ∀ k, 0 < sizes k) {endpoint : Endpoint}
    {head : Bytes} (h : Handshake.head endpoint = .ok head) :
    ∃ asked, Handshake.send sizes endpoint = .ok ⟨head, asked, none⟩ := by
  obtain ⟨asked, hdrive⟩ := StreamWriter.drive_eq hsizes 0 (.start head)
  refine ⟨asked, ?_⟩
  simp only [Handshake.send, Handshake.writer, h, hdrive, StreamWriter.pending_start]

theorem head_of_send {sizes : ℕ → ℕ} (hsizes : ∀ k, 0 < sizes k) {endpoint : Endpoint}
    {sent : StreamWriter.Account} (h : Handshake.send sizes endpoint = .ok sent) :
    Handshake.head endpoint = .ok sent.octets := by
  cases hhead : Handshake.head endpoint with
  | error defect =>
    simp only [Handshake.send, Handshake.writer, hhead] at h
    cases h
  | ok head =>
    obtain ⟨asked, hsend⟩ := send_of_head hsizes hhead
    obtain rfl := Except.ok.inj (hsend.symm.trans h)
    rfl

/-- Frames that one end sends are what the other end delivers. What the first blank line of a
session ends is the request, and what follows it is the frames. However this is cut into reads, the
device gets the frames that are not empty, in order and unchanged, and then it is reported that the
host closed the connection. -/
theorem session_transparent (codec : Frame.Codec) (endpoint : Endpoint) {sizes : ℕ → ℕ}
    (hsizes : ∀ k, 0 < sizes k) {sent : StreamWriter.Account}
    (hsent : Handshake.send sizes endpoint = .ok sent) {frames : List Bytes}
    (hfit : ∀ frame ∈ frames, frame.length ≤ codec.maxLen) :
    ∃ written buffer before,
      Uplink.forward codec sizes frames sent.asked (.start codec.maxLen) =
          { octets := written, reports := [], final := .reading buffer } ∧
        Handshake.CutAt (sent.octets ++ written) before (Frame.wire frames) ∧
          ∀ before' rest, Handshake.CutAt (sent.octets ++ written) before' rest →
            before' ++ Handshake.blankLine = sent.octets ∧ rest = Frame.wire frames ∧
              ∀ chunks : List Bytes, (∀ chunk ∈ chunks, chunk ≠ []) → chunks.flatten = rest →
                ∃ report, relay codec (fun _ ↦ none) (chunks.map .ok ++ [HostEnd.closed.read]) 0
                    Downlink.start = ⟨due frames, due frames, [report]⟩ ∧
                  report.toFault = ⟨.transport, "host closed the connection"⟩ := by
  obtain ⟨before, hhead, hcut⟩ := Handshake.cutAt_head (head_of_send hsizes hsent)
  obtain ⟨buffer, hforward⟩ := Uplink.forward_frames hsizes hfit sent.asked
    (List.length_replicate (n := codec.maxLen) (a := (0 : UInt8)))
  have hsession := hcut (Frame.wire frames)
  refine ⟨Frame.wire frames, buffer, before, hforward, hsession, fun before' rest hcut' ↦ ?_⟩
  obtain ⟨rfl, rfl⟩ := hcut'.unique hsession
  refine ⟨hhead.symm, rfl, fun chunks hchunks hflatten ↦ ?_⟩
  have hnone : codec.decode [] = .ok none := rfl
  have hsplits : codec.Splits chunks.flatten frames [] := by
    refine .of_decode_rest hfit ?_ fun frame tail ↦ ?_
    · rw [hflatten, List.append_nil]
    · rw [hnone]
      exact nofun
  refine ⟨.hostClosed, ?_, rfl⟩
  rw [Downlink.relay_eq_outcome (fun _ ↦ none) hchunks .closed hsplits,
    Downlink.outcome_of_taken fun _ _ ↦ rfl]
  rfl

/-- A session with the usual endpoint that sends an empty frame and one of a single octet. -/
theorem session_transparent_default :
    (∀ k, 0 < k % 3 + 1) ∧ (∀ frame ∈ ([[], [7]] : List Bytes),
      frame.length ≤ Frame.Codec.default.maxLen) ∧
      ∃ sent written buffer before,
        Handshake.send (fun k ↦ k % 3 + 1) .default = .ok sent ∧
          Uplink.forward .default (fun k ↦ k % 3 + 1) [[], [7]] sent.asked
              (.start Frame.Codec.default.maxLen) =
            { octets := written, reports := [], final := .reading buffer } ∧
          Handshake.CutAt (sent.octets ++ written) before [0, 0, 1, 0, 7] := by
  have hsizes : ∀ k, 0 < k % 3 + 1 := fun k ↦ Nat.succ_pos _
  have hfit : ∀ frame ∈ ([[], [7]] : List Bytes), frame.length ≤ Frame.Codec.default.maxLen := by
    decide
  have hhead : Handshake.head .default =
      .ok (Bytes.ofText (Handshake.headText "/connect" "3:1024")) := by
    rfl
  obtain ⟨asked, hsend⟩ := send_of_head hsizes hhead
  obtain ⟨written, buffer, before, hforward, hcut, -⟩ :=
    session_transparent .default .default hsizes hsend hfit
  exact ⟨hsizes, hfit, _, written, buffer, before, hsend, hforward, hcut⟩

end Tunnel

end AttestedUplink
