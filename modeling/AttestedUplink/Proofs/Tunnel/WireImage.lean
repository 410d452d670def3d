import AttestedUplink.Proofs.Frame.Wire
import AttestedUplink.Proofs.Tunnel.Lifecycle

/-!
# What the host sees

The octets that the stream of an attempt takes are compared with the frames that the device of the
attempt hands over. Nothing of the supervisor says which frames these were, so an observer notes
them along a run.
-/

namespace AttestedUplink

namespace Uplink

theorem length_fill (buffer frame : Bytes) : (fill buffer frame).2.length = buffer.length := by
  simp only [fill, List.length_append, List.length_take, List.length_drop]
  omega

/-- The front of the buffer is the frame, whatever was in the buffer before. -/
theorem take_fill (buffer frame : Bytes) :
    (fill buffer frame).2.take (fill buffer frame).1 = frame.take buffer.length := by
  simp only [fill, List.take_left]

/-- As much of a frame as fits into the buffer is sent in its envelope. -/
theorem step_frame {codec : Frame.Codec} {buffer : Bytes} (hbuffer : buffer.length = codec.maxLen)
    (octets : Bytes) : (Uplink.reading buffer).step codec (.frame octets) =
      { loop := .writing (fill buffer octets).2
          (.start (Frame.envelope (octets.take codec.maxLen))) } := by
  have hfits : (octets.take codec.maxLen).length ≤ codec.maxLen := List.length_take_le ..
  have hencode := Frame.Codec.encode_eq_ok_iff.2 ⟨hfits, rfl⟩
  have hfront := take_fill buffer octets
  rw [hbuffer] at hfront
  simp only [step, hfront, hencode]

end Uplink

namespace Tunnel

open AttestedUplink.Frame

/-- The latest attempt in the eyes of an observer. -/
structure Passage where
  /-- The octets that the stream took. -/
  taken : Bytes := []
  /-- As much of them as the last flush covered. -/
  flushed : Bytes := []
  /-- The frames that the device handed over, as far as they fit into the buffer. -/
  received : List Bytes := []
  /-- Whether the device failed to hand over a frame. -/
  deviceFailed : Bool := false
  /-- Whether the attempt got as far as to forward frames. -/
  forwards : Bool := false

namespace Passage

def served (passage : Passage) : StreamWriter → StreamAnswer → Passage
  | .flushing, .flushed => { passage with flushed := passage.taken }
  | _, _ => passage

/-- What an input tells about an uplink that waits for it. -/
def fed (codec : Codec) (passage : Passage) : Uplink → UplinkInput → Passage
  | .reading _, .frame octets =>
    { passage with received := passage.received ++ [octets.take codec.maxLen] }
  | .reading _, .frameFailed _ => { passage with deviceFailed := true }
  | .writing _ writer, .stream answer => passage.served writer answer
  | _, _ => passage

def heed (link : LinkSettings) (passage : Passage) : Phase → Stimulus → Passage
  | .establishing (.greeting writer), .greeting answer => passage.served writer answer
  | .forwarding session, .uplink input => passage.fed link.codec session.uplink input
  | _, _ => passage

def see (passage : Passage) : Event → Passage
  | .acquired .stream => {}
  | .sent octets => { passage with taken := passage.taken ++ octets }
  | .entered .forwarding => { passage with forwards := true }
  | _ => passage

def note (link : LinkSettings) (passage : Passage) (phase : Phase) (stimulus : Stimulus)
    (events : List Event) : Passage :=
  events.foldl see (passage.heed link phase stimulus)

/-- What the observer knows after some more stimuli. -/
def follow (link : LinkSettings) (state : State) (passage : Passage) : List Stimulus → Passage
  | [] => passage
  | stimulus :: stimuli =>
    let (next, events) := state.step link stimulus
    follow link next (passage.note link state.phase stimulus events) stimuli

/-- Nothing is left behind: every octet is taken and flushed. -/
def Settled (head : Bytes) (passage : Passage) : Prop :=
  passage.taken = head ++ wire passage.received ∧ passage.flushed = passage.taken

/-- Only the last frame may be incomplete. -/
def Image (head : Bytes) (passage : Passage) : Prop :=
  (∃ sent, passage.taken = head ++ sent ∧ sent <+: wire passage.received ∧
    wire passage.received.dropLast <+: sent) ∧
  (passage.deviceFailed = true → passage.Settled head)

variable {head : Bytes} {passage : Passage}

/-- The last answer of all is the one to the flush. -/
theorem served_eq (passage : Passage) (writer : StreamWriter) (answer : StreamAnswer) :
    passage.served writer answer =
      if (writer.step answer).2 = .done then { passage with flushed := passage.taken }
      else passage := by
  cases writer with
  | flushing => cases answer <;> rfl
  | sending pending =>
    cases answer with
    | took count => cases count <;> rfl
    | _ => rfl

theorem Settled.image (h : passage.Settled head) : passage.Image head := by
  refine ⟨⟨wire passage.received, h.1, List.prefix_rfl, ?_⟩, fun _ ↦ h⟩
  obtain ⟨last, hlast⟩ := List.dropLast_prefix passage.received
  refine ⟨wire last, ?_⟩
  rw [← wire_append, hlast]

end Passage

/-! ### The uplink -/

namespace Passage

variable {head : Bytes} {passage : Passage} {codec : Codec}

/-- What the uplink owes the passage. While a frame is written, `part` of its envelope is taken. -/
def Carries (codec : Codec) (head : Bytes) (passage : Passage) : Uplink → Prop
  | .reading buffer =>
    buffer.length = codec.maxLen ∧ passage.deviceFailed = false ∧ passage.Settled head
  | .writing buffer writer =>
    buffer.length = codec.maxLen ∧ passage.deviceFailed = false ∧ ∃ frames frame part,
      passage.received = frames ++ [frame] ∧ part ++ writer.pending = envelope frame ∧
        passage.taken = head ++ wire frames ++ part
  | .ended => passage.Image head

theorem Carries.image {uplink : Uplink} (h : passage.Carries codec head uplink) :
    passage.Image head := by
  cases uplink with
  | reading buffer => exact h.2.2.image
  | ended => exact h
  | writing buffer writer =>
    obtain ⟨-, hfailed, frames, frame, part, hreceived, hpart, htaken⟩ := h
    refine ⟨⟨wire frames ++ part, by rw [htaken, List.append_assoc], ?_, ?_⟩, ?_⟩
    · rw [hreceived, wire_append, wire_cons, wire_nil, List.append_nil, ← hpart]
      exact (List.prefix_append_right_inj _).2 (List.prefix_append ..)
    · rw [hreceived, List.dropLast_concat]
      exact List.prefix_append ..
    · rw [hfailed]
      nofun

/-- The passage after a move of the uplink. -/
def moved (codec : Codec) (passage : Passage) (uplink : Uplink) (input : UplinkInput) : Passage :=
  (((uplink.step codec input).moved.map Event.sent).foldl see (passage.fed codec uplink input))

theorem Carries.frame {buffer : Bytes} (h : passage.Carries codec head (.reading buffer))
    (octets : Bytes) :
    (passage.moved codec (.reading buffer) (.frame octets)).Carries codec head
      ((Uplink.reading buffer).step codec (.frame octets)).loop := by
  obtain ⟨hbuffer, hfailed, htaken, -⟩ := h
  simp only [moved, Uplink.step_frame hbuffer]
  refine ⟨(Uplink.length_fill ..).trans hbuffer, hfailed, passage.received, _, [], rfl, ?_, ?_⟩
  · rw [List.nil_append, StreamWriter.pending_start]
  · rw [List.append_nil]
    exact htaken

theorem Carries.answer {buffer : Bytes} {writer : StreamWriter}
    (h : passage.Carries codec head (.writing buffer writer)) (answer : StreamAnswer) :
    (passage.moved codec (.writing buffer writer) (.stream answer)).Carries codec head
      ((Uplink.writing buffer writer).step codec (.stream answer)).loop := by
  obtain ⟨himage, hkept⟩ := h.image
  obtain ⟨hbuffer, hfailed, frames, frame, part, hreceived, hpart, htaken⟩ := h
  rcases hstep : writer.step answer with ⟨taken, next | _ | failure⟩
  -- more of the envelope is taken
  · simp only [moved, Uplink.step, fed, served_eq, hstep]
    refine ⟨hbuffer, hfailed, frames, frame, part ++ taken, hreceived, ?_, ?_⟩
    · rw [List.append_assoc, StreamWriter.step_writing hstep, hpart]
    · change passage.taken ++ taken = _
      rw [htaken, List.append_assoc]
  -- the flush ends the frame, of which nothing was left
  · obtain ⟨rfl, hpending⟩ := StreamWriter.step_done hstep
    rw [hpending, List.append_nil] at hpart
    simp only [moved, Uplink.step, fed, served_eq, hstep]
    refine ⟨hbuffer, hfailed, ?_, ?_⟩
    · change passage.taken ++ [] = head ++ wire passage.received
      rw [htaken, hpart, hreceived, wire_append, wire_cons, wire_nil]
      simp only [List.append_nil, List.append_assoc]
    · exact (List.append_nil _).symm
  -- a failure takes nothing, so what was taken before stays
  · obtain rfl := StreamWriter.step_failed hstep
    have hsame : (passage.taken ++ [] : Bytes) = passage.taken := List.append_nil _
    simp only [moved, Uplink.step, fed, served_eq, hstep, Uplink.finish, List.map_cons,
      List.map_nil, List.foldl_cons, List.foldl_nil, see, hsame, reduceCtorEq, if_false]
    exact ⟨himage, hkept⟩

theorem Carries.step {uplink : Uplink} (h : passage.Carries codec head uplink)
    (input : UplinkInput) :
    (passage.moved codec uplink input).Carries codec head (uplink.step codec input).loop := by
  cases uplink with
  | ended => exact h
  | reading buffer =>
    cases input with
    | frame octets => exact h.frame octets
    | frameFailed text => exact ⟨h.2.2.image.1, fun _ ↦ h.2.2⟩
    | stream answer => exact h
  | writing buffer writer =>
    cases input with
    | stream answer => exact h.answer answer
    | frame octets => exact h
    | frameFailed text => exact h

end Passage

/-! ### The supervisor -/

namespace Passage

variable {link : LinkSettings} {head : Bytes} {passage : Passage} {state next : State}
  {stimulus : Stimulus} {events : List Event}

/-- Nothing is forwarded yet, and `pending` is left of the handshake. -/
def Opens (head : Bytes) (passage : Passage) (pending : Bytes) : Prop :=
  passage.received = [] ∧ passage.deviceFailed = false ∧ passage.forwards = false ∧
    passage.taken ++ pending = head

/-- What is left of a passage that is over. -/
def Recorded (link : LinkSettings) (passage : Passage) : Prop :=
  passage.forwards = true → ∃ head, Handshake.head link.endpoint = .ok head ∧ passage.Image head

/-- What a phase owes the passage. -/
def Suits (link : LinkSettings) (passage : Passage) : Phase → Prop
  | .establishing (.greeting writer) =>
    ∃ head, Handshake.head link.endpoint = .ok head ∧ passage.Opens head writer.pending
  | .establishing .configuring | .establishing .linking =>
    ∃ head, Handshake.head link.endpoint = .ok head ∧ passage.Opens head [] ∧
      passage.flushed = passage.taken
  | .forwarding session =>
    ∃ head, Handshake.head link.endpoint = .ok head ∧
      passage.Carries link.codec head session.uplink
  | _ => passage.Recorded link

theorem Opens.recorded {pending : Bytes} (h : passage.Opens head pending) :
    passage.Recorded link := by
  intro hforwards
  rw [h.2.2.1] at hforwards
  cases hforwards

theorem Suits.recorded {phase : Phase} (h : passage.Suits link phase) : passage.Recorded link := by
  cases phase with
  | idle | failed | closing | finished => exact h
  | forwarding session =>
    obtain ⟨head, hhead, hcarries⟩ := h
    exact fun _ ↦ ⟨head, hhead, hcarries.image⟩
  | establishing stage =>
    cases stage with
    | begin | creating | dialing => exact h
    | greeting writer =>
      obtain ⟨head, -, hopens⟩ := h
      exact hopens.recorded
    | configuring | linking =>
      obtain ⟨head, -, hopens, -⟩ := h
      exact hopens.recorded

@[simp] theorem foldl_see_releases (passage : Passage) (phase : Phase) :
    phase.releases.foldl see passage = passage :=
  foldl_map_eq_self (fun _ ↦ rfl) _

@[simp] theorem foldl_see_delivered (passage : Passage) (frames : List Bytes) :
    (frames.map Event.delivered).foldl see passage = passage :=
  foldl_map_eq_self (fun _ ↦ rfl) frames

theorem heed_of_unheeded (h : state.heeds stimulus = false) :
    passage.heed link state.phase stimulus = passage := by
  unfold heed
  split
  · rename_i hphase
    simp [State.heeds, hphase] at h
  · rename_i hphase
    simp [State.heeds, hphase] at h
  · rfl

theorem heed_of_other {phase : Phase} (hgreeting : ∀ answer, stimulus ≠ .greeting answer)
    (huplink : ∀ input, stimulus ≠ .uplink input) :
    passage.heed link phase stimulus = passage := by
  unfold heed
  split
  · exact absurd rfl (hgreeting _)
  · exact absurd rfl (huplink _)
  · rfl

theorem Suits.progress {stage next : Stage} (h : passage.Suits link (.establishing stage))
    (hprogress : Progress link stage stimulus next events) :
    (passage.note link (.establishing stage) stimulus events).Suits link (.establishing next) := by
  cases hprogress with
  | create => exact h
  | dial => exact h
  | greet hwriter =>
    unfold Handshake.writer at hwriter
    split at hwriter
    · rename_i head hhead
      cases hwriter
      exact ⟨head, hhead, rfl, rfl, rfl, StreamWriter.pending_start head⟩
    · cases hwriter
  | write hstep =>
    obtain ⟨head, hhead, hreceived, hfailed, hforwards, htaken⟩ := h
    rw [note, heed, served_eq, hstep]
    refine ⟨head, hhead, hreceived, hfailed, hforwards, ?_⟩
    change (passage.taken ++ _) ++ _ = head
    rw [List.append_assoc, StreamWriter.step_writing hstep, htaken]
  | configure hstep =>
    obtain ⟨head, hhead, hreceived, hfailed, hforwards, htaken⟩ := h
    obtain ⟨rfl, hpending⟩ := StreamWriter.step_done hstep
    rw [hpending] at htaken
    rw [note, heed, served_eq, hstep]
    refine ⟨head, hhead, ⟨hreceived, hfailed, hforwards, ?_⟩, ?_⟩
    · change (passage.taken ++ []) ++ [] = head
      rw [List.append_nil, htaken]
    · exact (List.append_nil _).symm
  | linkUp => exact h

theorem Suits.recorded_heed {phase : Phase} (h : passage.Suits link phase)
    (houter : stimulus.isOuter = true) : (passage.heed link phase stimulus).Recorded link := by
  unfold heed
  split
  · rename_i writer answer
    obtain ⟨head, -, hreceived, hfailed, hforwards, htaken⟩ := h
    rw [served_eq]
    split
    · exact Opens.recorded ⟨hreceived, hfailed, hforwards, htaken⟩
    · exact Opens.recorded ⟨hreceived, hfailed, hforwards, htaken⟩
  · cases houter
  · exact h.recorded

theorem Suits.failure {phase : Phase} {cause : Fault} (h : passage.Suits link phase)
    (hfailure : Failure link phase stimulus cause events) :
    (passage.note link phase stimulus events).Recorded link := by
  cases hfailure with
  | call hcall =>
    rw [note, foldl_see_releases]
    exact h.recorded_heed rfl
  | request => nofun
  | greeting hstep =>
    obtain ⟨head, -, hreceived, hfailed, hforwards, htaken⟩ := h
    rw [note, heed, served_eq, hstep]
    intro hforwarded
    change passage.forwards = true at hforwarded
    rw [hforwards] at hforwarded
    cases hforwarded
  | loops => exact h.recorded

/-- What one move preserves. The buffer of a session has to be as long as the limit of its codec. -/
theorem Suits.move (hlimit : link.codec.maxLen = link.maxFrameLen.toNat)
    (h : passage.Suits link state.phase)
    (hmove : Move link state stimulus next events) :
    (passage.note link state.phase stimulus events).Suits link next.phase := by
  cases hmove with
  | stop =>
    have hheed : passage.heed link state.phase .stop = passage := heed_of_other nofun nofun
    rw [note, hheed]
    exact h
  | elapse ms =>
    have hheed : passage.heed link state.phase (.elapse ms) = passage := heed_of_other nofun nofun
    rw [note, hheed]
    exact h
  | stay hheeds =>
    rw [note, heed_of_unheeded hheeds]
    exact h
  | close hopen hstop houter =>
    rw [note, List.foldl_append, foldl_see_releases]
    exact h.recorded_heed houter
  | establish hphase =>
    rw [hphase] at h ⊢
    exact h
  | progress hphase hstop hprogress =>
    rw [hphase] at h ⊢
    exact h.progress hprogress
  | forward hphase =>
    rw [hphase] at h ⊢
    obtain ⟨head, hhead, ⟨hreceived, hfailed, -, htaken⟩, hflushed⟩ := h
    refine ⟨head, hhead, List.length_replicate.trans hlimit.symm, hfailed, ?_, hflushed⟩
    change passage.taken = head ++ wire passage.received
    rw [hreceived, wire_nil, ← htaken, List.append_nil, List.append_nil]
  | uplink hphase input =>
    rw [hphase] at h ⊢
    obtain ⟨head, hhead, hcarries⟩ := h
    exact ⟨head, hhead, hcarries.step input⟩
  | downlink hphase input =>
    rw [hphase] at h ⊢
    rw [note, Session.moveDownlink, foldl_see_delivered]
    exact h
  | fail hphase hfailure =>
    rw [hphase] at h ⊢
    rw [note, List.foldl_append]
    exact h.failure hfailure
  | retry hphase | finish hphase =>
    rw [hphase] at h ⊢
    exact h

theorem suits_follow (hlimit : link.codec.maxLen = link.maxFrameLen.toNat)
    (stimuli : List Stimulus) (h : passage.Suits link state.phase) :
    (follow link state passage stimuli).Suits link (state.run link stimuli).1.phase := by
  induction stimuli generalizing state passage with
  | nil => exact h
  | cons stimulus stimuli ih => exact ih (h.move hlimit (state.step_move stimulus))

/-- After the end there is nothing to see. -/
theorem follow_of_finished {result : Except Fault Unit} (hphase : state.phase = .finished result)
    (stimuli : List Stimulus) : follow link state passage stimuli = passage := by
  induction stimuli generalizing state with
  | nil => rfl
  | cons stimulus stimuli ih =>
    have hmove := @State.step_move link state stimulus
    obtain ⟨hnext, hevents⟩ := hmove.of_finished hphase
    have hnote : passage.note link state.phase stimulus (state.step link stimulus).2 = passage := by
      rw [note, hevents, hphase]
      rfl
    calc follow link state passage (stimulus :: stimuli)
        = follow link (state.step link stimulus).1 passage stimuli :=
          congrArg (follow link _ · stimuli) hnote
      _ = passage := ih hnext

end Passage

/-- What the observer of a whole run knows at its end. -/
def passage (link : LinkSettings) (stopped : Bool) (stimuli : List Stimulus) : Passage :=
  Passage.follow link (State.start link stopped).1 {} stimuli

theorem suits_passage (link : LinkSettings) (stopped : Bool) (stimuli : List Stimulus) :
    (passage link stopped stimuli).Suits link (run link stopped stimuli).1.phase := by
  cases hvalid : link.validate with
  | ok _ =>
    apply Passage.suits_follow (LinkSettings.maxLen_codec_of_validate hvalid)
    rw [State.start, hvalid]
    intro hforwards
    cases hforwards
  | error cause =>
    have hphase : (State.start link stopped).1.phase = .finished (.error cause) := by
      rw [State.start, hvalid]
    have hend : (run link stopped stimuli).1.phase = .finished (.error cause) :=
      (State.run_finished hphase stimuli).1
    rw [passage, Passage.follow_of_finished hphase, hend]
    intro hforwards
    cases hforwards

/-- Whether the device is asked for a frame. -/
def State.asksDevice (state : State) : Bool :=
  match state.phase with
  | .forwarding { uplink := .reading _, .. } => true
  | _ => false

theorem Passage.Suits.settled {link : LinkSettings} {state : State} {passage : Passage}
    (h : passage.Suits link state.phase) (hasks : state.asksDevice = true) :
    ∃ head, Handshake.head link.endpoint = .ok head ∧ passage.Settled head := by
  unfold State.asksDevice at hasks
  split at hasks
  · rename_i hphase
    rw [hphase] at h
    obtain ⟨head, hhead, -, -, hsettled⟩ := h
    exact ⟨head, hhead, hsettled⟩
  · cases hasks

/-- At every moment of an attempt that forwards frames, its stream has taken the whole handshake
and then nothing but the frames that the device handed over, each behind its length; only the last
of them can be incomplete. While the device is asked for a frame, and after it failed to hand one
over, no octet is missing and all are flushed. -/
theorem wire_image (link : LinkSettings) (stopped : Bool) (stimuli : List Stimulus)
    (hforwards : (passage link stopped stimuli).forwards = true) :
    ∃ head sent, Handshake.head link.endpoint = .ok head ∧
      (passage link stopped stimuli).taken = head ++ sent ∧
      sent <+: wire (passage link stopped stimuli).received ∧
      wire (passage link stopped stimuli).received.dropLast <+: sent ∧
      ((run link stopped stimuli).1.asksDevice = true ∨
          (passage link stopped stimuli).deviceFailed = true →
        sent = wire (passage link stopped stimuli).received ∧
          (passage link stopped stimuli).flushed = (passage link stopped stimuli).taken) := by
  have hsuits := suits_passage link stopped stimuli
  obtain ⟨head, hhead, ⟨sent, htaken, hprefix, hlast⟩, hkept⟩ := hsuits.recorded hforwards
  refine ⟨head, sent, hhead, htaken, hprefix, hlast, ?_⟩
  intro hasked
  have hsettled : (passage link stopped stimuli).Settled head := by
    rcases hasked with hasks | hfailed
    · obtain ⟨head', hhead', hsettled⟩ := hsuits.settled hasks
      cases hhead.symm.trans hhead'
      exact hsettled
    · exact hkept hfailed
  obtain ⟨hwhole, hflushed⟩ := hsettled
  exact ⟨List.append_cancel_left (htaken.symm.trans hwhole), hflushed⟩

/-- An attempt whose first frame is half written. -/
def halfWritten : List Stimulus :=
  [.wake true, .wake true, .answer (.ok ()), .answer (.ok ()), .greeting (.took 1000),
    .greeting .flushed, .answer (.ok ()), .answer (.ok ()), .uplink (.frame [1, 2, 3]),
    .uplink (.stream (.took 3))]

theorem wire_image_halfWritten :
    (passage {} false halfWritten).forwards = true ∧
      ∃ head sent, Handshake.head ({} : LinkSettings).endpoint = .ok head ∧
        (passage {} false halfWritten).taken = head ++ sent ∧ sent <+: wire [[1, 2, 3]] := by
  have hforwards : (passage {} false halfWritten).forwards = true := by decide +kernel
  have hreceived : (passage {} false halfWritten).received = [[1, 2, 3]] := by decide +kernel
  obtain ⟨head, sent, hhead, htaken, hprefix, -⟩ := wire_image {} false halfWritten hforwards
  rw [hreceived] at hprefix
  exact ⟨hforwards, head, sent, hhead, htaken, hprefix⟩

end Tunnel

end AttestedUplink
