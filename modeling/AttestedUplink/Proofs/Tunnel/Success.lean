import AttestedUplink.Proofs.Handshake.Integrity
import AttestedUplink.Proofs.Tunnel.SlotHistory

/-!
# Attempts that succeed

The parts that the supervisor works with decide how far an attempt gets. If the device is made, the
host is reached, the stream takes the request, and the link is configured and brought up, then
frames are forwarded. From then on it is the loops that decide: what one of them reports ends the
session as soon as the supervisor looks, and is the fault that is warned of.
-/

namespace AttestedUplink.Tunnel

open Checks

variable {link : LinkSettings} {state : State} {answers : List StreamAnswer} {head : Bytes}
  {writer : StreamWriter} {stimulus : Stimulus} {stimuli : List Stimulus}

/-! ### The steps of an attempt -/

/-- The device is made. -/
theorem run_begin (hphase : state.phase = .idle) (hrunning : state.stopped = false) :
    state.run link [.wake true, .wake true, .answer (.ok ())] =
      ({ state with phase := .establishing .dialing },
        [.entered .establishing, .called (.createDevice link.tapName), .acquired .device,
          .called (.dial link.endpoint)]) := by
  simp [State.run, State.step, State.wake, State.answer, State.advance, State.goto, hphase,
    hrunning, Stage.isCall]

/-- The host is reached. -/
theorem run_dialed (hphase : state.phase = .establishing .dialing)
    (hrunning : state.stopped = false) (hwriter : Handshake.writer link.endpoint = .ok writer) :
    state.run link [.answer (.ok ())] =
      ({ state with phase := .establishing (.greeting writer) }, [.acquired .stream]) := by
  simp [State.run, State.step, State.answer, State.advance, State.goto, hphase, hrunning, hwriter,
    Stage.isCall]

/-- The link is configured and brought up. -/
theorem run_configured (hphase : state.phase = .establishing .configuring)
    (hrunning : state.stopped = false) :
    state.run link [.answer (.ok ()), .answer (.ok ())] =
      ({ state with phase := .forwarding (.start link) },
        [.called .linkUp, .entered .forwarding]) := by
  simp [State.run, State.step, State.answer, State.advance, State.goto, hphase, hrunning,
    Stage.isCall]

/-- Answers that nobody waits for are not heard. -/
theorem run_greetings_of_configuring (hphase : state.phase = .establishing .configuring)
    (answers : List StreamAnswer) :
    state.run link (answers.map .greeting) = (state, []) := by
  induction answers with
  | nil => rfl
  | cons answer answers ih =>
    have hstep : state.step link (.greeting answer) = (state, []) := by
      rw [State.step, State.greet, hphase]
    rw [List.map_cons, State.run_cons, hstep, ih]
    rfl

/-- The stream takes what is left of the request, and the flush succeeds. The induction is on the
answers of the stream, each of which either leaves something to do or is the last one. -/
theorem run_greetings (hphase : state.phase = .establishing (.greeting writer))
    (hrunning : state.stopped = false) (hdone : (writer.run answers).2 = .done) :
    ∃ portions : List Bytes, portions.flatten = (writer.run answers).1 ∧
      state.run link (answers.map .greeting) =
        ({ state with phase := .establishing .configuring },
          portions.map .sent ++ [.called .configure]) := by
  induction answers generalizing state writer with
  | nil => cases hdone
  | cons answer answers ih =>
    rcases hstep : writer.step answer with ⟨taken, next | _ | failure⟩
    · have hgreet : state.step link (.greeting answer) =
          ({ state with phase := .establishing (.greeting next) }, [.sent taken]) := by
        simp [State.step, State.greet, State.goto, hphase, hrunning, hstep]
      rw [StreamWriter.run_cons_of_writing hstep] at hdone ⊢
      obtain ⟨portions, hportions, hrest⟩ :=
        @ih { state with phase := .establishing (.greeting next) } next rfl hrunning hdone
      refine ⟨taken :: portions, ?_, ?_⟩
      · rw [List.flatten_cons, hportions]
      · rw [List.map_cons, State.run_cons, hgreet, hrest]
        rfl
    · have hgreet : state.step link (.greeting answer) =
          ({ state with phase := .establishing .configuring },
            [.sent taken, .called .configure]) := by
        simp [State.step, State.greet, State.advance, State.goto, hphase, hrunning, hstep]
      have hended : writer.run (answer :: answers) = (taken, .done) := by
        rw [StreamWriter.run_cons_of_ended (by simp [hstep]), hstep]
      refine ⟨[taken], ?_, ?_⟩
      · rw [hended, List.flatten_singleton]
      · rw [List.map_cons, State.run_cons, hgreet, run_greetings_of_configuring rfl answers]
        rfl
    · rw [StreamWriter.run_cons_of_ended (by simp [hstep]), hstep] at hdone
      cases hdone

/-! ### A whole attempt -/

/-- What an attempt hears in which every step succeeds, with the answers of the stream to the
request. -/
def success (answers : List StreamAnswer) : List Stimulus :=
  [.wake true, .wake true, .answer (.ok ())] ++ ([.answer (.ok ())] ++
    (answers.map .greeting ++ [.answer (.ok ()), .answer (.ok ())]))

theorem stop_not_mem_success (answers : List StreamAnswer) : .stop ∉ success answers := by
  simp [success]

/-- An attempt whose five steps succeed comes to forward frames. What its stream took until then is
the request. -/
theorem run_success (hhead : Handshake.head link.endpoint = .ok head)
    (hdone : ((StreamWriter.start head).run answers).2 = .done) (hphase : state.phase = .idle)
    (hrunning : state.stopped = false) :
    ∃ portions : List Bytes, portions.flatten = head ∧
      state.run link (success answers) =
        ({ state with phase := .forwarding (.start link) },
          [.entered .establishing, .called (.createDevice link.tapName), .acquired .device,
              .called (.dial link.endpoint), .acquired .stream] ++ portions.map .sent ++
            [.called .configure, .called .linkUp, .entered .forwarding]) := by
  have hwriter : Handshake.writer link.endpoint = .ok (.start head) := by
    rw [Handshake.writer, hhead]
  obtain ⟨portions, hportions, hgreetings⟩ :=
    @run_greetings link { state with phase := .establishing (.greeting (.start head)) } answers
      (.start head) rfl hrunning hdone
  refine ⟨portions, hportions.trans (StreamWriter.run_fst_of_done hdone), ?_⟩
  have hdialed := @run_dialed link { state with phase := .establishing .dialing } _ rfl hrunning
    hwriter
  have hconfigured :=
    @run_configured link { state with phase := .establishing .configuring } rfl hrunning
  rw [success, State.run_append, run_begin hphase hrunning, State.run_append, hdialed,
    State.run_append, hgreetings, hconfigured]
  simp

/-- From its start the supervisor comes to forward frames. -/
theorem run_success_of_validate (hvalid : link.validate = .ok ())
    (hhead : Handshake.head link.endpoint = .ok head)
    (hdone : ((StreamWriter.start head).run answers).2 = .done) :
    (run link false (success answers)).1 = { phase := .forwarding (.start link) } ∧
      statuses (run link false (success answers)).2 = [.idle, .establishing, .forwarding] := by
  obtain ⟨portions, -, hrun⟩ :=
    @run_success link { phase := .idle } answers head hhead hdone rfl rfl
  have hsent : statuses (portions.map .sent) = [] := filterMap_map_eq_nil (fun _ ↦ rfl) portions
  simp only [run, State.start_of_valid hvalid, hrun]
  refine ⟨trivial, ?_⟩
  rw [statuses_append, statuses_append, statuses_append, hsent]
  rfl

/-- With valid settings and an endpoint of which a request can be made, some attempt succeeds. -/
theorem exists_run_forwarding (hvalid : link.validate = .ok ()) {tail : List Char}
    (hslash : link.endpoint.path.toList = '/' :: tail)
    (hsendable : Handshake.Sendable link.endpoint) :
    ∃ stimuli, .stop ∉ stimuli ∧
      (run link false stimuli).1.phase = .forwarding (.start link) := by
  obtain ⟨head, hhead⟩ := (Handshake.exists_head_iff hslash).2 hsendable
  obtain ⟨answers, hdone⟩ := StreamWriter.exists_run_eq_done head
  refine ⟨success answers, stop_not_mem_success answers, ?_⟩
  rw [(run_success_of_validate hvalid hhead hdone).1]

/-! ### The end of a session -/

variable {session : Session} {cause : Fault} {ending : LoopEnd} {slot : ErrorSlot}

/-- What a loop of a session ends with when it gets a stimulus. -/
def Session.ending? (codec : Frame.Codec) (session : Session) : Stimulus → Option LoopEnd
  | .uplink input => (session.uplink.step codec input).ending
  | .downlink input => (session.downlink.step codec input).ending
  | _ => none

def Stimulus.isLoop : Stimulus → Bool
  | .uplink _ | .downlink _ => true
  | _ => false

theorem reportEnd_of_pending (h : slot.pending = some cause) (ending : Option LoopEnd) :
    reportEnd slot ending = slot := by
  have hfull : slot.isFree = false := by
    rw [ErrorSlot.isFree, h]
    exact Bool.and_false _
  cases ending with
  | none => rfl
  | some ending => exact congrArg Prod.snd (ErrorSlot.report_of_not_isFree hfull)

theorem reportEnd_of_isFree (h : slot.isFree = true) (ending : LoopEnd) :
    (reportEnd slot (some ending)).pending = some ending.toFault := by
  rw [reportEnd, ErrorSlot.report_of_isFree h]

/-- A loop that moves leaves its report, if it ends, and publishes nothing. -/
theorem step_loop (hphase : state.phase = .forwarding session) (hloop : stimulus.isLoop = true) :
    ∃ next traffic, next.slot = reportEnd session.slot (session.ending? link.codec stimulus) ∧
      statuses traffic = [] ∧
        state.step link stimulus = ({ state with phase := .forwarding next }, traffic) := by
  cases stimulus with
  | uplink input =>
    refine ⟨(session.moveUplink link.codec input).1, (session.moveUplink link.codec input).2, rfl,
      filterMap_map_eq_nil (fun _ ↦ rfl) _, ?_⟩
    rw [State.step, State.moveLoop, hphase]
    rfl
  | downlink input =>
    refine ⟨(session.moveDownlink link.codec input).1, (session.moveDownlink link.codec input).2,
      rfl, filterMap_map_eq_nil (fun _ ↦ rfl) _, ?_⟩
    rw [State.step, State.moveLoop, hphase]
    rfl
  | stop | elapse | wake | answer | greeting => cases hloop

/-- What is in the slot stays there, whatever the loops do. -/
theorem run_loops (hphase : state.phase = .forwarding session)
    (hpending : session.slot.pending = some cause)
    (hloops : ∀ stimulus ∈ stimuli, stimulus.isLoop = true) :
    ∃ last traffic, last.slot.pending = some cause ∧ statuses traffic = [] ∧
      state.run link stimuli = ({ state with phase := .forwarding last }, traffic) := by
  induction stimuli generalizing state session with
  | nil =>
    refine ⟨session, [], hpending, rfl, ?_⟩
    rw [← hphase]
    rfl
  | cons stimulus stimuli ih =>
    obtain ⟨hloop, hloops⟩ := List.forall_mem_cons.1 hloops
    obtain ⟨next, traffic, hslot, hquiet, hstep⟩ := @step_loop link _ _ _ hphase hloop
    rw [reportEnd_of_pending hpending] at hslot
    obtain ⟨last, more, hlast, hmore, hrun⟩ :=
      @ih { state with phase := .forwarding next } next rfl (hslot ▸ hpending) hloops
    refine ⟨last, traffic ++ more, hlast, ?_, ?_⟩
    · rw [statuses_append, hquiet, hmore]
      rfl
    · rw [State.run_cons, hstep, hrun]

/-- The supervisor finds what is in the slot. -/
theorem run_wake_of_pending (hphase : state.phase = .forwarding session)
    (hrunning : state.stopped = false) (hpending : session.slot.pending = some cause)
    (stopFirst : Bool) :
    state.run link [.wake stopFirst] =
      ({ state with phase := .failed (state.now + link.backoffMs.toNat) },
        [.released .stream, .released .device, .entered .failed,
          .warned cause link.backoffMs]) := by
  have herror : session.error? = some cause := by
    rw [Session.error?, hpending]
  have hwake : state.wake link stopFirst = state.fail link cause := by
    simp [State.wake, hphase, herror, hrunning]
  rw [State.run_cons, State.step, hwake, State.fail, hphase]
  rfl

/-- A loop that ends while the slot is free ends the session: whatever the loops still do until the
supervisor looks, the attempt fails with what was reported. -/
theorem run_reported (hphase : state.phase = .forwarding session) (hrunning : state.stopped = false)
    (hfree : session.slot.isFree = true)
    (hending : session.ending? link.codec stimulus = some ending)
    (hloops : ∀ stimulus ∈ stimuli, stimulus.isLoop = true) (stopFirst : Bool) :
    ∃ traffic, statuses traffic = [] ∧
      state.run link (stimulus :: (stimuli ++ [.wake stopFirst])) =
        ({ state with phase := .failed (state.now + link.backoffMs.toNat) },
          traffic ++ [.released .stream, .released .device, .entered .failed,
            .warned ending.toFault link.backoffMs]) := by
  have hloop : stimulus.isLoop = true := by
    cases stimulus with
    | uplink | downlink => rfl
    | stop | elapse | wake | answer | greeting => cases hending
  obtain ⟨next, traffic, hslot, hquiet, hstep⟩ := @step_loop link _ _ _ hphase hloop
  have hpending : next.slot.pending = some ending.toFault := by
    rw [hslot, hending]
    exact reportEnd_of_isFree hfree ending
  obtain ⟨last, more, hlast, hmore, hrun⟩ :=
    @run_loops link { state with phase := .forwarding next } stimuli next _ rfl hpending hloops
  have hwake := @run_wake_of_pending link { state with phase := .forwarding last } last _ rfl
    hrunning hlast stopFirst
  refine ⟨traffic ++ more, ?_, ?_⟩
  · rw [statuses_append, hquiet, hmore]
    rfl
  · rw [State.run_cons, hstep, State.run_append, hrun, hwake, List.append_assoc]

/-- From its start the supervisor comes to forward frames, and the first loop that ends makes the
attempt fail. -/
theorem run_success_reported (hvalid : link.validate = .ok ())
    (hhead : Handshake.head link.endpoint = .ok head)
    (hdone : ((StreamWriter.start head).run answers).2 = .done)
    (hending : (Session.start link).ending? link.codec stimulus = some ending)
    (hloops : ∀ stimulus ∈ stimuli, stimulus.isLoop = true) (stopFirst : Bool) :
    statuses (run link false (success answers ++
        stimulus :: (stimuli ++ [.wake stopFirst]))).2 =
      [.idle, .establishing, .forwarding, .failed] ∧
    (run link false (success answers ++ stimulus :: (stimuli ++ [.wake stopFirst]))).2.getLast? =
      some (.warned ending.toFault link.backoffMs) := by
  obtain ⟨hforwarding, hstatuses⟩ := run_success_of_validate hvalid hhead hdone
  obtain ⟨traffic, hquiet, hrun⟩ := @run_reported link { phase := .forwarding (.start link) }
    stimulus stimuli (.start link) ending rfl rfl rfl hending hloops stopFirst
  rw [run_append, hforwarding, hrun]
  constructor
  · rw [statuses_append, hstatuses, statuses_append, hquiet]
    rfl
  · simp

/-- The device fails at the first frame, and the host goes away before the supervisor looks. -/
example :
    statuses (run {} false (success [.took 1000, .flushed] ++
      [.uplink (.frameFailed "gone"), .downlink (.octets []), .wake true])).2 =
        [.idle, .establishing, .forwarding, .failed] := by
  decide +kernel

end AttestedUplink.Tunnel
