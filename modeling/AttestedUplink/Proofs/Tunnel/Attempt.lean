import AttestedUplink.Proofs.Tunnel.Promptness

/-!
# The steps of an attempt

An observer sees what the parts answer and which events follow, and notes which steps the latest
attempt started, which of them succeeded, and which failed with which fault. The steps come in one
order, each after the success of the one before, and a fault that ends an attempt is the one that is
warned of. What the supervisor has in its state is not looked at, except for whether a stop was
asked for, after which answers come too late.
-/

namespace AttestedUplink

/-- A writer that goes on is at the start of what is left to it. -/
theorem StreamWriter.eq_start_of_step {rest taken : Bytes} {answer : StreamAnswer}
    {next : StreamWriter} (h : (start rest).step answer = (taken, .writing next)) :
    next = start next.pending := by
  unfold start at h
  split at h
  · cases answer with
    | flushed | flushFailed => cases h
    | took | writeFailed =>
      cases h
      rfl
  · rename_i hrest
    cases answer with
    | writeFailed => cases h
    | flushed | flushFailed =>
      cases h
      exact (if_neg hrest).symm
    | took count =>
      cases count with
      | zero => cases h
      | succ count =>
        cases h
        rw [pending_start]

namespace Tunnel

inductive Task
  | createDevice
  | dial
  | greet
  | configure
  | linkUp
  deriving Repr, DecidableEq

def Task.order : List Task := [.createDevice, .dial, .greet, .configure, .linkUp]

def Call.task : Call → Task
  | .createDevice _ => .createDevice
  | .dial _ => .dial
  | .configure => .configure
  | .linkUp => .linkUp

/-- How an answer of the stream ends the handshake, of which `rest` is not taken yet; nothing while
it goes on. -/
def greetingResult? (rest : Bytes) : StreamAnswer → Option (Except Fault Unit)
  | .took count =>
    if rest ≠ [] ∧ count = 0 then some (.error (Handshake.writeFault .tookNothing)) else none
  | .writeFailed text =>
    if rest ≠ [] then some (.error (Handshake.writeFault (.write text))) else none
  | .flushed => if rest = [] then some (.ok ()) else none
  | .flushFailed text =>
    if rest = [] then some (.error (Handshake.writeFault (.flush text))) else none

/-- The result of a handshake is that of writing what is left and flushing it. -/
theorem greetingResult?_eq (rest : Bytes) (answer : StreamAnswer) :
    greetingResult? rest answer =
      match ((StreamWriter.start rest).step answer).2 with
      | .writing _ => none
      | .done => some (.ok ())
      | .failed failure => some (.error (Handshake.writeFault failure)) := by
  by_cases hrest : rest = []
  · cases answer <;> simp [greetingResult?, StreamWriter.start, StreamWriter.step, hrest]
  · cases answer with
    | took count =>
      cases count <;> simp [greetingResult?, StreamWriter.start, StreamWriter.step, hrest]
    | _ => simp [greetingResult?, StreamWriter.start, StreamWriter.step, hrest]

/-- The latest attempt in the eyes of an observer. -/
structure Course where
  started : List Task := []
  succeeded : List Task := []
  failure : Option (Task × Fault) := none
  /-- The octets that the stream took. -/
  sent : Bytes := []
  /-- Whether the attempt got as far as to forward frames. -/
  forwards : Bool := false
  warnings : List Fault := []
  deriving DecidableEq

namespace Course

/-- The step that was started and has not ended. -/
def current? (course : Course) : Option Task :=
  if course.failure.isSome then none else (course.started.drop course.succeeded.length).head?

def settle (course : Course) (task : Task) : Except Fault Unit → Course
  | .ok () => { course with succeeded := course.succeeded ++ [task] }
  | .error cause => { course with failure := some (task, cause) }

/-- What an answer tells about the step that is under way. -/
def heed (endpoint : Endpoint) (course : Course) : Stimulus → Course
  | .answer result =>
    match course.current? with
    | none | some .greet => course
    | some task => course.settle task result
  | .greeting answer =>
    match course.current?, Handshake.head endpoint with
    | some .greet, .ok head =>
      match greetingResult? (head.drop course.sent.length) answer with
      | some result => course.settle .greet result
      | none => course
    | _, _ => course
  | _ => course

/-- The handshake starts as soon as the stream is there, and fails at once if the request cannot be
made. -/
def greet (endpoint : Endpoint) (course : Course) : Course :=
  let greeting := { course with started := course.started ++ [.greet] }
  match Handshake.head endpoint with
  | .ok _ => greeting
  | .error defect => greeting.settle .greet (.error defect.toFault)

def see (endpoint : Endpoint) (course : Course) : Event → Course
  | .entered .establishing => {}
  | .entered .forwarding => { course with forwards := true }
  | .called call => { course with started := course.started ++ [call.task] }
  | .acquired .stream => course.greet endpoint
  | .sent octets => { course with sent := course.sent ++ octets }
  | .warned cause _ => { course with warnings := course.warnings ++ [cause] }
  | _ => course

def note (endpoint : Endpoint) (course : Course) (stopped : Bool) (stimulus : Stimulus)
    (events : List Event) : Course :=
  events.foldl (see endpoint) (if stopped then course else course.heed endpoint stimulus)

/-- What the observer knows after some more stimuli. -/
def follow (link : LinkSettings) (state : State) (course : Course) : List Stimulus → Course
  | [] => course
  | stimulus :: stimuli =>
    let (next, events) := state.step link stimulus
    follow link next (course.note link.endpoint state.stopped stimulus events) stimuli

/-- What is true of an attempt at every moment. -/
structure Ordered (endpoint : Endpoint) (course : Course) : Prop where
  steps : course.started <+: Task.order
  /-- At most one step is started that has not succeeded, and it is the last one. -/
  one_by_one : ∃ current : Option Task, course.started = course.succeeded ++ current.toList
  /-- A success is followed by the next step. -/
  goes_on : course.started = course.succeeded →
    course.succeeded = [] ∨ course.succeeded = Task.order
  opens : course.forwards = false →
    ∀ head, Handshake.head endpoint = .ok head → course.sent <+: head
  greeted : .greet ∈ course.succeeded → ∃ head, Handshake.head endpoint = .ok head ∧
    head <+: course.sent
  forwards_iff : course.forwards = true ↔ course.succeeded = Task.order
  failed : ∀ task cause, course.failure = some (task, cause) →
    course.started = course.succeeded ++ [task] ∧ course.warnings = [cause]
  warned : course.warnings = [] ∨ ∃ cause, course.warnings = [cause] ∧
    (course.forwards = true ∨ ∃ task, course.failure = some (task, cause))

end Course

/-! ### Stages and courses -/

/-- The steps that have succeeded in a stage. -/
def Stage.behind : Stage → List Task
  | .begin | .creating => []
  | .dialing => [.createDevice]
  | .greeting _ => [.createDevice, .dial]
  | .configuring => [.createDevice, .dial, .greet]
  | .linking => [.createDevice, .dial, .greet, .configure]

/-- The step that is under way in a stage. -/
def Stage.task? : Stage → Option Task
  | .begin => none
  | .creating => some .createDevice
  | .dialing => some .dial
  | .greeting _ => some .greet
  | .configuring => some .configure
  | .linking => some .linkUp

/-- What the stream has taken in a stage. -/
def Stage.Sends (endpoint : Endpoint) (sent : Bytes) : Stage → Prop
  | .begin | .creating | .dialing => sent = []
  | .greeting writer =>
    ∃ rest, Handshake.head endpoint = .ok (sent ++ rest) ∧ writer = .start rest
  | .configuring | .linking => Handshake.head endpoint = .ok sent

namespace Course

/-- The course of an attempt that has come to a stage. -/
def upTo (stage : Stage) (sent : Bytes) : Course :=
  { started := stage.behind ++ stage.task?.toList, succeeded := stage.behind, sent }

/-- The course of an attempt that forwards frames. -/
def forwarding (sent : Bytes) : Course :=
  { started := Task.order, succeeded := Task.order, sent, forwards := true }

/-- What a state of the supervisor says of the latest attempt. -/
def Suits (endpoint : Endpoint) (course : Course) (state : State) : Prop :=
  match state.phase with
  | .establishing stage => ∃ sent, stage.Sends endpoint sent ∧ course = upTo stage sent
  | .forwarding _ => ∃ head sent, Handshake.head endpoint = .ok head ∧ head <+: sent ∧
    course = forwarding sent
  | _ => course.Ordered endpoint ∧ (state.stopped = false → course.current? = none)

variable {link : LinkSettings} {endpoint : Endpoint} {course : Course} {state next : State}
  {stimulus : Stimulus} {events : List Event} {sent : Bytes}

theorem ordered_upTo {stage : Stage}
    (hopens : ∀ head, Handshake.head endpoint = .ok head → sent <+: head)
    (hgreeted : .greet ∈ stage.behind → Handshake.head endpoint = .ok sent) :
    (upTo stage sent).Ordered endpoint where
  steps := by cases stage <;> exact ⟨_, rfl⟩
  one_by_one := ⟨stage.task?, rfl⟩
  goes_on := by cases stage <;> simp [upTo, Stage.behind, Stage.task?]
  opens := fun _ ↦ hopens
  greeted := fun hmem ↦ ⟨sent, hgreeted hmem, List.prefix_rfl⟩
  forwards_iff := by cases stage <;> simp [upTo, Stage.behind, Task.order]
  failed := nofun
  warned := .inl rfl

theorem ordered_of_sends {stage : Stage} (h : stage.Sends endpoint sent) :
    (upTo stage sent).Ordered endpoint := by
  cases stage with
  | begin | creating | dialing =>
    obtain rfl : sent = [] := h
    exact ordered_upTo (fun _ _ ↦ List.nil_prefix) (by simp [Stage.behind])
  | greeting writer =>
    obtain ⟨rest, hrest, -⟩ := h
    refine ordered_upTo (fun head hhead ↦ ?_) (by simp [Stage.behind])
    obtain rfl := Except.ok.inj (hhead.symm.trans hrest)
    exact List.prefix_append ..
  | configuring | linking =>
    refine ordered_upTo (fun head hhead ↦ ?_) fun _ ↦ h
    obtain rfl := Except.ok.inj (hhead.symm.trans h)
    exact List.prefix_rfl

/-- The course of an attempt whose step fails. -/
def failedAt (stage : Stage) (sent : Bytes) (task : Task) (cause : Fault) : Course :=
  { upTo stage sent with failure := some (task, cause), warnings := [cause] }

theorem Ordered.failedAt {stage : Stage} (h : (upTo stage sent).Ordered endpoint) {task : Task}
    (htask : stage.task? = some task) (cause : Fault) :
    (failedAt stage sent task cause).Ordered endpoint where
  steps := h.steps
  one_by_one := h.one_by_one
  goes_on := h.goes_on
  opens := h.opens
  greeted := h.greeted
  forwards_iff := h.forwards_iff
  failed := by
    rintro _ _ ⟨⟩
    exact ⟨by simp [Course.failedAt, upTo, htask], rfl⟩
  warned := .inr ⟨cause, rfl, .inr ⟨task, rfl⟩⟩

theorem ordered_forwarding {head : Bytes} (hhead : Handshake.head endpoint = .ok head)
    (hsent : head <+: sent) : (forwarding sent).Ordered endpoint where
  steps := List.prefix_rfl
  one_by_one := ⟨none, rfl⟩
  goes_on := fun _ ↦ .inr rfl
  opens := nofun
  greeted := fun _ ↦ ⟨head, hhead, hsent⟩
  forwards_iff := iff_of_true rfl rfl
  failed := nofun
  warned := .inl rfl

theorem Ordered.forwarding_warned (h : (forwarding sent).Ordered endpoint) (cause : Fault) :
    Ordered endpoint { forwarding sent with warnings := [cause] } where
  steps := h.steps
  one_by_one := h.one_by_one
  goes_on := h.goes_on
  opens := h.opens
  greeted := h.greeted
  forwards_iff := h.forwards_iff
  failed := nofun
  warned := .inr ⟨cause, rfl, .inl rfl⟩

theorem Suits.ordered (h : course.Suits endpoint state) : course.Ordered endpoint := by
  unfold Suits at h
  split at h
  · obtain ⟨sent, hsends, rfl⟩ := h
    exact ordered_of_sends hsends
  · obtain ⟨head, sent, hhead, hsent, rfl⟩ := h
    exact ordered_forwarding hhead hsent
  · exact h.1

/-! ### What an observer makes of events and answers -/

theorem foldl_see_releases (phase : Phase) (course : Course) :
    phase.releases.foldl (see endpoint) course = course :=
  foldl_map_eq_self (fun _ ↦ rfl) _

theorem foldl_see_sent (portions : List Bytes) (course : Course) :
    (portions.map Event.sent).foldl (see endpoint) course =
      { course with sent := course.sent ++ portions.flatten } := by
  induction portions generalizing course with
  | nil => simp
  | cons portion portions ih =>
    rw [List.map_cons, List.foldl_cons, ih, List.flatten_cons, ← List.append_assoc]
    rfl

theorem heed_of_current (h : course.current? = none) (stimulus : Stimulus) :
    course.heed endpoint stimulus = course := by
  cases stimulus <;> simp [heed, h]

theorem current?_upTo (stage : Stage) (sent : Bytes) :
    (upTo stage sent).current? = stage.task? := by
  cases stage <;> rfl

/-- What a call returns is what its step comes to. -/
theorem heed_answer {stage : Stage} (hcall : stage.isCall = true) (result : Except Fault Unit) :
    ∃ task, stage.task? = some task ∧
      (upTo stage sent).heed endpoint (.answer result) = (upTo stage sent).settle task result := by
  cases stage with
  | begin | greeting => cases hcall
  | creating | dialing | configuring | linking => exact ⟨_, rfl, rfl⟩

theorem heed_greeting {writer : StreamWriter} {rest : Bytes}
    (hhead : Handshake.head endpoint = .ok (sent ++ rest)) (answer : StreamAnswer) :
    (upTo (.greeting writer) sent).heed endpoint (.greeting answer) =
      match greetingResult? rest answer with
      | some result => (upTo (.greeting writer) sent).settle .greet result
      | none => upTo (.greeting writer) sent := by
  have hrest : (sent ++ rest).drop (upTo (.greeting writer) sent).sent.length = rest :=
    List.drop_left
  simp only [heed, current?_upTo, Stage.task?, hhead, hrest]

/-! ### What one stimulus preserves -/

/-- The stimuli that an observer makes nothing of. -/
theorem heed_of_unheeded (h : course.Suits endpoint state) (hstop : state.stopped = false)
    (hheeds : state.heeds stimulus = false) : course.heed endpoint stimulus = course := by
  unfold Suits at h
  split at h
  · rename_i stage hphase
    obtain ⟨sent, -, rfl⟩ := h
    cases stimulus with
    | answer result =>
      cases stage with
      | begin | greeting => rfl
      | creating | dialing | configuring | linking =>
        simp [State.heeds, hphase, Stage.isCall] at hheeds
    | greeting answer =>
      cases stage with
      | greeting => simp [State.heeds, hphase] at hheeds
      | begin | creating | dialing | configuring | linking => rfl
    | stop | elapse | wake | uplink | downlink => rfl
  · obtain ⟨head, sent, -, -, rfl⟩ := h
    exact heed_of_current rfl stimulus
  · exact heed_of_current (h.2 hstop) stimulus

theorem upTo_progress {stage next : Stage} (hsends : stage.Sends link.endpoint sent)
    (h : Progress link stage stimulus next events) :
    ∃ sent', next.Sends link.endpoint sent' ∧
      (upTo stage sent).note link.endpoint false stimulus events = upTo next sent' := by
  cases h with
  | create => exact ⟨sent, hsends, rfl⟩
  | dial => exact ⟨sent, hsends, rfl⟩
  | greet hwriter =>
    unfold Handshake.writer at hwriter
    split at hwriter
    · rename_i head hhead
      cases hwriter
      obtain rfl : sent = [] := hsends
      refine ⟨[], ⟨head, hhead, rfl⟩, ?_⟩
      have hgreet : (Course.settle (upTo .dialing []) .dial (.ok ())).greet link.endpoint =
          upTo (.greeting (.start head)) [] := by
        simp only [greet, hhead]
        rfl
      exact hgreet
    · cases hwriter
  | @write _ next answer taken hstep =>
    obtain ⟨rest, hhead, rfl⟩ := hsends
    have hresult : greetingResult? rest answer = none := by rw [greetingResult?_eq, hstep]
    have hpending : taken ++ next.pending = rest := by
      rw [StreamWriter.step_writing hstep, StreamWriter.pending_start]
    refine ⟨sent ++ taken, ⟨next.pending, ?_, StreamWriter.eq_start_of_step hstep⟩, ?_⟩
    · rw [hhead, List.append_assoc, hpending]
    · simp only [note, heed_greeting hhead, hresult]
      rfl
  | @configure _ answer taken hstep =>
    obtain ⟨rest, hhead, rfl⟩ := hsends
    obtain ⟨rfl, hpending⟩ := StreamWriter.step_done hstep
    rw [StreamWriter.pending_start] at hpending
    subst hpending
    have hresult : greetingResult? [] answer = some (.ok ()) := by rw [greetingResult?_eq, hstep]
    rw [List.append_nil] at hhead
    refine ⟨sent, hhead, ?_⟩
    have hhead' : Handshake.head link.endpoint = .ok (sent ++ []) := by
      rw [hhead, List.append_nil]
    simp only [note, heed_greeting hhead', hresult, List.foldl_cons, List.foldl_nil, see]
    simp [settle, upTo, Stage.behind, Stage.task?, Call.task]
  | linkUp => exact ⟨sent, hsends, rfl⟩

/-- Once a stage fails, its step has failed, and its fault is the one that is warned of. -/
theorem note_failure {stage : Stage} {cause : Fault} (hsends : stage.Sends link.endpoint sent)
    (h : Failure link (.establishing stage) stimulus cause events) :
    ∃ failing task, (upTo failing sent).Ordered link.endpoint ∧ failing.task? = some task ∧
      (upTo stage sent).note link.endpoint false stimulus
        (events ++ [.entered .failed, .warned cause link.backoffMs]) =
          failedAt failing sent task cause := by
  cases h with
  | call hcall =>
    obtain ⟨task, htask, hheed⟩ := @heed_answer link.endpoint sent stage hcall (.error cause)
    refine ⟨stage, task, ordered_of_sends hsends, htask, ?_⟩
    rw [note, if_neg Bool.false_ne_true, hheed, List.foldl_append, foldl_see_releases]
    rfl
  | request hwriter =>
    unfold Handshake.writer at hwriter
    split at hwriter
    · cases hwriter
    · rename_i defect hhead
      cases hwriter
      obtain rfl : sent = [] := hsends
      have hgreet : (Course.settle (upTo .dialing []) .dial (.ok ())).greet link.endpoint =
          (upTo (.greeting .flushing) []).settle .greet (.error defect.toFault) := by
        simp only [greet, hhead]
        rfl
      refine ⟨.greeting .flushing, .greet, ?_, rfl, ?_⟩
      · exact ordered_upTo (fun _ _ ↦ List.nil_prefix) (by simp [Stage.behind])
      · change Course.see link.endpoint ((Course.settle (upTo .dialing []) .dial (.ok ())).greet
          link.endpoint) (.warned _ link.backoffMs) = _
        rw [hgreet]
        rfl
  | @greeting writer answer taken failure hstep =>
    obtain ⟨rest, hhead, rfl⟩ := hsends
    obtain rfl := StreamWriter.step_failed hstep
    have hresult : greetingResult? rest answer = some (.error (Handshake.writeFault failure)) := by
      rw [greetingResult?_eq, hstep]
    refine ⟨.greeting (.start rest), .greet, ordered_of_sends ⟨rest, hhead, rfl⟩, rfl, ?_⟩
    simp only [note, heed_greeting hhead, hresult]
    simp [see, settle, failedAt, upTo]

theorem Suits.establishing (h : course.Suits endpoint state) {stage : Stage}
    (hphase : state.phase = .establishing stage) :
    ∃ sent, stage.Sends endpoint sent ∧ course = upTo stage sent := by
  simpa only [Suits, hphase] using h

theorem Suits.forwarding (h : course.Suits endpoint state) {session : Session}
    (hphase : state.phase = .forwarding session) :
    ∃ head sent, Handshake.head endpoint = .ok head ∧ head <+: sent ∧
      course = Course.forwarding sent := by
  simpa only [Suits, hphase] using h

theorem Suits.uplink (h : course.Suits endpoint state) {session : Session}
    (hphase : state.phase = .forwarding session) (portions : List Bytes) (session' : Session) :
    ((portions.map Event.sent).foldl (see endpoint) course).Suits endpoint
      { state with phase := .forwarding session' } := by
  obtain ⟨head, sent, hhead, hsent, rfl⟩ := h.forwarding hphase
  rw [foldl_see_sent]
  exact ⟨head, sent ++ portions.flatten, hhead, hsent.trans (List.prefix_append ..), rfl⟩

theorem Suits.downlink (h : course.Suits endpoint state) {session : Session}
    (hphase : state.phase = .forwarding session) (frames : List Bytes) (session' : Session) :
    ((frames.map Event.delivered).foldl (see endpoint) course).Suits endpoint
      { state with phase := .forwarding session' } := by
  have hquiet (frame : Bytes) : course.see endpoint (.delivered frame) = course := rfl
  rw [foldl_map_eq_self hquiet]
  exact h.forwarding hphase

theorem Suits.loops (h : course.Suits endpoint state) {session : Session}
    (hphase : state.phase = .forwarding session) (cause : Fault) (backoffMs : UInt64)
    (deadline : Nat) :
    ((state.phase.releases ++ [Event.entered .failed, Event.warned cause backoffMs]).foldl
      (see endpoint) course).Suits endpoint { state with phase := .failed deadline } := by
  obtain ⟨head, sent, hhead, hsent, rfl⟩ := h.forwarding hphase
  rw [List.foldl_append, foldl_see_releases]
  exact ⟨(ordered_forwarding hhead hsent).forwarding_warned cause, fun _ ↦ rfl⟩

/-- What one stimulus preserves as long as no stop is asked for. -/
theorem Suits.move (h : course.Suits link.endpoint state) (hstop : state.stopped = false)
    (hmove : Move link state stimulus next events) :
    (course.note link.endpoint false stimulus events).Suits link.endpoint next := by
  cases hmove with
  | stop =>
    have hnote : course.note link.endpoint false .stop [] = course := rfl
    rw [hnote]
    unfold Suits at h ⊢
    split at h
    · rename_i hphase
      simpa only [hphase] using h
    · rename_i hphase
      simpa only [hphase] using h
    · exact ⟨h.1, nofun⟩
  | elapse ms => exact h
  | stay hheeds =>
    rw [note, if_neg Bool.false_ne_true, heed_of_unheeded h hstop hheeds]
    exact h
  | close hopen hstopped =>
    rw [hstop] at hstopped
    cases hstopped
  | establish => exact ⟨[], rfl, rfl⟩
  | progress hphase _ hprogress =>
    obtain ⟨sent, hsends, rfl⟩ := h.establishing hphase
    exact upTo_progress hsends hprogress
  | forward hphase =>
    obtain ⟨sent, hsends, rfl⟩ := h.establishing hphase
    exact ⟨sent, sent, hsends, List.prefix_rfl, rfl⟩
  | uplink hphase input => exact h.uplink hphase _ _
  | downlink hphase input => exact h.downlink hphase _ _
  | @fail phase _ cause _ hphase hfailure =>
    cases phase with
    | establishing stage =>
      obtain ⟨sent, hsends, rfl⟩ := h.establishing hphase
      obtain ⟨failing, task, hordered, htask, hnote⟩ := note_failure hsends hfailure
      rw [hnote]
      exact ⟨hordered.failedAt htask cause, fun _ ↦ rfl⟩
    | forwarding session =>
      cases hfailure with
      | loops herror =>
        have hloops := h.loops hphase cause link.backoffMs
          (state.now + link.backoffMs.toNat)
        rw [hphase] at hloops
        exact hloops
    | _ => cases hfailure
  | retry hphase =>
    simp only [Suits, hphase] at h
    exact h
  | finish hphase =>
    simp only [Suits, hphase] at h
    exact h

/-- What one stimulus preserves once a stop is asked for. -/
theorem Suits.halting (h : course.Suits link.endpoint state) (hstop : state.stopped = true)
    (hmove : Halting link state stimulus next events) :
    (course.note link.endpoint true stimulus events).Suits link.endpoint next := by
  cases hmove with
  | stop | elapse | stay => exact h
  | close hopen =>
    rw [note, if_pos rfl, List.foldl_append, foldl_see_releases]
    refine ⟨h.ordered, fun hrunning ↦ ?_⟩
    rw [hstop] at hrunning
    cases hrunning
  | fail hphase => exact h.loops hphase _ _ _
  | uplink hphase input => exact h.uplink hphase _ _
  | downlink hphase input => exact h.downlink hphase _ _
  | finish hphase =>
    simp only [Suits, hphase] at h
    exact h

theorem Suits.step (h : course.Suits link.endpoint state) (stimulus : Stimulus) :
    (course.note link.endpoint state.stopped stimulus (state.step link stimulus).2).Suits
      link.endpoint (state.step link stimulus).1 := by
  cases hstop : state.stopped with
  | true => exact h.halting hstop (State.halting_step hstop stimulus)
  | false => exact h.move hstop (State.step_move stimulus)

theorem suits_follow (stimuli : List Stimulus) (h : course.Suits link.endpoint state) :
    (follow link state course stimuli).Suits link.endpoint (state.run link stimuli).1 := by
  induction stimuli generalizing state course with
  | nil => exact h
  | cons stimulus stimuli ih => exact ih (h.step stimulus)

theorem ordered_start (endpoint : Endpoint) : ({} : Course).Ordered endpoint := by
  have hbegin : Stage.begin.Sends endpoint [] := rfl
  exact ordered_of_sends hbegin

end Course

/-- What the observer of a whole run knows at its end. -/
def course (link : LinkSettings) (stopped : Bool) (stimuli : List Stimulus) : Course :=
  Course.follow link (State.start link stopped).1 {} stimuli

theorem suits_course (link : LinkSettings) (stopped : Bool) (stimuli : List Stimulus) :
    (course link stopped stimuli).Suits link.endpoint (run link stopped stimuli).1 := by
  refine Course.suits_follow stimuli ?_
  unfold State.start
  split <;> exact ⟨Course.ordered_start link.endpoint, fun _ ↦ rfl⟩

/-! ### Failed states and warnings -/

/-- What tells of a failure. -/
inductive Mark
  | failed
  | warned (cause : Fault)

def marks (events : List Event) : List Mark :=
  events.filterMap fun
    | .entered .failed => some .failed
    | .warned cause _ => some (.warned cause)
    | _ => none

def warnings (events : List Event) : List Fault :=
  events.filterMap fun
    | .warned cause _ => some cause
    | _ => none

/-- Each failed state has its warning right after it. -/
def Paired (events : List Event) : Prop :=
  marks events = (warnings events).flatMap fun cause ↦ [.failed, .warned cause]

variable {link : LinkSettings} {state next : State} {stimulus : Stimulus}
  {events more : List Event}

theorem Paired.append (h : Paired events) (hmore : Paired more) : Paired (events ++ more) := by
  unfold Paired marks warnings at *
  rw [List.filterMap_append, List.filterMap_append, List.flatMap_append, h, hmore]

theorem paired_map {α : Type} {event : α → Event}
    (hmark : ∀ item, marks [event item] = []) (hwarning : ∀ item, warnings [event item] = [])
    (items : List α) : Paired (items.map event) := by
  induction items with
  | nil => rfl
  | cons item items ih =>
    have hitem : Paired [event item] := by
      rw [Paired, hmark, hwarning]
      rfl
    exact hitem.append ih

theorem paired_releases (phase : Phase) : Paired phase.releases :=
  paired_map (fun _ ↦ rfl) (fun _ ↦ rfl) _

theorem Failure.paired {phase : Phase} {cause : Fault}
    (h : Failure link phase stimulus cause events) : Paired events := by
  cases h with
  | call => exact paired_releases _
  | request | greeting | loops => rfl

theorem Move.paired (h : Move link state stimulus next events) : Paired events := by
  cases h with
  | stop | elapse | stay | establish | forward | retry | finish => rfl
  | close => exact (paired_releases state.phase).append rfl
  | progress hphase hstop hprogress => cases hprogress <;> rfl
  | uplink => exact paired_map (fun _ ↦ rfl) (fun _ ↦ rfl) _
  | downlink => exact paired_map (fun _ ↦ rfl) (fun _ ↦ rfl) _
  | fail hphase hfailure => exact hfailure.paired.append rfl

theorem paired_run (link : LinkSettings) (stopped : Bool) (stimuli : List Stimulus) :
    Paired (run link stopped stimuli).2 := by
  have hstart : Paired (State.start link stopped).2 := by
    unfold State.start
    split <;> rfl
  have hmove : ∀ (state : State) (events : List Event) (stimulus : Stimulus) (next : State)
      (more : List Event), Paired events → Move link state stimulus next more →
        Paired (events ++ more) :=
    fun _ _ _ _ _ h hmove ↦ h.append hmove.paired
  exact State.run_preserves hmove stimuli _ _ hstart

/-! ### Whole runs -/

/-- Before frames are forwarded, nobody waits for a frame or for octets of the host. -/
theorem Course.Suits.unread {endpoint : Endpoint} {course : Course}
    (h : course.Suits endpoint state) (hforwards : course.forwards = false) :
    (∀ input, state.step link (.uplink input) = (state, [])) ∧
      ∀ input, state.step link (.downlink input) = (state, []) := by
  cases hphase : state.phase with
  | forwarding session =>
    obtain ⟨head, sent, -, -, rfl⟩ := h.forwarding hphase
    cases hforwards
  | _ => exact ⟨fun _ ↦ by simp only [State.step, State.moveLoop, hphase],
      fun _ ↦ by simp only [State.step, State.moveLoop, hphase]⟩

/-- How attempts go in the life of a supervisor. The stimuli being arbitrary, what is said of the
latest attempt holds of every attempt at each of its moments. -/
structure InOrder (link : LinkSettings) (stopped : Bool) (stimuli : List Stimulus) : Prop
    extends (course link stopped stimuli).Ordered link.endpoint where
  unread : (course link stopped stimuli).forwards = false →
    (∀ input, (run link stopped stimuli).1.step link (.uplink input) =
        ((run link stopped stimuli).1, [])) ∧
      ∀ input, (run link stopped stimuli).1.step link (.downlink input) =
        ((run link stopped stimuli).1, [])
  paired : marks (run link stopped stimuli).2 =
    (warnings (run link stopped stimuli).2).flatMap fun cause ↦ [.failed, .warned cause]

/-- Every attempt goes through its five steps one by one, forwards frames once all of them have
succeeded, and touches neither frames nor octets of the host before that. It ends with the first
step that fails, whose fault is warned of; a warning follows on each failed state, and on nothing
else. -/
theorem run_in_order (link : LinkSettings) (stopped : Bool) (stimuli : List Stimulus) :
    InOrder link stopped stimuli := by
  have hsuits := suits_course link stopped stimuli
  exact
    { hsuits.ordered with
      unread := hsuits.unread
      paired := paired_run link stopped stimuli }

/-- An attempt whose link cannot be configured. -/
example :
    course {} false [.wake true, .wake true, .answer (.ok ()), .answer (.ok ()),
        .greeting (.took 1000), .greeting .flushed, .answer (.error ⟨.deviceConfig, "busy"⟩)] =
      { started := [.createDevice, .dial, .greet, .configure]
        succeeded := [.createDevice, .dial, .greet]
        failure := some (.configure, ⟨.deviceConfig, "busy"⟩)
        sent := Bytes.ofText (Handshake.headText "/connect" "3:1024")
        warnings := [⟨.deviceConfig, "busy"⟩] } := by
  decide +kernel

end Tunnel

end AttestedUplink
