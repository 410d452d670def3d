import AttestedUplink.Tunnel.Supervisor

/-!
# The moves of the supervisor

Everything that a stimulus can bring about is listed here once, with the condition under which it
happens and the events that it leaves. Facts about runs are proved move by move.
-/

namespace AttestedUplink.Tunnel

/-- Whether a stimulus finds somebody who waits for it. -/
def State.heeds (state : State) : Stimulus → Bool
  | .stop | .elapse _ => true
  | .wake _ =>
    match state.phase with
    | .idle | .closing => true
    | .establishing stage => state.stopped || stage = .begin
    | .forwarding session => state.stopped || session.error?.isSome
    | .failed deadline => state.stopped || deadline ≤ state.now
    | .finished _ => false
  | .answer _ =>
    match state.phase with
    | .establishing stage => state.stopped || stage.isCall
    | _ => false
  | .greeting _ =>
    match state.phase with
    | .establishing (.greeting _) => true
    | _ => false
  | .uplink _ | .downlink _ =>
    match state.phase with
    | .forwarding _ => true
    | _ => false

/-- Whether a stimulus reaches the supervisor itself, and not one of its loops or the clock. -/
def Stimulus.isOuter : Stimulus → Bool
  | .wake _ | .answer _ | .greeting _ => true
  | .stop | .elapse _ | .uplink _ | .downlink _ => false

/-- Whether the supervisor has neither closed down nor returned. -/
def Phase.isOpen : Phase → Bool
  | .closing | .finished _ => false
  | _ => true

variable (link : LinkSettings)

/-- How an attempt gets from one stage to the next, with the events of that. -/
inductive Progress : Stage → Stimulus → Stage → List Event → Prop
  | create (stopFirst : Bool) :
    Progress .begin (.wake stopFirst) .creating [.called (.createDevice link.tapName)]
  | dial : Progress .creating (.answer (.ok ())) .dialing
      [.acquired .device, .called (.dial link.endpoint)]
  | greet {writer : StreamWriter} (h : Handshake.writer link.endpoint = .ok writer) :
    Progress .dialing (.answer (.ok ())) (.greeting writer) [.acquired .stream]
  | write {writer next : StreamWriter} {answer : StreamAnswer} {taken : Bytes}
    (h : writer.step answer = (taken, .writing next)) :
    Progress (.greeting writer) (.greeting answer) (.greeting next) [.sent taken]
  | configure {writer : StreamWriter} {answer : StreamAnswer} {taken : Bytes}
    (h : writer.step answer = (taken, .done)) :
    Progress (.greeting writer) (.greeting answer) .configuring [.sent taken, .called .configure]
  | linkUp : Progress .configuring (.answer (.ok ())) .linking [.called .linkUp]

/-- Why an attempt fails, with the events up to the failure. -/
inductive Failure : Phase → Stimulus → Fault → List Event → Prop
  | call {stage : Stage} (h : stage.isCall = true) (cause : Fault) :
    Failure (.establishing stage) (.answer (.error cause)) cause
      (Phase.establishing stage).releases
  | request {cause : Fault} (h : Handshake.writer link.endpoint = .error cause) :
    Failure (.establishing .dialing) (.answer (.ok ())) cause
      [.acquired .stream, .released .stream, .released .device]
  | greeting {writer : StreamWriter} {answer : StreamAnswer} {taken : Bytes}
    {failure : StreamWriter.Failure} (h : writer.step answer = (taken, .failed failure)) :
    Failure (.establishing (.greeting writer)) (.greeting answer) (Handshake.writeFault failure)
      [.sent taken, .released .stream, .released .device]
  | loops {session : Session} {cause : Fault} (h : session.error? = some cause)
    (stopFirst : Bool) :
    Failure (.forwarding session) (.wake stopFirst) cause [.released .stream, .released .device]

/-- What a stimulus can bring about. -/
inductive Move (state : State) : Stimulus → State → List Event → Prop
  | stop : Move state .stop { state with stopped := true } []
  | elapse (ms : Nat) : Move state (.elapse ms) { state with now := state.now + ms } []
  | stay {stimulus : Stimulus} (h : state.heeds stimulus = false) : Move state stimulus state []
  | close {stimulus : Stimulus} (hopen : state.phase.isOpen = true) (hstop : state.stopped = true)
    (houter : stimulus.isOuter = true) :
    Move state stimulus { state with phase := .closing }
      (state.phase.releases ++ [.entered .closing])
  | establish (hphase : state.phase = .idle) (hstop : state.stopped = false) (stopFirst : Bool) :
    Move state (.wake stopFirst) { state with phase := .establishing .begin }
      [.entered .establishing]
  | progress {stage next : Stage} {stimulus : Stimulus} {events : List Event}
    (hphase : state.phase = .establishing stage) (hstop : state.stopped = false)
    (h : Progress link stage stimulus next events) :
    Move state stimulus { state with phase := .establishing next } events
  | forward (hphase : state.phase = .establishing .linking) (hstop : state.stopped = false) :
    Move state (.answer (.ok ())) { state with phase := .forwarding (.start link) }
      [.entered .forwarding]
  | uplink {session : Session} (hphase : state.phase = .forwarding session) (input : UplinkInput) :
    Move state (.uplink input)
      { state with phase := .forwarding (session.moveUplink link.codec input).1 }
      (session.moveUplink link.codec input).2
  | downlink {session : Session} (hphase : state.phase = .forwarding session)
    (input : DownlinkInput) :
    Move state (.downlink input)
      { state with phase := .forwarding (session.moveDownlink link.codec input).1 }
      (session.moveDownlink link.codec input).2
  | fail {phase : Phase} {stimulus : Stimulus} {cause : Fault} {events : List Event}
    (hphase : state.phase = phase) (h : Failure link phase stimulus cause events) :
    Move state stimulus { state with phase := .failed (state.now + link.backoffMs.toNat) }
      (events ++ [.entered .failed, .warned cause link.backoffMs])
  | retry {deadline : Nat} (hphase : state.phase = .failed deadline) (hstop : state.stopped = false)
    (hdeadline : deadline ≤ state.now) (stopFirst : Bool) :
    Move state (.wake stopFirst) { state with phase := .idle } [.entered .idle]
  | finish (hphase : state.phase = .closing) (stopFirst : Bool) :
    Move state (.wake stopFirst) { state with phase := .finished (.ok ()) } [.finished (.ok ())]

namespace State

variable {link} {state : State}

theorem move_close {phase : Phase} {stimulus : Stimulus} (hphase : state.phase = phase)
    (hopen : phase.isOpen = true) (hstop : state.stopped = true)
    (houter : stimulus.isOuter = true) : Move link state stimulus state.close.1 state.close.2 :=
  .close (hphase ▸ hopen) hstop houter

theorem move_fail {phase : Phase} {stimulus : Stimulus} {cause : Fault}
    (hphase : state.phase = phase) (h : Failure link phase stimulus cause phase.releases) :
    Move link state stimulus (state.fail link cause).1 (state.fail link cause).2 := by
  subst hphase
  exact .fail rfl h

theorem move_wake (stopFirst : Bool) :
    Move link state (.wake stopFirst) (state.wake link stopFirst).1
      (state.wake link stopFirst).2 := by
  cases hphase : state.phase with
  | idle =>
    cases hstop : state.stopped with
    | true => simpa [wake, hphase, hstop] using move_close hphase rfl hstop rfl
    | false => simpa [wake, goto, hphase, hstop] using Move.establish hphase hstop stopFirst
  | establishing stage =>
    cases hstop : state.stopped with
    | true => simpa [wake, hphase, hstop] using move_close hphase rfl hstop rfl
    | false =>
      cases stage with
      | begin =>
        simpa [wake, advance, goto, hphase, hstop] using
          Move.progress hphase hstop (.create stopFirst)
      | _ => simpa [wake, hphase, hstop] using Move.stay (by simp [heeds, hphase, hstop])
  | forwarding session =>
    cases herror : session.error? with
    | some cause =>
      cases hstop : state.stopped && stopFirst with
      | true =>
        have hstopped : state.stopped = true := (Bool.and_eq_true_iff.mp hstop).1
        simpa [wake, hphase, herror, hstop] using move_close hphase rfl hstopped rfl
      | false =>
        simpa [wake, hphase, herror, hstop] using move_fail hphase (.loops herror stopFirst)
    | none =>
      cases hstop : state.stopped with
      | true => simpa [wake, hphase, herror, hstop] using move_close hphase rfl hstop rfl
      | false =>
        simpa [wake, hphase, herror, hstop] using
          Move.stay (by simp [heeds, hphase, hstop, herror])
  | failed deadline =>
    cases hstop : state.stopped with
    | true => simpa [wake, hphase, hstop] using move_close hphase rfl hstop rfl
    | false =>
      by_cases hdeadline : deadline ≤ state.now
      · simpa [wake, goto, hphase, hstop, hdeadline] using
          Move.retry hphase hstop hdeadline stopFirst
      · simpa [wake, hphase, hstop, hdeadline] using
          Move.stay (by simp [heeds, hphase, hstop, hdeadline])
  | closing => simpa [wake, goto, hphase] using Move.finish hphase stopFirst
  | finished result => simpa [wake, hphase] using Move.stay (by simp [heeds, hphase])

theorem move_advance {stage : Stage} (hphase : state.phase = .establishing stage)
    (hstop : state.stopped = false) (hcall : stage.isCall = true) :
    Move link state (.answer (.ok ())) (state.advance link stage).1
      (state.advance link stage).2 := by
  cases stage with
  | begin => cases hcall
  | greeting writer => cases hcall
  | creating => exact .progress hphase hstop .dial
  | configuring => exact .progress hphase hstop .linkUp
  | linking => exact .forward hphase hstop
  | dialing =>
    cases hwriter : Handshake.writer link.endpoint with
    | ok writer =>
      simp only [advance, goto, hwriter]
      exact .progress hphase hstop (.greet hwriter)
    | error cause =>
      simp only [advance, goto, hwriter]
      exact .fail hphase (.request hwriter)

theorem move_answer (result : Except Fault Unit) :
    Move link state (.answer result) (state.answer link result).1
      (state.answer link result).2 := by
  cases hphase : state.phase with
  | establishing stage =>
    simp only [answer, hphase]
    cases hstop : state.stopped with
    | true => exact move_close hphase rfl hstop rfl
    | false =>
      cases hcall : stage.isCall with
      | false => exact .stay (by simp [heeds, hphase, hstop, hcall])
      | true =>
        cases result with
        | ok _ => exact move_advance hphase hstop hcall
        | error cause => exact move_fail hphase (.call hcall cause)
  | _ =>
    simp only [answer, hphase]
    exact .stay (by simp [heeds, hphase])

theorem releases_greeting (writer : StreamWriter) :
    (Phase.establishing (.greeting writer)).releases = [.released .stream, .released .device] :=
  rfl

theorem move_greet (answer : StreamAnswer) :
    Move link state (.greeting answer) (state.greet link answer).1
      (state.greet link answer).2 := by
  unfold greet
  split
  · rename_i writer hphase
    cases hstop : state.stopped with
    | true => exact move_close hphase rfl hstop rfl
    | false =>
      simp only [Bool.false_eq_true, if_false]
      split
      · rename_i taken next hstep
        exact .progress hphase hstop (.write hstep)
      · rename_i taken hstep
        exact .progress hphase hstop (.configure hstep)
      · rename_i taken failure hstep
        have hmove := @Move.fail link _ _ _ _ _ hphase (.greeting hstep)
        simpa only [fail, hphase, releases_greeting, List.cons_append, List.nil_append] using hmove
  · rename_i hphase
    exact .stay (by simp only [heeds])

/-- Every stimulus has its move. -/
theorem step_move (stimulus : Stimulus) :
    Move link state stimulus (state.step link stimulus).1 (state.step link stimulus).2 := by
  cases stimulus with
  | stop => exact .stop
  | elapse ms => exact .elapse ms
  | wake stopFirst => exact move_wake stopFirst
  | answer result => exact move_answer result
  | greeting answer => exact move_greet answer
  | uplink input =>
    cases hphase : state.phase with
    | forwarding session =>
      simp only [step, moveLoop, goto, hphase]
      exact .uplink hphase input
    | _ =>
      simp only [step, moveLoop, hphase]
      exact .stay (by simp [heeds, hphase])
  | downlink input =>
    cases hphase : state.phase with
    | forwarding session =>
      simp only [step, moveLoop, goto, hphase]
      exact .downlink hphase input
    | _ =>
      simp only [step, moveLoop, hphase]
      exact .stay (by simp [heeds, hphase])

/-- What every move preserves, of a state and the events up to it, a run preserves. -/
theorem run_preserves {Holds : State → List Event → Prop}
    (hmove : ∀ state events stimulus next more, Holds state events →
      Move link state stimulus next more → Holds next (events ++ more))
    (stimuli : List Stimulus) (state : State) (events : List Event) (h : Holds state events) :
    Holds (state.run link stimuli).1 (events ++ (state.run link stimuli).2) := by
  induction stimuli generalizing state events with
  | nil => simpa [run] using h
  | cons stimulus stimuli ih =>
    have hstep := hmove state events stimulus _ _ h (state.step_move stimulus)
    have hrest := ih _ _ hstep
    rw [List.append_assoc] at hrest
    exact hrest

end State

end AttestedUplink.Tunnel
