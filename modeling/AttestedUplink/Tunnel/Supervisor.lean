import AttestedUplink.Settings.Link
import AttestedUplink.Tunnel.Forwarding

namespace AttestedUplink

/-!
# The supervisor of the tunnel

The supervisor keeps one connection attempt alive at a time. An attempt creates the device, dials
the host, sends the handshake, configures the link and brings it up; then frames are forwarded until
something fails. After a failure comes a wait and a new attempt. Only a request to stop ends it.

The supervisor does nothing by itself: it is moved on by stimuli, which are the answers of the parts
it works with, the passing of time, and the request to stop. What it does meanwhile is a list of
events.
-/

namespace Tunnel

inductive Status
  | idle
  | establishing
  | forwarding
  | closing
  | failed
  deriving Repr, DecidableEq

inductive Resource
  | device
  | stream
  deriving Repr, DecidableEq

inductive Call
  | createDevice (name : String)
  | dial (endpoint : Endpoint)
  | configure
  | linkUp
  deriving Repr, DecidableEq

inductive Event
  | entered (status : Status)
  | called (call : Call)
  | acquired (resource : Resource)
  | released (resource : Resource)
  | sent (octets : Bytes)
  | delivered (frame : Bytes)
  | warned (cause : Fault) (backoffMs : UInt64)
  | finished (result : Except Fault Unit)

inductive Stimulus
  | stop
  | elapse (ms : Nat)
  /-- The supervisor looks around. When both an error and a request to stop are there while frames
  are forwarded, either may come first. -/
  | wake (stopFirst : Bool)
  | answer (result : Except Fault Unit)
  | greeting (answer : StreamAnswer)
  | uplink (input : UplinkInput)
  | downlink (input : DownlinkInput)

inductive Stage
  | begin
  | creating
  | dialing
  | greeting (writer : StreamWriter)
  | configuring
  | linking
  deriving Repr, DecidableEq

structure Session where
  uplink : Uplink
  downlink : Downlink
  slot : ErrorSlot
  deriving DecidableEq

inductive Phase
  | idle
  | establishing (stage : Stage)
  | forwarding (session : Session)
  /-- Waits until a time in milliseconds. -/
  | failed (deadline : Nat)
  | closing
  | finished (result : Except Fault Unit)

structure State where
  phase : Phase
  stopped : Bool := false
  now : Nat := 0

def Stage.holds : Stage → Resource → Bool
  | .begin, _ | .creating, _ => false
  | .dialing, .device => true
  | .dialing, .stream => false
  | .greeting _, _ | .configuring, _ | .linking, _ => true

def Stage.isCall : Stage → Bool
  | .creating | .dialing | .configuring | .linking => true
  | .begin | .greeting _ => false

def Phase.holds : Phase → Resource → Bool
  | .establishing stage, resource => stage.holds resource
  | .forwarding _, _ => true
  | _, _ => false

/-- What the attempt gives up at its end: the stream before the device. -/
def Phase.releases (phase : Phase) : List Event :=
  ([.stream, .device].filter phase.holds).map .released

/-- The fault of loops that ended without a report. -/
def silentEnd : Fault := ⟨.transport, "forwarding tasks exited without reporting"⟩

/-- A session at its start. The uplink has room for the longest frame of the device. -/
def Session.start (link : LinkSettings) : Session :=
  { uplink := .start link.maxFrameLen.toNat, downlink := .start, slot := {} }

def reportEnd (slot : ErrorSlot) : Option LoopEnd → ErrorSlot
  | some ending => (slot.report ending.toFault).2
  | none => slot

def Session.moveUplink (codec : Frame.Codec) (session : Session) (input : UplinkInput) :
    Session × List Event :=
  let moved := session.uplink.step codec input
  ({ session with uplink := moved.loop, slot := reportEnd session.slot moved.ending },
    moved.moved.map .sent)

def Session.moveDownlink (codec : Frame.Codec) (session : Session) (input : DownlinkInput) :
    Session × List Event :=
  let moved := session.downlink.step codec input
  ({ session with downlink := moved.loop, slot := reportEnd session.slot moved.ending },
    moved.moved.map .delivered)

/-- The error that the supervisor finds in a session. -/
def Session.error? (session : Session) : Option Fault :=
  match session.slot.pending with
  | some cause => some cause
  | none =>
    if session.uplink = .ended ∧ session.downlink = .ended then some silentEnd else none

namespace State

variable (link : LinkSettings)

def close (state : State) : State × List Event :=
  ({ state with phase := .closing }, state.phase.releases ++ [.entered .closing])

def fail (state : State) (cause : Fault) : State × List Event :=
  ({ state with phase := .failed (state.now + link.backoffMs.toNat) },
    state.phase.releases ++ [.entered .failed, .warned cause link.backoffMs])

def goto (state : State) (phase : Phase) (events : List Event) : State × List Event :=
  ({ state with phase }, events)

def advance (state : State) : Stage → State × List Event
  | .begin =>
    state.goto (.establishing .creating) [.called (.createDevice link.tapName)]
  | .creating =>
    state.goto (.establishing .dialing) [.acquired .device, .called (.dial link.endpoint)]
  | .dialing =>
    let (state, opened) :=
      state.goto (.establishing (.greeting .flushing)) [.acquired .stream]
    match Handshake.writer link.endpoint with
    | .ok writer => state.goto (.establishing (.greeting writer)) opened
    | .error cause =>
      let (state, events) := state.fail link cause
      (state, opened ++ events)
  | .greeting _ => state.goto (.establishing .configuring) [.called .configure]
  | .configuring => state.goto (.establishing .linking) [.called .linkUp]
  | .linking => state.goto (.forwarding (.start link)) [.entered .forwarding]

def wake (state : State) (stopFirst : Bool) : State × List Event :=
  match state.phase with
  | .idle =>
    if state.stopped then state.close
    else state.goto (.establishing .begin) [.entered .establishing]
  | .establishing stage =>
    if state.stopped then state.close
    else
      match stage with
      | .begin => state.advance link .begin
      | _ => (state, [])
  | .forwarding session =>
    match session.error? with
    | some cause => if state.stopped && stopFirst then state.close else state.fail link cause
    | none => if state.stopped then state.close else (state, [])
  | .failed deadline =>
    if state.stopped then state.close
    else if deadline ≤ state.now then state.goto .idle [.entered .idle]
    else (state, [])
  | .closing => state.goto (.finished (.ok ())) [.finished (.ok ())]
  | .finished _ => (state, [])

/-- Takes the end of the call that is waited for. A request to stop comes before it. -/
def answer (state : State) (result : Except Fault Unit) : State × List Event :=
  match state.phase with
  | .establishing stage =>
    if state.stopped then state.close
    else if stage.isCall then
      match result with
      | .ok () => state.advance link stage
      | .error cause => state.fail link cause
    else (state, [])
  | _ => (state, [])

def greet (state : State) (answer : StreamAnswer) : State × List Event :=
  match state.phase with
  | .establishing (.greeting writer) =>
    if state.stopped then state.close
    else
      match writer.step answer with
      | (taken, .writing writer) =>
        state.goto (.establishing (.greeting writer)) [.sent taken]
      | (taken, .done) =>
        let (state, events) := state.advance link (.greeting writer)
        (state, .sent taken :: events)
      | (taken, .failed failure) =>
        let (state, events) := state.fail link (Handshake.writeFault failure)
        (state, .sent taken :: events)
  | _ => (state, [])

def moveLoop (state : State) (move : Session → Session × List Event) : State × List Event :=
  match state.phase with
  | .forwarding session =>
    let (session, events) := move session
    state.goto (.forwarding session) events
  | _ => (state, [])

/-- Moves the supervisor on. A stimulus for which nothing waits changes nothing. -/
def step (state : State) : Stimulus → State × List Event
  | .stop => ({ state with stopped := true }, [])
  | .elapse ms => ({ state with now := state.now + ms }, [])
  | .wake stopFirst => state.wake link stopFirst
  | .answer result => state.answer link result
  | .greeting answer => state.greet link answer
  | .uplink input => state.moveLoop fun session => session.moveUplink link.codec input
  | .downlink input => state.moveLoop fun session => session.moveDownlink link.codec input

/-- The supervisor at its start. Settings that are not valid end it at once. -/
def start (stopped : Bool) : State × List Event :=
  match link.validate with
  | .ok () => ({ phase := .idle, stopped }, [.entered .idle])
  | .error cause =>
    ({ phase := .finished (.error cause), stopped }, [.finished (.error cause)])

def run (state : State) : List Stimulus → State × List Event
  | [] => (state, [])
  | stimulus :: stimuli =>
    let (state, events) := state.step link stimulus
    let (state, more) := state.run stimuli
    (state, events ++ more)

theorem run_cons (state : State) (stimulus : Stimulus) (stimuli : List Stimulus) :
    state.run link (stimulus :: stimuli) =
      (((state.step link stimulus).1.run link stimuli).1,
        (state.step link stimulus).2 ++ ((state.step link stimulus).1.run link stimuli).2) :=
  rfl

theorem run_append (state : State) (first second : List Stimulus) :
    state.run link (first ++ second) =
      (((state.run link first).1.run link second).1,
        (state.run link first).2 ++ ((state.run link first).1.run link second).2) := by
  induction first generalizing state with
  | nil => rfl
  | cons stimulus first ih => simp [run, ih]

end State

def run (link : LinkSettings) (stopped : Bool) (stimuli : List Stimulus) : State × List Event :=
  let (state, events) := State.start link stopped
  let (state, more) := state.run link stimuli
  (state, events ++ more)

end Tunnel

end AttestedUplink
