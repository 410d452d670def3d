import AttestedUplink.Tunnel.Supervisor

namespace AttestedUplink

/-!
# Rehearsals of the tunnel

A rehearsal runs the supervisor against parts that follow a script: calls that end as planned,
streams with octets to read and limits to what they take, devices with frames in a queue, and a
clock that stands still until it is moved. After each step of the script everything runs until
nothing moves any more; of the two loops the uplink runs first, as far as it can.
-/

namespace Rehearsal

structure Stream where
  incoming : Bytes := []
  ended : Bool := false
  readError : Option String := none
  readChunk : Option Nat := none
  writeChunk : Option Nat := none
  /-- The octets taken so far, and how many are taken before writes fail. -/
  taken : Nat := 0
  writeLimit : Option Nat := none
  /-- The words of a failing write; without any it takes nothing. -/
  writeError : Option String := none
  flushError : Option String := none
  stalled : Bool := false

structure Device where
  queue : List (Except String Bytes) := []
  writeError : Option String := none

inductive Ending
  | succeeds
  | fails (cause : Fault)
  | hangs

structure Plan where
  create : Ending := .succeeds
  dial : Ending := .succeeds
  configure : Ending := .succeeds
  linkUp : Ending := .succeeds
  stream : Stream := {}
  frames : List Bytes := []

def Plan.unplanned : Plan := { create := .hangs }

/-- The parts: the plan of the attempt that runs or comes next, the plans after it, and the device
and the stream of the attempt, which count only while it owns them. -/
structure Parts where
  plan : Plan
  later : List Plan
  device : Device := {}
  stream : Stream := {}

structure State where
  supervisor : Tunnel.State
  parts : Parts

/-! ### How parts answer -/

/-- How many of the octets that it is offered a stream takes when it takes any, with room for
`room` more. -/
def Stream.portion (stream : Stream) (offered : Bytes) (room : Option Nat) : Nat :=
  let chunk :=
    match stream.writeChunk with
    | some most => offered.take most
    | none => offered
  match room with
  | some room => (chunk.take room).length
  | none => chunk.length

/-- What a stream answers to a write; nothing if it waits. -/
def Stream.write (stream : Stream) (offered : Bytes) : Option (StreamAnswer × Stream) :=
  if stream.stalled then none
  else
    let room := stream.writeLimit.map (· - stream.taken)
    if room = some 0 then
      match stream.writeError with
      | some text => some (.writeFailed text, stream)
      | none => some (.took 0, stream)
    else
      let count := stream.portion offered room
      some (.took count, { stream with taken := stream.taken + count })

def Stream.flush (stream : Stream) : StreamAnswer :=
  match stream.flushError with
  | some text => .flushFailed text
  | none => .flushed

def Stream.serve (stream : Stream) : StreamWriter → Option (StreamAnswer × Stream)
  | .sending pending => stream.write pending
  | .flushing => some (stream.flush, stream)

def Stream.read (stream : Stream) : Option (DownlinkInput × Stream) :=
  if stream.incoming.isEmpty then
    match stream.readError with
    | some text => some (.readFailed text, { stream with readError := none })
    | none => if stream.ended then some (.octets [], stream) else none
  else
    let count := stream.readChunk.getD stream.incoming.length
    some (.octets (stream.incoming.take count),
      { stream with incoming := stream.incoming.drop count })

def Device.read (device : Device) : Option (UplinkInput × Device) :=
  match device.queue with
  | [] => none
  | .ok frame :: queue => some (.frame frame, { device with queue })
  | .error text :: queue => some (.frameFailed text, { device with queue })

def Device.write (device : Device) : DownlinkInput :=
  match device.writeError with
  | some text => .deliveryFailed text
  | none => .delivered

def Ending.stimulus? : Ending → Option Tunnel.Stimulus
  | .succeeds => some (.answer (.ok ()))
  | .fails cause => some (.answer (.error cause))
  | .hangs => none

/-! ### What happens next -/

def nextUplink (parts : Parts) : Uplink → Option (Tunnel.Stimulus × Parts)
  | .reading _ =>
    parts.device.read.map fun (input, device) => (.uplink input, { parts with device })
  | .writing _ writer =>
    (parts.stream.serve writer).map fun (answer, stream) =>
      (.uplink (.stream answer), { parts with stream })
  | .ended => none

def nextDownlink (parts : Parts) : Downlink → Option (Tunnel.Stimulus × Parts)
  | .reading _ =>
    parts.stream.read.map fun (input, stream) => (.downlink input, { parts with stream })
  | .delivering .. => some (.downlink parts.device.write, parts)
  | .ended => none

def nextStage (parts : Parts) : Tunnel.Stage → Option (Tunnel.Stimulus × Parts)
  | .begin => some (.wake true, parts)
  | .creating =>
    let queue := parts.plan.frames.map .ok
    parts.plan.create.stimulus?.map (·, { parts with device := { queue } })
  | .dialing =>
    parts.plan.dial.stimulus?.map (·, { parts with stream := parts.plan.stream })
  | .greeting writer =>
    (parts.stream.serve writer).map fun (answer, stream) =>
      (.greeting answer, { parts with stream })
  | .configuring => parts.plan.configure.stimulus?.map (·, parts)
  | .linking => parts.plan.linkUp.stimulus?.map (·, parts)

def Parts.nextAttempt (parts : Parts) : Parts :=
  match parts.later with
  | [] => { parts with plan := .unplanned }
  | plan :: later => { parts with plan, later }

def next? (state : State) : Option (Tunnel.Stimulus × Parts) :=
  let parts := state.parts
  match state.supervisor.phase with
  | .idle | .closing => some (.wake true, parts)
  | .establishing stage =>
    if state.supervisor.stopped then some (.wake true, parts) else nextStage parts stage
  | .forwarding session =>
    (nextUplink parts session.uplink).or <|
      (nextDownlink parts session.downlink).or <|
        if session.error?.isSome ∨ state.supervisor.stopped then some (.wake true, parts) else none
  | .failed deadline =>
    if state.supervisor.stopped then some (.wake true, parts)
    else if deadline ≤ state.supervisor.now then some (.wake true, parts.nextAttempt)
    else none
  | .finished _ => none

/-- Lets everything run for at most so many moves; the events are in reverse order. -/
def settleFrom (link : LinkSettings) :
    (moves : Nat) → State → List Tunnel.Event → State × List Tunnel.Event
  | 0, state, events => (state, events)
  | moves + 1, state, events =>
    match next? state with
    | none => (state, events)
    | some (stimulus, parts) =>
      let (supervisor, more) := state.supervisor.step link stimulus
      settleFrom link moves { supervisor, parts } (more.reverse ++ events)

def Stream.moves (stream : Stream) : Nat := 2 * stream.incoming.length + 8

def framesMoves (frames : List Bytes) : Nat :=
  (frames.map fun frame => frame.length + 8).foldl (· + ·) 0

def Plan.moves (greeting : Nat) (plan : Plan) : Nat :=
  16 + greeting + plan.stream.moves + framesMoves plan.frames

def pendingMoves : Tunnel.Phase → Nat
  | .establishing (.greeting (.sending pending)) => pending.length
  | .forwarding session =>
    (match session.uplink with
      | .writing _ (.sending pending) => pending.length
      | _ => 0) +
    (match session.downlink with
      | .reading buffer => buffer.length
      | .delivering _ buffer _ => buffer.length
      | .ended => 0)
  | _ => 0

def State.moves (link : LinkSettings) (state : State) : Nat :=
  let greeting :=
    match Handshake.head link.endpoint with
    | .ok head => head.length
    | .error _ => 0
  let parts := state.parts
  let queued := parts.device.queue.map fun
    | .ok frame => frame.length + 8
    | .error _ => 8
  64 + pendingMoves state.supervisor.phase + queued.foldl (· + ·) 0 + parts.stream.moves +
    ((parts.plan :: parts.later).map (Plan.moves greeting)).foldl (· + ·) 0

def settle (link : LinkSettings) (state : State) : State × List Tunnel.Event :=
  let (state, events) := settleFrom link (state.moves link) state []
  (state, events.reverse)

/-! ### The script -/

inductive Step
  | stop
  | advance (ms : Nat)
  | inject (frames : List Bytes)
  | deviceReadError (text : String)
  | deviceWriteError (text : String)
  | host (octets : Bytes)
  | hostClose
  | hostError (text : String)
  | writeError (text : String)
  | writeZero
  | flushError (text : String)
  | stall (stalled : Bool)

def Step.onDevice? (device : Device) : Step → Option Device
  | .inject frames => some { device with queue := device.queue ++ frames.map .ok }
  | .deviceReadError text => some { device with queue := device.queue ++ [.error text] }
  | .deviceWriteError text => some { device with writeError := some text }
  | _ => none

def Step.onStream? (stream : Stream) : Step → Option Stream
  | .host octets => some { stream with incoming := stream.incoming ++ octets }
  | .hostClose => some { stream with ended := true }
  | .hostError text => some { stream with readError := some text }
  | .writeError text => some { stream with writeLimit := some 0, writeError := some text }
  | .writeZero => some { stream with writeLimit := some 0, writeError := none }
  | .flushError text => some { stream with flushError := some text }
  | .stall stalled => some { stream with stalled }
  | _ => none

/-- What a step changes before everything runs. A step on a part that the attempt does not own
changes nothing. -/
def Step.apply? (link : LinkSettings) (state : State) (step : Step) : Option State :=
  match step with
  | .stop => some { state with supervisor := (state.supervisor.step link .stop).1 }
  | .advance ms => some { state with supervisor := (state.supervisor.step link (.elapse ms)).1 }
  | _ =>
    let phase := state.supervisor.phase
    match step.onDevice? state.parts.device, step.onStream? state.parts.stream with
    | some device, _ =>
      if phase.holds .device then some { state with parts := { state.parts with device } } else none
    | none, some stream =>
      if phase.holds .stream then some { state with parts := { state.parts with stream } } else none
    | none, none => none

structure Report where
  events : List Tunnel.Event
  ignored : Bool := false

def take (link : LinkSettings) (state : State) (step : Step) : State × Report :=
  match step.apply? link state with
  | some state =>
    let (state, events) := settle link state
    (state, { events })
  | none =>
    let (state, events) := settle link state
    (state, { events, ignored := true })

def takeAll (link : LinkSettings) (state : State) : List Step → State × List Report
  | [] => (state, [])
  | step :: steps =>
    let (state, report) := take link state step
    let (state, reports) := takeAll link state steps
    (state, report :: reports)

def perform (link : LinkSettings) (plans : List Plan) (stopped : Bool) (steps : List Step) :
    List Report × Bool :=
  let (supervisor, first) := Tunnel.State.start link stopped
  let parts : Parts := ({ plan := .unplanned, later := plans } : Parts).nextAttempt
  let (state, events) := settle link { supervisor, parts }
  let (state, reports) := takeAll link state steps
  let running :=
    match state.supervisor.phase with
    | .finished _ => false
    | _ => true
  ({ events := first ++ events } :: reports, running)

/-! ### What reports show -/

/-- The octets of portions, given the latest first, unless there are none. -/
def joined (portions : List Bytes) : List Bytes :=
  match portions.reverse.flatten with
  | [] => []
  | octets => [octets]

/-- The octets that each stream took, for the streams that took any, in the order in which they were
opened; `current` holds the portions that the last one took so far, the latest first. -/
def wireFrom (current : List Bytes) : List Tunnel.Event → List Bytes
  | [] => joined current
  | .sent octets :: events => wireFrom (octets :: current) events
  | .acquired .stream :: events => joined current ++ wireFrom [] events
  | _ :: events => wireFrom current events

def Report.wire (report : Report) : List Bytes := wireFrom [] report.events

def Report.delivered (report : Report) : List Bytes :=
  report.events.filterMap fun
    | .delivered frame => some frame
    | _ => none

/-! ### The handshake alone -/

/-- Lets a stream answer to a writer for at most so many moves: the octets that it took, and how the
writing ended, if it did. -/
def writeFrom (stream : Stream) :
    (moves : Nat) → StreamWriter → (done : List Bytes) →
      Bytes × Option (Except StreamWriter.Failure Unit)
  | 0, _, done => (done.reverse.flatten, none)
  | moves + 1, writer, done =>
    match stream.serve writer with
    | none => (done.reverse.flatten, none)
    | some (answer, stream) =>
      match writer.step answer with
      | (taken, .writing writer) => writeFrom stream moves writer (taken :: done)
      | (taken, .done) => ((taken :: done).reverse.flatten, some (.ok ()))
      | (taken, .failed failure) => ((taken :: done).reverse.flatten, some (.error failure))

/-- Sends the handshake of an endpoint to a stream: the octets that it took, and the fault, if there
is one. -/
def handshake (endpoint : Endpoint) (stream : Stream) : Bytes × Option Fault :=
  match Handshake.head endpoint with
  | .error defect => ([], some defect.toFault)
  | .ok head =>
    match writeFrom stream (head.length + 2) (.start head) [] with
    | (taken, some (.error failure)) => (taken, some (Handshake.writeFault failure))
    | (taken, _) => (taken, none)

end Rehearsal

end AttestedUplink
