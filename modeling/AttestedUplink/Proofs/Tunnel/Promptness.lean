import AttestedUplink.Proofs.Tunnel.Ownership

/-!
# Prompt stops

Once a stop is asked for, whatever reaches the supervisor next closes it, except that an error of
the loops may come first. `Halting` lists what a stimulus can still bring about then; from it follow
what is not done any more and how few looks around it takes until the supervisor returns.
-/

namespace AttestedUplink.Tunnel

def Stimulus.isWake : Stimulus → Bool
  | .wake _ => true
  | _ => false

/-- The calls to the network stack and the dialer. -/
def calls (events : List Event) : List Call :=
  events.filterMap fun
    | .called call => some call
    | _ => none

/-- What may still be published, after a state, once a stop is asked for. -/
def Status.endings : Status → List (List Status)
  | .idle | .establishing | .failed => [[], [.closing]]
  | .forwarding => [[], [.closing], [.failed], [.failed, .closing]]
  | .closing => [[]]

/-- How many looks around it takes at most until the supervisor has returned, once a stop is asked
for. -/
def Phase.distance : Phase → Nat
  | .forwarding _ => 3
  | .idle | .establishing _ | .failed _ => 2
  | .closing => 1
  | .finished _ => 0

variable {link : LinkSettings} {state next : State} {stimulus : Stimulus} {events : List Event}

/-! ### One stimulus -/

/-- What a stimulus can bring about once a stop is asked for. -/
inductive Halting (link : LinkSettings) (state : State) : Stimulus → State → List Event → Prop
  | stop : Halting link state .stop state []
  | elapse (ms : Nat) : Halting link state (.elapse ms) { state with now := state.now + ms } []
  | stay {stimulus : Stimulus} (h : state.heeds stimulus = false) :
    Halting link state stimulus state []
  | close {stimulus : Stimulus} (hopen : state.phase.isOpen = true)
    (houter : stimulus.isOuter = true) :
    Halting link state stimulus { state with phase := .closing }
      (state.phase.releases ++ [.entered .closing])
  | fail {session : Session} {cause : Fault} (hphase : state.phase = .forwarding session)
    (herror : session.error? = some cause) :
    Halting link state (.wake false)
      { state with phase := .failed (state.now + link.backoffMs.toNat) }
      (state.phase.releases ++ [.entered .failed, .warned cause link.backoffMs])
  | uplink {session : Session} (hphase : state.phase = .forwarding session) (input : UplinkInput) :
    Halting link state (.uplink input)
      { state with phase := .forwarding (session.moveUplink link.codec input).1 }
      (session.moveUplink link.codec input).2
  | downlink {session : Session} (hphase : state.phase = .forwarding session)
    (input : DownlinkInput) :
    Halting link state (.downlink input)
      { state with phase := .forwarding (session.moveDownlink link.codec input).1 }
      (session.moveDownlink link.codec input).2
  | finish (hphase : state.phase = .closing) (stopFirst : Bool) :
    Halting link state (.wake stopFirst) { state with phase := .finished (.ok ()) }
      [.finished (.ok ())]

namespace State

theorem halting_wake (hstop : state.stopped = true) (stopFirst : Bool) :
    Halting link state (.wake stopFirst) (state.wake link stopFirst).1
      (state.wake link stopFirst).2 := by
  have hclose (hopen : state.phase.isOpen = true) :
      Halting link state (.wake stopFirst) state.close.1 state.close.2 := .close hopen rfl
  cases hphase : state.phase with
  | idle | establishing | failed =>
    simpa [wake, hphase, hstop] using hclose (by rw [hphase]; rfl)
  | forwarding session =>
    cases herror : session.error? with
    | none => simpa [wake, hphase, hstop, herror] using hclose (by rw [hphase]; rfl)
    | some cause =>
      cases stopFirst with
      | true => simpa [wake, hphase, hstop, herror] using hclose (by rw [hphase]; rfl)
      | false =>
        have hfail : Halting link state (.wake false) (state.fail link cause).1
            (state.fail link cause).2 := .fail hphase herror
        simpa [wake, hphase, hstop, herror] using hfail
  | closing => simpa [wake, goto, hphase] using Halting.finish hphase stopFirst
  | finished => simpa [wake, hphase] using Halting.stay (by simp [heeds, hphase])

theorem halting_answer (hstop : state.stopped = true) (result : Except Fault Unit) :
    Halting link state (.answer result) (state.answer link result).1
      (state.answer link result).2 := by
  cases hphase : state.phase with
  | establishing stage =>
    simp only [answer, hphase, hstop, if_true]
    exact .close (by rw [hphase]; rfl) rfl
  | _ =>
    simp only [answer, hphase]
    exact .stay (by simp [heeds, hphase])

theorem halting_greet (hstop : state.stopped = true) (answer : StreamAnswer) :
    Halting link state (.greeting answer) (state.greet link answer).1
      (state.greet link answer).2 := by
  unfold greet
  split
  · rename_i writer hphase
    rw [if_pos hstop]
    exact .close (by rw [hphase]; rfl) rfl
  · exact .stay (by simp only [heeds])

theorem halting_step (hstop : state.stopped = true) (stimulus : Stimulus) :
    Halting link state stimulus (state.step link stimulus).1 (state.step link stimulus).2 := by
  cases stimulus with
  | stop =>
    have hsame : { state with stopped := true } = state := by rw [← hstop]
    simp only [step, hsame]
    exact .stop
  | elapse ms => exact .elapse ms
  | wake stopFirst => exact halting_wake hstop stopFirst
  | answer result => exact halting_answer hstop result
  | greeting answer => exact halting_greet hstop answer
  | uplink input =>
    cases hphase : state.phase with
    | forwarding session =>
      simp only [step, moveLoop, goto, hphase]
      exact .uplink hphase input
    | _ =>
      simp only [step, moveLoop, hphase]
      exact .stay (by simp [heeds, hphase])
  | downlink input =>
    cases hphase : state.phase with
    | forwarding session =>
      simp only [step, moveLoop, goto, hphase]
      exact .downlink hphase input
    | _ =>
      simp only [step, moveLoop, hphase]
      exact .stay (by simp [heeds, hphase])

end State

theorem calls_append (events more : List Event) :
    calls (events ++ more) = calls events ++ calls more :=
  List.filterMap_append

theorem Halting.calls_eq_nil (h : Halting link state stimulus next events) : calls events = [] := by
  have hreleases : calls state.phase.releases = [] := filterMap_map_eq_nil (fun _ ↦ rfl) _
  cases h with
  | stop | elapse | stay | finish => rfl
  | close | fail =>
    rw [calls_append, hreleases]
    rfl
  | uplink | downlink => exact filterMap_map_eq_nil (fun _ ↦ rfl) _

theorem Halting.endings (h : Halting link state stimulus next events) {later : List Status}
    (hlater : later ∈ next.phase.status.endings) :
    statuses events ++ later ∈ state.phase.status.endings := by
  cases h with
  | stop | elapse | stay => exact hlater
  | close hopen =>
    obtain rfl : later = [] := List.mem_singleton.1 hlater
    rw [statuses_append, statuses_releases]
    cases hphase : state.phase with
    | closing | finished =>
      rw [hphase] at hopen
      cases hopen
    | _ => simp [statuses, Phase.status, Status.endings]
  | fail hphase =>
    rw [statuses_append, statuses_releases, hphase]
    rcases List.mem_pair.1 hlater with rfl | rfl <;>
      simp [statuses, Phase.status, Status.endings]
  | uplink hphase =>
    rw [hphase, Session.moveUplink, statuses, filterMap_map_eq_nil fun _ ↦ rfl]
    exact hlater
  | downlink hphase =>
    rw [hphase, Session.moveDownlink, statuses, filterMap_map_eq_nil fun _ ↦ rfl]
    exact hlater
  | finish hphase =>
    rw [hphase]
    exact hlater

theorem Phase.two_le_distance {phase : Phase} (hopen : phase.isOpen = true) :
    2 ≤ phase.distance := by
  cases phase with
  | closing | finished => cases hopen
  | _ => simp [distance]

/-- Once it is to stop, the supervisor heeds every look around until it has returned. -/
theorem State.distance_of_unheeded (hstop : state.stopped = true) {stopFirst : Bool}
    (h : state.heeds (.wake stopFirst) = false) : state.phase.distance = 0 := by
  cases hphase : state.phase with
  | finished => rfl
  | _ => simp [heeds, hphase, hstop] at h

/-- Every look around brings the return nearer, and nothing puts it off. -/
theorem Halting.distance_le (h : Halting link state stimulus next events)
    (hstop : state.stopped = true) :
    next.phase.distance ≤ state.phase.distance - if stimulus.isWake then 1 else 0 := by
  cases h with
  | stop | elapse => exact Nat.le_refl _
  | stay h =>
    cases stimulus with
    | wake => simp [State.distance_of_unheeded hstop h]
    | _ => exact Nat.le_refl _
  | close hopen =>
    have hdistance := Phase.two_le_distance hopen
    have hclosing : Phase.closing.distance = 1 := rfl
    rw [hclosing]
    split <;> omega
  | fail hphase =>
    rw [hphase]
    exact Nat.le_refl _
  | uplink hphase | downlink hphase =>
    rw [hphase]
    exact Nat.le_refl _
  | finish hphase => exact Nat.zero_le _

/-- Only an error that is there when the supervisor looks around makes an attempt fail. -/
theorem Halting.failed (h : Halting link state stimulus next events)
    (hfailed : .failed ∈ statuses events) :
    stimulus = .wake false ∧
      ∃ session cause, state.phase = .forwarding session ∧ session.error? = some cause := by
  cases h with
  | fail hphase herror => exact ⟨rfl, _, _, hphase, herror⟩
  | stop | elapse | stay | finish => cases hfailed
  | close =>
    rw [statuses_append, statuses_releases] at hfailed
    cases List.mem_singleton.1 hfailed
  | uplink | downlink =>
    exact absurd hfailed (by simp [Session.moveUplink, Session.moveDownlink, statuses])

/-- Where frames are not forwarded, the next thing that reaches the supervisor closes it. -/
theorem Halting.closes (h : Halting link state stimulus next events)
    (hopen : state.phase.isOpen = true) (hstatus : state.phase.status ≠ .forwarding)
    (houter : stimulus.isOuter = true) (hheeds : state.heeds stimulus = true) :
    next = { state with phase := .closing } ∧
      events = state.phase.releases ++ [.entered .closing] := by
  cases h with
  | close => exact ⟨rfl, rfl⟩
  | stop | elapse | uplink | downlink => cases houter
  | stay h => simp [h] at hheeds
  | fail hphase =>
    rw [hphase] at hstatus
    exact absurd rfl hstatus
  | finish hphase =>
    rw [hphase] at hopen
    cases hopen

/-! ### The rest of a run -/

theorem Status.nil_mem_endings (status : Status) : [] ∈ status.endings := by
  cases status <;> exact List.mem_cons_self

theorem Status.forwarding_not_mem {status : Status} {ending : List Status}
    (h : ending ∈ status.endings) : .forwarding ∉ ending := by
  cases status <;> revert ending <;> decide

/-- What is left of a run once a stop is asked for. The rest being arbitrary, all of this holds at
every moment of it. -/
structure Winddown (link : LinkSettings) (state : State) (rest : List Stimulus) : Prop where
  calls : calls (state.run link rest).2 = []
  /-- No loop starts any more. -/
  loops : (state.run link rest).1.phase.loops.Sublist state.phase.loops
  endings : statuses (state.run link rest).2 ∈ state.phase.status.endings
  /-- Failure comes only of an error that is there in the same moment. -/
  failed : .failed ∈ statuses (state.run link rest).2 → ∃ before later session cause,
    rest = before ++ .wake false :: later ∧
      (state.run link before).1.phase = .forwarding session ∧ session.error? = some cause
  distance : (state.run link rest).1.phase.distance ≤
    state.phase.distance - rest.countP Stimulus.isWake

theorem Winddown.nil (link : LinkSettings) (state : State) : Winddown link state [] where
  calls := rfl
  loops := .refl _
  endings := state.phase.status.nil_mem_endings
  failed := nofun
  distance := Nat.le_refl _

theorem Winddown.cons {rest : List Stimulus} (hstop : state.stopped = true)
    (h : Winddown link (state.step link stimulus).1 rest) :
    Winddown link state (stimulus :: rest) := by
  have hstep := @State.halting_step link state hstop stimulus
  have hpublished := hstep.endings (Status.nil_mem_endings _)
  rw [List.append_nil] at hpublished
  exact
    { calls := by
        simp only [State.run, calls_append, hstep.calls_eq_nil, h.calls, List.append_nil]
      loops := by
        rcases (@State.step_move link state stimulus).loops with ⟨hforwarding, -⟩ | ⟨-, hloops⟩
        · exact absurd hforwarding (Status.forwarding_not_mem hpublished)
        · exact h.loops.trans hloops
      endings := by
        simp only [State.run, statuses_append]
        exact hstep.endings h.endings
      failed := by
        intro hfailed
        simp only [State.run, statuses_append, List.mem_append] at hfailed
        rcases hfailed with hnow | hlater
        · obtain ⟨rfl, session, cause, hphase, herror⟩ := hstep.failed hnow
          exact ⟨[], rest, session, cause, rfl, hphase, herror⟩
        · obtain ⟨before, later, session, cause, rfl, hphase, herror⟩ := h.failed hlater
          exact ⟨stimulus :: before, later, session, cause, rfl, hphase, herror⟩
      distance := by
        have hnearer := hstep.distance_le hstop
        have hrest := h.distance
        simp only [State.run, List.countP_cons]
        omega }

theorem State.winddown (hstop : state.stopped = true) (rest : List Stimulus) :
    Winddown link state rest := by
  induction rest generalizing state with
  | nil => exact .nil link state
  | cons stimulus rest ih =>
    have hnext : (state.step link stimulus).1.stopped = true :=
      (State.step_move stimulus).stopped_of.2 (.inl hstop)
    exact .cons hstop (ih hnext)

/-- How a life ends in which a stop is asked for before it begins or at any moment of it. -/
structure Prompt (link : LinkSettings) (stopped : Bool) (stimuli rest : List Stimulus) : Prop
    extends Winddown link (run link stopped stimuli).1 rest where
  /-- A call that returns and a wait that is over come too late in the moment of the stop. -/
  at_once : ∀ stimulus, stimulus.isOuter = true →
    (run link stopped stimuli).1.heeds stimulus = true →
    (run link stopped stimuli).1.phase.isOpen = true →
    (run link stopped stimuli).1.phase.status ≠ .forwarding →
      (run link stopped stimuli).1.step link stimulus =
        ({ (run link stopped stimuli).1 with phase := .closing },
          (run link stopped stimuli).1.phase.releases ++ [.entered .closing])
  from_start : stopped = true →
    Tunnel.calls (run link stopped (stimuli ++ rest)).2 = [] ∧
      statuses (run link stopped (stimuli ++ rest)).2 ∈ [[.idle], [.idle, .closing]]
  returns : (run link stopped stimuli).1.phase.distance ≤ rest.countP Stimulus.isWake →
    results (run link stopped (stimuli ++ rest)).2 = [.ok ()] ∧
      (statuses (run link stopped (stimuli ++ rest)).2).getLast? = some .closing ∧
      (run link stopped (stimuli ++ rest)).1.phase = .finished (.ok ())

theorem Phase.eq_finished_of_distance {phase : Phase} (h : phase.distance = 0) :
    ∃ result, phase = .finished result := by
  cases phase with
  | finished result => exact ⟨result, rfl⟩
  | _ => cases h

/-- Wherever the request to stop finds the supervisor, it asks for nothing more, starts no loop,
and returns without an error after at most three looks around. -/
theorem run_prompt {stopped : Bool} {stimuli : List Stimulus} (hvalid : link.validate = .ok ())
    (hstop : stopped = true ∨ .stop ∈ stimuli) (rest : List Stimulus) :
    Prompt link stopped stimuli rest := by
  have hstopped := (stopped_run link stopped stimuli).2 hstop
  have hrest := @State.winddown link _ hstopped rest
  refine { hrest with at_once := ?_, from_start := ?_, returns := ?_ }
  · intro stimulus houter hheeds hopen hstatus
    obtain ⟨hnext, hevents⟩ :=
      (State.halting_step hstopped stimulus).closes hopen hstatus houter hheeds
    exact Prod.ext hnext hevents
  · rintro rfl
    have hlife := @State.winddown link { phase := .idle, stopped := true } rfl (stimuli ++ rest)
    simp only [run, State.start_of_valid hvalid, calls_append, statuses_append, hlife.calls]
    refine ⟨rfl, ?_⟩
    rcases List.mem_pair.1 hlife.endings with hnone | hclosing
    · rw [hnone]
      exact List.mem_cons_self
    · rw [hclosing]
      exact List.mem_cons_of_mem _ List.mem_cons_self
  · intro hwakes
    have horderly := orderly_run hvalid stopped (stimuli ++ rest)
    have hdistance := hrest.distance
    rw [Nat.sub_eq_zero_of_le hwakes, Nat.le_zero] at hdistance
    obtain ⟨result, hresult⟩ := Phase.eq_finished_of_distance hdistance
    have hphase : (run link stopped (stimuli ++ rest)).1.phase = .finished result := by
      rw [run_append, hresult]
    rcases horderly.returned with ⟨-, hnever⟩ | ⟨hok, hfinished⟩
    · exact absurd hphase (hnever result)
    · refine ⟨hok, ?_, hfinished⟩
      rw [horderly.last, hfinished]
      rfl

/-- The host hangs up in the moment in which the stop is asked for. -/
def hungUp : List Stimulus :=
  [.wake true, .wake true, .answer (.ok ()), .answer (.ok ()), .greeting (.took 1000),
    .greeting .flushed, .answer (.ok ()), .answer (.ok ()), .downlink (.octets []), .stop]

/-- The supervisor sees the error first, and then the request to stop. -/
def failureFirst : List Stimulus := [.wake false, .wake false, .wake false]

theorem run_prompt_hungUp :
    ({} : LinkSettings).validate = .ok () ∧ .stop ∈ hungUp ∧
      calls ((run {} false hungUp).1.run {} failureFirst).2 = [] ∧
      statuses ((run {} false hungUp).1.run {} failureFirst).2 = [.failed, .closing] ∧
      results (run {} false (hungUp ++ failureFirst)).2 = [.ok ()] := by
  have hvalid : ({} : LinkSettings).validate = .ok () := by rfl
  have hstop : .stop ∈ hungUp := by simp [hungUp]
  have hdistance : (run {} false hungUp).1.phase.distance = 3 := by decide +kernel
  have hprompt := run_prompt hvalid (.inr hstop : false = true ∨ _) failureFirst
  refine ⟨hvalid, hstop, hprompt.calls, by decide +kernel, (hprompt.returns ?_).1⟩
  rw [hdistance]
  decide

end AttestedUplink.Tunnel
