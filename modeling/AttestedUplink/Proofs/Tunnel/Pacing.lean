import AttestedUplink.Proofs.Handshake.Sendable

/-!
# The pace of attempts

The events of a run are put on a clock, each at the time of its moment. A failure is followed by one
wait, in which nothing is asked of anybody and which nothing but a request to stop cuts short. So no
step of an attempt is begun twice within one wait, whatever fails and whenever the supervisor looks.
How long an attempt may take is not said here; that is up to the parts.
-/

namespace AttestedUplink.Tunnel

/-! ### Events on a clock -/

/-- The events that some stimuli bring about, with their times in milliseconds. -/
def State.timeline (link : LinkSettings) (state : State) : List Stimulus → List (Nat × Event)
  | [] => []
  | stimulus :: stimuli =>
    let (next, events) := state.step link stimulus
    events.map (state.now, ·) ++ next.timeline link stimuli

def timeline (link : LinkSettings) (stopped : Bool) (stimuli : List Stimulus) :
    List (Nat × Event) :=
  let (state, events) := State.start link stopped
  events.map (state.now, ·) ++ state.timeline link stimuli

variable {link : LinkSettings} {state next : State} {stimulus : Stimulus} {events : List Event}

theorem State.map_snd_timeline (stimuli : List Stimulus) (state : State) :
    (state.timeline link stimuli).map Prod.snd = (state.run link stimuli).2 := by
  induction stimuli generalizing state with
  | nil => rfl
  | cons stimulus stimuli ih =>
    rw [timeline, run, List.map_append, List.map_map, ih]
    exact congrArg (· ++ _) (List.map_id _)

theorem map_snd_timeline (link : LinkSettings) (stopped : Bool) (stimuli : List Stimulus) :
    (timeline link stopped stimuli).map Prod.snd = (run link stopped stimuli).2 := by
  rw [timeline, run, List.map_append, List.map_map, State.map_snd_timeline]
  exact congrArg (· ++ _) (List.map_id _)

theorem State.timeline_append (first second : List Stimulus) (state : State) :
    state.timeline link (first ++ second) =
      state.timeline link first ++ (state.run link first).1.timeline link second := by
  induction first generalizing state with
  | nil => rfl
  | cons stimulus first ih => simp only [List.cons_append, timeline, run, ih, List.append_assoc]

theorem timeline_append (link : LinkSettings) (stopped : Bool) (stimuli more : List Stimulus) :
    timeline link stopped (stimuli ++ more) =
      timeline link stopped stimuli ++ (run link stopped stimuli).1.timeline link more := by
  simp only [timeline, run, State.timeline_append, List.append_assoc]

/-- What every move preserves, of a state and the timeline up to it, a run preserves. -/
theorem State.timeline_preserves {Holds : State → List (Nat × Event) → Prop}
    (hmove : ∀ state entries stimulus next more, Holds state entries →
      Move link state stimulus next more → Holds next (entries ++ more.map (state.now, ·)))
    (stimuli : List Stimulus) (state : State) (entries : List (Nat × Event))
    (h : Holds state entries) :
    Holds (state.run link stimuli).1 (entries ++ state.timeline link stimuli) := by
  induction stimuli generalizing state entries with
  | nil => simpa [run, timeline] using h
  | cons stimulus stimuli ih =>
    have hstep := hmove state entries stimulus _ _ h (state.step_move stimulus)
    have hrest := ih _ _ hstep
    rw [List.append_assoc] at hrest
    exact hrest

/-! ### Waits -/

/-- What may come next on a clock. After a failure comes the warning, in the same moment; then comes
the next attempt, when the wait is over, or the supervisor closes down. -/
def Follows (backoffMs : UInt64) (entry next : Nat × Event) : Prop :=
  entry.1 ≤ next.1 ∧
    match entry.2, next.2 with
    | .entered .failed, .warned _ announced => next.1 = entry.1 ∧ announced = backoffMs
    | .warned .., .entered .idle => entry.1 + backoffMs.toNat ≤ next.1
    | .warned .., .entered .closing => True
    | .entered .failed, _ | .warned .., _ | _, .warned .. | _, .entered .idle => False
    | _, _ => True

/-- Whether an event begins a wait or leaves it open. -/
def Event.isWaiting : Event → Bool
  | .entered .failed | .warned .. => true
  | _ => false

/-- Whether an event has nothing to do with waits. -/
def Event.isPlain : Event → Bool
  | .entered .failed | .warned .. | .entered .idle => false
  | _ => true

/-- The timeline of a supervisor that does not wait. -/
structure Busy (backoffMs : UInt64) (now : Nat) (entries : List (Nat × Event)) : Prop where
  chain : entries.IsChain (Follows backoffMs)
  last : ∃ moment event, entries.getLast? = some (moment, event) ∧ moment ≤ now ∧
    event.isWaiting = false

structure Waiting (backoffMs : UInt64) (now deadline : Nat) (entries : List (Nat × Event)) :
    Prop where
  chain : entries.IsChain (Follows backoffMs)
  last : ∃ moment cause, entries.getLast? = some (moment, .warned cause backoffMs) ∧
    moment ≤ now ∧ deadline = moment + backoffMs.toNat

/-- What a state says of the timeline up to it. -/
def Timely (link : LinkSettings) (state : State) (entries : List (Nat × Event)) : Prop :=
  match state.phase with
  | .failed deadline => Waiting link.backoffMs state.now deadline entries
  | _ => Busy link.backoffMs state.now entries

variable {backoffMs : UInt64} {now later deadline : Nat} {entries : List (Nat × Event)}
  {event : Event}

theorem isWaiting_of_isPlain (h : event.isPlain = true) : event.isWaiting = false := by
  unfold Event.isPlain at h
  unfold Event.isWaiting
  split <;> simp_all

theorem follows_of_isPlain {entry : Nat × Event} (hnow : entry.1 ≤ now)
    (hentry : entry.2.isWaiting = false) (hevent : event.isPlain = true) :
    Follows backoffMs entry (now, event) := by
  refine ⟨hnow, ?_⟩
  unfold Event.isWaiting at hentry
  unfold Event.isPlain at hevent
  split <;> simp_all

theorem isChain_concat {entry next : Nat × Event} (h : entries.IsChain (Follows backoffMs))
    (hlast : entries.getLast? = some entry) (hnext : Follows backoffMs entry next) :
    (entries ++ [next]).IsChain (Follows backoffMs) := by
  refine h.append (.singleton next) ?_
  rintro last hmem head hhead
  obtain rfl := Option.some.inj (hlast.symm.trans hmem)
  obtain rfl : next = head := Option.some.inj hhead
  exact hnext

theorem Busy.mono (h : Busy backoffMs now entries) (hlater : now ≤ later) :
    Busy backoffMs later entries := by
  obtain ⟨hchain, moment, event, hlast, hmoment, hevent⟩ := h
  exact ⟨hchain, moment, event, hlast, hmoment.trans hlater, hevent⟩

theorem Waiting.mono (h : Waiting backoffMs now deadline entries) (hlater : now ≤ later) :
    Waiting backoffMs later deadline entries := by
  obtain ⟨hchain, moment, cause, hlast, hmoment, hdeadline⟩ := h
  exact ⟨hchain, moment, cause, hlast, hmoment.trans hlater, hdeadline⟩

theorem Busy.concat (h : Busy backoffMs now entries) (hevent : event.isPlain = true) :
    Busy backoffMs now (entries ++ [(now, event)]) := by
  obtain ⟨hchain, moment, last, hlast, hmoment, hwaiting⟩ := h
  exact
    { chain := isChain_concat hchain hlast (follows_of_isPlain hmoment hwaiting hevent)
      last := ⟨now, event, List.getLast?_concat, Nat.le_refl now, isWaiting_of_isPlain hevent⟩ }

theorem Busy.append (h : Busy backoffMs now entries)
    (hevents : ∀ event ∈ events, event.isPlain = true) :
    Busy backoffMs now (entries ++ events.map (now, ·)) := by
  induction events generalizing entries with
  | nil => simpa using h
  | cons event events ih =>
    have hone := h.concat (hevents event List.mem_cons_self)
    have hrest := ih hone fun other hother ↦ hevents other (List.mem_cons_of_mem event hother)
    rwa [List.append_assoc] at hrest

theorem Busy.fail (h : Busy backoffMs now entries) (cause : Fault) :
    Waiting backoffMs now (now + backoffMs.toNat)
      (entries ++ [(now, .entered .failed), (now, .warned cause backoffMs)]) := by
  obtain ⟨hchain, moment, last, hlast, hmoment, hwaiting⟩ := h
  have hfailed : Follows backoffMs (moment, last) (now, .entered .failed) := by
    refine ⟨hmoment, ?_⟩
    unfold Event.isWaiting at hwaiting
    split <;> simp_all
  have hone := isChain_concat hchain hlast hfailed
  have hwarned : Follows backoffMs (now, .entered .failed) (now, .warned cause backoffMs) :=
    ⟨Nat.le_refl now, rfl, rfl⟩
  have htwo := isChain_concat hone List.getLast?_concat hwarned
  rw [List.append_assoc] at htwo
  exact
    { chain := htwo
      last := ⟨now, cause, by simp, Nat.le_refl now, rfl⟩ }

theorem Waiting.close (h : Waiting backoffMs now deadline entries) :
    Busy backoffMs now (entries ++ [(now, .entered .closing)]) := by
  obtain ⟨hchain, moment, cause, hlast, hmoment, -⟩ := h
  exact
    { chain := isChain_concat hchain hlast ⟨hmoment, trivial⟩
      last := ⟨now, .entered .closing, List.getLast?_concat, Nat.le_refl now, rfl⟩ }

theorem Waiting.retry (h : Waiting backoffMs now deadline entries) (hdeadline : deadline ≤ now) :
    Busy backoffMs now (entries ++ [(now, .entered .idle)]) := by
  obtain ⟨hchain, moment, cause, hlast, hmoment, rfl⟩ := h
  exact
    { chain := isChain_concat hchain hlast ⟨hmoment, hdeadline⟩
      last := ⟨now, .entered .idle, List.getLast?_concat, Nat.le_refl now, rfl⟩ }

theorem isPlain_of_mem_map {α : Type} {item : α → Event} (h : ∀ a, (item a).isPlain = true)
    (items : List α) : ∀ event ∈ items.map item, event.isPlain = true := by
  intro event hmem
  obtain ⟨a, -, rfl⟩ := List.mem_map.1 hmem
  exact h a

theorem isPlain_of_progress {stage stage' : Stage}
    (h : Progress link stage stimulus stage' events) : ∀ event ∈ events, event.isPlain = true := by
  cases h <;> simp [Event.isPlain]

theorem isPlain_of_failure {phase : Phase} {cause : Fault}
    (h : Failure link phase stimulus cause events) : ∀ event ∈ events, event.isPlain = true := by
  cases h with
  | call => exact isPlain_of_mem_map (fun _ ↦ rfl) _
  | request | greeting | loops => simp [Event.isPlain]

theorem Failure.ne_failed {phase : Phase} {cause : Fault}
    (h : Failure link phase stimulus cause events) : phase.status ≠ .failed := by
  cases h <;> simp [Phase.status]

theorem Timely.busy (h : Timely link state entries) (hstatus : state.phase.status ≠ .failed) :
    Busy link.backoffMs state.now entries := by
  unfold Timely at h
  split at h
  · rename_i hfailed
    rw [hfailed] at hstatus
    exact absurd rfl hstatus
  · exact h

theorem Timely.waiting (h : Timely link state entries) (hphase : state.phase = .failed deadline) :
    Waiting link.backoffMs state.now deadline entries := by
  simpa only [Timely, hphase] using h

theorem Timely.elapse (h : Timely link state entries) (ms : Nat) :
    Timely link { state with now := state.now + ms } entries := by
  unfold Timely at h ⊢
  split at h
  · rename_i hphase
    simpa only [hphase] using h.mono (Nat.le_add_right ..)
  · exact h.mono (Nat.le_add_right ..)

theorem Timely.close (h : Timely link state entries) :
    Busy link.backoffMs state.now
      (entries ++ (state.phase.releases ++ [Event.entered .closing]).map (state.now, ·)) := by
  cases hphase : state.phase with
  -- Nothing is held in a wait, so closing down is the next event.
  | failed deadline => exact (h.waiting hphase).close
  | _ =>
    have hbusy := h.busy (by simp [hphase, Phase.status])
    rw [List.map_append, ← List.append_assoc]
    exact (hbusy.append (isPlain_of_mem_map (fun _ ↦ rfl) _)).concat rfl

theorem Timely.move (h : Timely link state entries) (hmove : Move link state stimulus next events) :
    Timely link next (entries ++ events.map (state.now, ·)) := by
  cases hmove with
  | stop | stay =>
    rw [List.map_nil, List.append_nil]
    exact h
  | elapse ms =>
    rw [List.map_nil, List.append_nil]
    exact h.elapse ms
  | close => exact h.close
  | establish hphase | forward hphase | finish hphase =>
    have hbusy := h.busy (by simp [hphase, Phase.status])
    exact hbusy.concat rfl
  | progress hphase hstop hprogress =>
    have hbusy := h.busy (by simp [hphase, Phase.status])
    exact hbusy.append (isPlain_of_progress hprogress)
  | uplink hphase | downlink hphase =>
    have hbusy := h.busy (by simp [hphase, Phase.status])
    exact hbusy.append (isPlain_of_mem_map (fun _ ↦ rfl) _)
  | fail hphase hfailure =>
    subst hphase
    have hbusy := h.busy hfailure.ne_failed
    rw [List.map_append, ← List.append_assoc]
    exact (hbusy.append (isPlain_of_failure hfailure)).fail _
  | retry hphase hstop hdeadline => exact (h.waiting hphase).retry hdeadline

/-! ### Steps that are begun again -/

/-- The tasks that the attempt under way has begun. -/
def Phase.begun : Phase → List Task
  | .establishing stage => stage.behind ++ stage.task?.toList
  | .forwarding _ => Task.order
  | _ => []

/-- The times at which the stack or the dialer was called for a task. -/
def callTimes (task : Task) (entries : List (Nat × Event)) : List Nat :=
  entries.filterMap fun
    | (moment, .called call) => if call.task = task then some moment else none
    | _ => none

/-- A time before which a task is not begun again. -/
def Phase.due (backoff now : Nat) (task : Task) : Phase → Nat
  | .failed deadline => deadline
  | phase => if task ∈ phase.begun then now + backoff else now

def callCount (task : Task) (events : List Event) : Nat :=
  ((calls events).map Call.task).count task

theorem callTimes_append (task : Task) (entries more : List (Nat × Event)) :
    callTimes task (entries ++ more) = callTimes task entries ++ callTimes task more :=
  List.filterMap_append

theorem callTimes_map (task : Task) (now : Nat) (events : List Event) :
    callTimes task (events.map (now, ·)) = List.replicate (callCount task events) now := by
  induction events with
  | nil => rfl
  | cons event events ih =>
    cases event with
    | called call =>
      by_cases htask : call.task = task
      · simp_all [callTimes, callCount, calls, List.replicate_succ]
      · simp_all [callTimes, callCount, calls]
    | _ => exact ih

theorem callCount_append (task : Task) (events more : List Event) :
    callCount task (events ++ more) = callCount task events + callCount task more := by
  rw [callCount, calls_append, List.map_append, List.count_append]
  rfl

theorem callCount_map {α : Type} {item : α → Event} (h : ∀ a call, item a ≠ .called call)
    (task : Task) (items : List α) : callCount task (items.map item) = 0 := by
  have hnone : calls (items.map item) = [] := by
    refine filterMap_map_eq_nil (fun a ↦ ?_) items
    split
    · rename_i call hcall
      exact absurd hcall (h a call)
    · rfl
  rw [callCount, hnone]
  rfl

theorem callCount_failure {phase : Phase} {cause : Fault}
    (h : Failure link phase stimulus cause events) (task : Task) : callCount task events = 0 := by
  cases h with
  | call => exact callCount_map (fun _ _ hcall ↦ by cases hcall) task _
  | request | greeting | loops => rfl

theorem callCount_progress {stage stage' : Stage}
    (h : Progress link stage stimulus stage' events) (task : Task) :
    callCount task events = 0 ∧
        (task ∈ (Phase.establishing stage).begun → task ∈ (Phase.establishing stage').begun) ∨
      callCount task events = 1 ∧ task ∉ (Phase.establishing stage).begun ∧
        task ∈ (Phase.establishing stage').begun := by
  cases h <;> cases task <;>
    simp [callCount, calls, Call.task, Phase.begun, Stage.behind, Stage.task?]

theorem Phase.due_le_elapse (backoff now : Nat) (task : Task) (phase : Phase) (ms : Nat) :
    phase.due backoff now task ≤ phase.due backoff (now + ms) task := by
  unfold due
  split
  · exact Nat.le_refl _
  · split <;> omega

theorem Phase.due_le (backoff now : Nat) (task : Task) {phase : Phase}
    (hstatus : phase.status ≠ .failed) : phase.due backoff now task ≤ now + backoff := by
  unfold due
  split
  · exact absurd rfl hstatus
  · split <;> omega

theorem Failure.isOpen {phase : Phase} {cause : Fault}
    (h : Failure link phase stimulus cause events) : phase.isOpen = true := by
  cases h <;> rfl

/-- Out of closing down no move leads back. -/
theorem Move.isOpen (h : Move link state stimulus next events)
    (hopen : next.phase.isOpen = true) : state.phase.isOpen = true := by
  refine eq_true_of_ne_false fun hclosed ↦ ?_
  have hstatus := (status_eq_closing_iff _).2 hclosed
  rcases h.published with ⟨-, hsame⟩ | ⟨-, hnext⟩
  · rw [hstatus, status_eq_closing_iff, hopen] at hsame
    cases hsame
  · rw [hstatus] at hnext
    cases hnext

/-- A move begins a task only when it is due, and then puts it off; no other move makes it due any
earlier. -/
theorem Move.due (h : Move link state stimulus next events) (task : Task) :
    callCount task events = 0 ∧ (next.phase.isOpen = true →
        state.phase.due link.backoffMs.toNat state.now task ≤
          next.phase.due link.backoffMs.toNat next.now task) ∨
      callCount task events = 1 ∧ state.phase.isOpen = true ∧
        state.phase.due link.backoffMs.toNat state.now task = state.now ∧
        next.phase.due link.backoffMs.toNat next.now task =
          state.now + link.backoffMs.toNat := by
  cases h with
  | stop | stay => exact .inl ⟨rfl, fun _ ↦ Nat.le_refl _⟩
  | elapse ms => exact .inl ⟨rfl, fun _ ↦ Phase.due_le_elapse ..⟩
  | close =>
    refine .inl ⟨?_, fun hopen ↦ by cases hopen⟩
    rw [callCount_append, Phase.releases, callCount_map (fun _ _ hcall ↦ by cases hcall)]
    rfl
  | establish hphase | forward hphase =>
    rw [hphase]
    exact .inl ⟨rfl, fun _ ↦ Nat.le_refl _⟩
  | progress hphase hstop hprogress =>
    rw [hphase]
    rcases callCount_progress hprogress task with ⟨hnone, hbegun⟩ | ⟨hone, hnew, hbegun⟩
    · refine .inl ⟨hnone, fun _ ↦ ?_⟩
      simp only [Phase.due]
      split
      · rename_i hold
        rw [if_pos (hbegun hold)]
      · split <;> omega
    · refine .inr ⟨hone, rfl, ?_, ?_⟩
      · simp only [Phase.due, if_neg hnew]
      · simp only [Phase.due, if_pos hbegun]
  | uplink hphase | downlink hphase =>
    rw [hphase]
    refine .inl ⟨?_, fun _ ↦ Nat.le_refl _⟩
    exact callCount_map (fun _ _ hcall ↦ by cases hcall) task _
  | fail hphase hfailure =>
    subst hphase
    refine .inl ⟨?_, fun _ ↦ Phase.due_le _ _ _ hfailure.ne_failed⟩
    rw [callCount_append, callCount_failure hfailure]
    rfl
  | retry hphase hstop hdeadline =>
    rw [hphase]
    exact .inl ⟨rfl, fun _ ↦ hdeadline⟩
  | finish => exact .inl ⟨rfl, fun hopen ↦ by cases hopen⟩

def Apart (gap : Nat) (times : List Nat) : Prop :=
  times.IsChain fun earlier later ↦ earlier + gap ≤ later

theorem Apart.le_getElem {gap : Nat} {times : List Nat} (h : Apart gap times) {k : Nat}
    (hk : k < times.length) : k * gap ≤ times[k] := by
  induction k with
  | zero => simp
  | succ k ih =>
    have hbefore := ih (Nat.lt_of_succ_lt hk)
    have hstep : times[k] + gap ≤ times[k + 1] := List.isChain_iff_getElem.1 h k hk
    rw [Nat.succ_mul]
    omega

/-- What holds between a state and the times at which a task was begun up to it. -/
structure Spaced (link : LinkSettings) (task : Task) (state : State) (times : List Nat) : Prop where
  apart : Apart link.backoffMs.toNat times
  due : state.phase.isOpen = true → ∀ moment ∈ times.getLast?,
    moment + link.backoffMs.toNat ≤ state.phase.due link.backoffMs.toNat state.now task

theorem Spaced.move {task : Task} {times : List Nat} (h : Spaced link task state times)
    (hmove : Move link state stimulus next events) :
    Spaced link task next (times ++ List.replicate (callCount task events) state.now) := by
  -- `due` carries the induction: the last time is a whole wait before it, and a new one is at it.
  rcases hmove.due task with ⟨hnone, hlater⟩ | ⟨hone, hopen, hdue, hnext⟩
  · rw [hnone, List.replicate_zero, List.append_nil]
    refine ⟨h.apart, fun hopen moment hmem ↦ ?_⟩
    exact (h.due (hmove.isOpen hopen) moment hmem).trans (hlater hopen)
  · rw [hone, List.replicate_one]
    constructor
    · refine h.apart.append (.singleton _) ?_
      rintro moment hmem now hnow
      obtain rfl : state.now = now := Option.some.inj hnow
      exact hdue ▸ h.due hopen moment hmem
    · intro _ moment hmem
      rw [List.getLast?_concat, Option.mem_def, Option.some.injEq] at hmem
      rw [hnext, hmem]

/-! ### Failures and waits in numbers -/

def failures (events : List Event) : Nat := (statuses events).count .failed

theorem failures_append (events more : List Event) :
    failures (events ++ more) = failures events + failures more := by
  rw [failures, statuses_append, List.count_append]
  rfl

theorem Move.failures_eq_zero (h : Move link state stimulus next events)
    (hstatus : next.phase.status ≠ .failed) : failures events = 0 := by
  rw [failures, List.count_eq_zero]
  rcases h.published with ⟨hnone, -⟩ | ⟨hone, -⟩
  · rw [hnone]
    exact List.not_mem_nil
  · rw [hone, List.mem_singleton]
    exact hstatus.symm

/-- Each failure up to a state has had its wait, except for the one whose wait goes on. -/
def Tallied (state : State) (events : List Event) : Prop :=
  state.phase.isOpen = true →
    (statuses events).count .idle + (if state.phase.status = .failed then 1 else 0) =
      failures events + 1

theorem Tallied.move {before : List Event} (h : Tallied state before)
    (hmove : Move link state stimulus next events) : Tallied next (before ++ events) := by
  intro hopen
  have htally := h (hmove.isOpen hopen)
  have hstatus : next.phase.status ≠ .closing := by
    rw [ne_eq, status_eq_closing_iff, hopen]
    exact Bool.noConfusion
  rw [failures, statuses_append, List.count_append, List.count_append]
  rcases hmove.published with ⟨hnone, hsame⟩ | ⟨hone, hnext⟩
  · simpa [hnone, hsame, failures] using htally
  · rw [hone]
    revert htally hnext hstatus
    cases state.phase.status <;> cases next.phase.status <;>
      simp [Status.successors, failures]

/-! ### Clocks that stand still -/

/-- Whether each of some stimuli suits the state that it meets. -/
def State.always (link : LinkSettings) (suits : State → Stimulus → Bool) (state : State) :
    List Stimulus → Bool
  | [] => true
  | stimulus :: stimuli =>
    suits state stimulus && (state.step link stimulus).1.always link suits stimuli

/-- The clock moves in waits only, and in none beyond its end. -/
def State.punctual (state : State) : Stimulus → Bool
  | .elapse ms =>
    match state.phase with
    | .failed deadline => state.now + ms ≤ deadline
    | _ => ms = 0
  | _ => true

/-- No dial succeeds. -/
def State.refuses (state : State) : Stimulus → Bool
  | .answer (.ok ()) =>
    match state.phase with
    | .establishing .dialing => false
    | _ => true
  | _ => true

/-- What every move by a suitable stimulus preserves, a run by such stimuli preserves. -/
theorem State.run_preserves_always {suits : State → Stimulus → Bool}
    {Holds : State → List Event → Prop}
    (hmove : ∀ state events stimulus next more, suits state stimulus = true →
      Holds state events → Move link state stimulus next more → Holds next (events ++ more))
    (stimuli : List Stimulus) (state : State) (events : List Event)
    (halways : state.always link suits stimuli = true) (h : Holds state events) :
    Holds (state.run link stimuli).1 (events ++ (state.run link stimuli).2) := by
  induction stimuli generalizing state events with
  | nil => simpa [run] using h
  | cons stimulus stimuli ih =>
    obtain ⟨hone, hothers⟩ := Bool.and_eq_true_iff.1 halways
    have hstep := hmove state events stimulus _ _ hone h (state.step_move stimulus)
    have hrest := ih _ _ hothers hstep
    rw [List.append_assoc] at hrest
    exact hrest

/-- What the time is when only waits have taken any. -/
structure OnTime (link : LinkSettings) (state : State) (events : List Event) : Prop where
  working : state.phase.isOpen = true → state.phase.status ≠ .failed →
    state.now = failures events * link.backoffMs.toNat
  waiting : ∀ deadline, state.phase = .failed deadline →
    state.now ≤ deadline ∧ deadline = failures events * link.backoffMs.toNat

theorem OnTime.work {before : List Event} (h : OnTime link state before)
    (hopen : state.phase.isOpen = true) (hstatus : state.phase.status ≠ .failed)
    (hnow : next.now = state.now) (hnext : next.phase.status ≠ .failed)
    (hnone : failures events = 0) : OnTime link next (before ++ events) where
  working := fun _ _ ↦ by rw [failures_append, hnone, hnow, h.working hopen hstatus, Nat.add_zero]
  waiting := by
    intro deadline hfailed
    rw [hfailed] at hnext
    exact absurd rfl hnext

theorem OnTime.elapse (h : OnTime link state events) {ms : Nat}
    (hpunctual : state.punctual (.elapse ms) = true) :
    OnTime link { state with now := state.now + ms } events where
  working := by
    intro hopen hstatus
    have hstill : ms = 0 := by
      cases hphase : state.phase with
      | failed => simp [hphase, Phase.status] at hstatus
      | _ => simpa [State.punctual, hphase] using hpunctual
    simpa only [hstill, Nat.add_zero] using h.working hopen hstatus
  waiting := by
    intro deadline hphase
    have hwithin : state.now + ms ≤ deadline := by
      have hfailed : state.phase = .failed deadline := hphase
      simpa [State.punctual, hfailed] using hpunctual
    exact ⟨hwithin, (h.waiting deadline hphase).2⟩

theorem OnTime.move {before : List Event} (h : OnTime link state before)
    (hpunctual : state.punctual stimulus = true)
    (hmove : Move link state stimulus next events) : OnTime link next (before ++ events) := by
  have hnone := hmove.failures_eq_zero
  cases hmove with
  | stop | stay =>
    rw [List.append_nil]
    exact ⟨h.working, h.waiting⟩
  | elapse ms =>
    rw [List.append_nil]
    exact h.elapse hpunctual
  | close | finish =>
    constructor
    · intro hopen
      cases hopen
    · intro _ hfailed
      cases hfailed
  | establish hphase | progress hphase | forward hphase | uplink hphase | downlink hphase =>
    have hnext := hnone (by simp [Phase.status])
    exact h.work (by rw [hphase]; rfl) (by simp [hphase, Phase.status]) rfl
      (by simp [Phase.status]) hnext
  | @fail _ _ cause more hphase hfailure =>
    subst hphase
    have hnow := h.working hfailure.isOpen hfailure.ne_failed
    have hone : failures (more ++ [.entered .failed, .warned cause link.backoffMs]) = 1 := by
      rw [failures, statuses_append, hfailure.quiet.1]
      rfl
    refine ⟨fun _ hstatus ↦ absurd rfl hstatus, ?_⟩
    rintro _ ⟨⟩
    rw [failures_append, hone, Nat.succ_mul, ← hnow]
    exact ⟨Nat.le_add_right .., rfl⟩
  | @retry deadline hphase hstop hdeadline =>
    obtain ⟨hnow, hwait⟩ := h.waiting deadline hphase
    refine ⟨fun _ _ ↦ ?_, fun _ hfailed ↦ by cases hfailed⟩
    rw [failures_append, ← Nat.le_antisymm hdeadline hnow, hwait]
    rfl

/-! ### Whole runs -/

theorem timely_run (hvalid : link.validate = .ok ()) (stopped : Bool) (stimuli : List Stimulus) :
    Timely link (run link stopped stimuli).1 (timeline link stopped stimuli) := by
  have hstart : Timely link { phase := .idle, stopped } [(0, .entered .idle)] :=
    { chain := .singleton _, last := ⟨0, .entered .idle, rfl, Nat.le_refl 0, rfl⟩ }
  simp only [run, timeline, State.start_of_valid hvalid]
  exact State.timeline_preserves (fun _ _ _ _ _ h hmove ↦ h.move hmove) stimuli _ _ hstart

theorem spaced_run (hvalid : link.validate = .ok ()) (stopped : Bool) (stimuli : List Stimulus)
    (task : Task) : Spaced link task (run link stopped stimuli).1
      (callTimes task (timeline link stopped stimuli)) := by
  have hstart : Spaced link task { phase := .idle, stopped }
      (callTimes task [(0, .entered .idle)]) :=
    { apart := .nil, due := fun _ ↦ nofun }
  have hmove (state : State) (entries : List (Nat × Event)) (stimulus : Stimulus) (next : State)
      (more : List Event) : Spaced link task state (callTimes task entries) →
      Move link state stimulus next more →
        Spaced link task next (callTimes task (entries ++ more.map (state.now, ·))) := by
    intro h hmove
    rw [callTimes_append, callTimes_map]
    exact h.move hmove
  simp only [run, timeline, State.start_of_valid hvalid]
  exact State.timeline_preserves hmove stimuli _ _ hstart

theorem tallied_run (hvalid : link.validate = .ok ()) (stopped : Bool) (stimuli : List Stimulus) :
    Tallied (run link stopped stimuli).1 (run link stopped stimuli).2 := by
  simp only [run, State.start_of_valid hvalid]
  exact State.run_preserves (fun _ _ _ _ _ h hmove ↦ h.move hmove) stimuli _ _ fun _ ↦ rfl

theorem onTime_run (hvalid : link.validate = .ok ()) {stopped : Bool} {stimuli : List Stimulus}
    (halways : (State.start link stopped).1.always link State.punctual stimuli = true) :
    OnTime link (run link stopped stimuli).1 (run link stopped stimuli).2 := by
  have hstart : OnTime link { phase := .idle, stopped } [.entered .idle] :=
    { working := fun _ _ ↦ (Nat.zero_mul _).symm, waiting := nofun }
  simp only [run, State.start_of_valid hvalid] at halways ⊢
  exact State.run_preserves_always (fun _ _ _ _ _ hnow h hmove ↦ h.move hnow hmove) stimuli _ _
    halways hstart

theorem isEarly_run (hvalid : link.validate = .ok ()) {stopped : Bool} {stimuli : List Stimulus}
    (halways : (State.start link stopped).1.always link State.refuses stimuli = true) :
    (run link stopped stimuli).1.phase.isEarly = true ∧
      .forwarding ∉ statuses (run link stopped stimuli).2 := by
  have hmove (state : State) (events : List Event) (stimulus : Stimulus) (next : State)
      (more : List Event) : state.refuses stimulus = true →
      state.phase.isEarly = true ∧ .forwarding ∉ statuses events →
      Move link state stimulus next more →
        next.phase.isEarly = true ∧ .forwarding ∉ statuses (events ++ more) := by
    rintro hrefuses ⟨hearly, hbefore⟩ hmove
    have hdial : stimulus = .answer (.ok ()) → state.phase ≠ .establishing .dialing := by
      rintro rfl hphase
      simp [State.refuses, hphase] at hrefuses
    obtain ⟨hnext, hmore⟩ := hmove.isEarly (fun hok hphase ↦ absurd hphase (hdial hok)) hearly
    rw [statuses_append, List.mem_append, not_or]
    exact ⟨hnext, hbefore, hmore⟩
  simp only [run, State.start_of_valid hvalid] at halways ⊢
  exact State.run_preserves_always hmove stimuli _ _ halways ⟨rfl, by decide⟩

theorem timeline_starts (hvalid : link.validate = .ok ()) (stopped : Bool)
    (stimuli : List Stimulus) :
    (timeline link stopped stimuli).head? = some (0, .entered .idle) := by
  simp only [timeline, State.start_of_valid hvalid]
  rfl

theorem Timely.chain (h : Timely link state entries) :
    entries.IsChain (Follows link.backoffMs) := by
  unfold Timely at h
  split at h
  · exact h.chain
  · exact h.chain

theorem Timely.ne_failed_last (h : Timely link state entries) {before : List (Nat × Event)}
    {moment : Nat} : entries ≠ before ++ [(moment, .entered .failed)] := by
  rintro rfl
  unfold Timely at h
  split at h
  · obtain ⟨-, _, _, hlast, -⟩ := h
    simp at hlast
  · obtain ⟨-, _, _, hlast, -, hevent⟩ := h
    obtain ⟨rfl, rfl⟩ : moment = _ ∧ Event.entered .failed = _ := by simpa using hlast
    cases hevent

theorem Timely.phase_of_warned (h : Timely link state entries) {before : List (Nat × Event)}
    {moment : Nat} {cause : Fault}
    (hlast : entries = before ++ [(moment, .warned cause link.backoffMs)]) :
    state.phase = .failed (moment + link.backoffMs.toNat) := by
  subst hlast
  unfold Timely at h
  split at h
  · rename_i deadline hphase
    obtain ⟨-, _, _, hlast, -, rfl⟩ := h
    obtain ⟨rfl, -⟩ : moment = _ ∧ cause = _ := by simpa using hlast
    exact hphase
  · obtain ⟨-, _, _, hlast, -, hevent⟩ := h
    obtain ⟨rfl, rfl⟩ : moment = _ ∧ Event.warned cause link.backoffMs = _ := by simpa using hlast
    cases hevent

theorem Follows.of_failed {moment : Nat} {entry : Nat × Event}
    (h : Follows backoffMs (moment, .entered .failed) entry) :
    ∃ cause, entry = (moment, .warned cause backoffMs) := by
  obtain ⟨later, event⟩ := entry
  obtain ⟨-, hevent⟩ := h
  cases event with
  | warned cause announced =>
    obtain ⟨rfl, rfl⟩ := hevent
    exact ⟨cause, rfl⟩
  | _ => cases hevent

theorem Follows.of_warned {moment : Nat} {cause : Fault} {announced : UInt64}
    {entry : Nat × Event} (h : Follows backoffMs (moment, .warned cause announced) entry) :
    entry.2 = .entered .idle ∧ moment + backoffMs.toNat ≤ entry.1 ∨
      entry.2 = .entered .closing := by
  obtain ⟨later, event⟩ := entry
  obtain ⟨-, hevent⟩ := h
  cases event with
  | entered status =>
    cases status with
    | idle => exact .inl ⟨rfl, hevent⟩
    | closing => exact .inr rfl
    | _ => cases hevent
  | _ => cases hevent

theorem Follows.of_to_warned {entry : Nat × Event} {moment : Nat} {cause : Fault}
    {announced : UInt64} (h : Follows backoffMs entry (moment, .warned cause announced)) :
    entry = (moment, .entered .failed) ∧ announced = backoffMs := by
  obtain ⟨earlier, event⟩ := entry
  obtain ⟨-, hevent⟩ := h
  cases event with
  | entered status =>
    cases status with
    | failed =>
      obtain ⟨rfl, rfl⟩ := hevent
      exact ⟨rfl, rfl⟩
    | _ => cases hevent
  | _ => cases hevent

theorem Follows.of_to_idle {entry : Nat × Event} {moment : Nat}
    (h : Follows backoffMs entry (moment, .entered .idle)) :
    ∃ cause announced, entry.2 = .warned cause announced ∧
      entry.1 + backoffMs.toNat ≤ moment := by
  obtain ⟨earlier, event⟩ := entry
  obtain ⟨-, hevent⟩ := h
  cases event with
  | warned cause announced => exact ⟨cause, announced, rfl, hevent⟩
  | entered status => cases status <;> cases hevent
  | _ => cases hevent

theorem eq_nil_or_exists_follows {before rest : List (Nat × Event)} {next : Nat × Event}
    (h : (before ++ next :: rest).IsChain (Follows backoffMs)) :
    before = [] ∨ ∃ earlier entry, before = earlier ++ [entry] ∧ Follows backoffMs entry next := by
  rcases List.eq_nil_or_concat before with rfl | ⟨earlier, entry, rfl⟩
  · exact .inl rfl
  · rw [List.concat_eq_append, List.append_assoc] at h
    exact .inr ⟨earlier, entry, List.concat_eq_append .., (List.isChain_append_cons_cons.1 h).2.1⟩

/-- A timeline that does not start with a wait has a failure before each of them. -/
theorem exists_failed_before (hchain : entries.IsChain (Follows backoffMs))
    (hstarts : entries.head? = some (0, .entered .idle)) {before rest : List (Nat × Event)}
    {moment : Nat} {cause : Fault} {announced : UInt64}
    (hsplit : entries = before ++ (moment, .warned cause announced) :: rest) :
    announced = backoffMs ∧ ∃ earlier, before = earlier ++ [(moment, .entered .failed)] := by
  subst hsplit
  rcases eq_nil_or_exists_follows hchain with rfl | ⟨earlier, entry, rfl, hfollows⟩
  · cases hstarts
  · obtain ⟨rfl, rfl⟩ := hfollows.of_to_warned
    exact ⟨rfl, earlier, rfl⟩

/-- How the attempts of a life follow each other. The stimuli being arbitrary, what is said of their
end holds at every moment. -/
structure Paced (link : LinkSettings) (stopped : Bool) (stimuli : List Stimulus) : Prop where
  /-- A failure is warned of in the same moment. Then comes the next attempt, when the wait is over,
  or a stop; no call is made meanwhile, and nothing else is done. -/
  waits : ∀ before failed later,
    timeline link stopped stimuli = before ++ (failed, .entered .failed) :: later →
      ∃ cause rest, later = (failed, .warned cause link.backoffMs) :: rest ∧
        ∀ entry ∈ rest.head?,
          entry.2 = .entered .idle ∧ failed + link.backoffMs.toNat ≤ entry.1 ∨
            entry.2 = .entered .closing ∧ (stopped = true ∨ .stop ∈ stimuli)
  warned : ∀ before moment cause announced later,
    timeline link stopped stimuli = before ++ (moment, .warned cause announced) :: later →
      ∃ earlier, before = earlier ++ [(moment, .entered .failed)]
  waited : ∀ before moment later,
    timeline link stopped stimuli = before ++ (moment, .entered .idle) :: later →
      before = [] ∨ ∃ earlier failed cause,
        before = earlier ++ [(failed, .entered .failed), (failed, .warned cause link.backoffMs)] ∧
          failed + link.backoffMs.toNat ≤ moment
  retries : stopped = false → .stop ∉ stimuli → ∀ before failed cause,
    timeline link stopped stimuli = before ++ [(failed, .warned cause link.backoffMs)] →
      ∀ ms, failed + link.backoffMs.toNat ≤ (run link stopped stimuli).1.now + ms → ∀ stopFirst,
        timeline link stopped (stimuli ++ [.elapse ms, .wake stopFirst]) =
          timeline link stopped stimuli ++
            [((run link stopped stimuli).1.now + ms, .entered .idle)]
  apart : ∀ task, Apart link.backoffMs.toNat (callTimes task (timeline link stopped stimuli))
  /-- A step that was begun `k` times before is begun after `k` waits at the earliest. -/
  begun : ∀ task k moment, (callTimes task (timeline link stopped stimuli))[k]? = some moment →
    k * link.backoffMs.toNat ≤ moment
  tallied : Tallied (run link stopped stimuli).1 (run link stopped stimuli).2
  /-- If nothing but waits takes time, the time is told by the number of failures. -/
  on_time : (State.start link stopped).1.always link State.punctual stimuli = true →
    OnTime link (run link stopped stimuli).1 (run link stopped stimuli).2
  refused : (State.start link stopped).1.always link State.refuses stimuli = true →
    .forwarding ∉ statuses (run link stopped stimuli).2 ∧
      (run link stopped stimuli).1.phase.loops = []

theorem mem_statuses_of_mem_timeline {stopped : Bool} {stimuli : List Stimulus}
    {entry : Nat × Event} {status : Status} (hmem : entry ∈ timeline link stopped stimuli)
    (hevent : entry.2 = .entered status) : status ∈ statuses (run link stopped stimuli).2 := by
  rw [← map_snd_timeline]
  exact List.mem_filterMap.2 ⟨entry.2, List.mem_map_of_mem hmem, by rw [hevent]⟩

theorem timeline_retry {deadline ms : Nat} (hphase : state.phase = .failed deadline)
    (hstop : state.stopped = false) (hdeadline : deadline ≤ state.now + ms) (stopFirst : Bool) :
    state.timeline link [.elapse ms, .wake stopFirst] =
      [(state.now + ms, .entered .idle)] := by
  simp [State.timeline, State.step, State.wake, State.goto, hphase, hstop, hdeadline]

theorem Phase.loops_of_isEarly {phase : Phase} (h : phase.isEarly = true) : phase.loops = [] := by
  cases phase with
  | forwarding => cases h
  | _ => rfl

/-- Between a failure and the next attempt there is one wait, and so the steps of the attempts are
apart by it; where every dial is refused, there is nothing else. -/
theorem run_paced (hvalid : link.validate = .ok ()) (stopped : Bool) (stimuli : List Stimulus) :
    Paced link stopped stimuli := by
  have htimely := timely_run hvalid stopped stimuli
  have hstopped := stopped_run link stopped stimuli
  have hstarts := timeline_starts hvalid stopped stimuli
  have hspaced := spaced_run hvalid stopped stimuli
  exact
    { waits := by
        intro before failed later hsplit
        have hchain := htimely.chain
        rw [hsplit] at hchain
        cases later with
        -- One move publishes the failure and warns of it, so no timeline ends in between.
        | nil => exact absurd hsplit htimely.ne_failed_last
        | cons entry rest =>
          obtain ⟨-, hfailed, hrest⟩ := List.isChain_append_cons_cons.1 hchain
          obtain ⟨cause, rfl⟩ := hfailed.of_failed
          refine ⟨cause, rest, rfl, fun entry hentry ↦ ?_⟩
          have hmem : entry ∈ timeline link stopped stimuli := by
            rw [hsplit]
            simp [List.mem_of_head? hentry]
          refine (hrest.rel_head? hentry).of_warned.imp_right fun hclosing ↦ ⟨hclosing, ?_⟩
          have horderly := orderly_run hvalid stopped stimuli
          have hclosed := horderly.closing_iff.1 (mem_statuses_of_mem_timeline hmem hclosing)
          exact hstopped.1 (horderly.stopped hclosed)
      warned := by
        intro before moment cause announced later hsplit
        exact (exists_failed_before htimely.chain hstarts hsplit).2
      waited := by
        intro before moment later hsplit
        have hchain := htimely.chain
        rw [hsplit] at hchain
        refine (eq_nil_or_exists_follows hchain).imp_right ?_
        rintro ⟨earlier, ⟨failed, _⟩, rfl, hfollows⟩
        obtain ⟨cause, announced, rfl, hwait⟩ := hfollows.of_to_idle
        rw [List.append_assoc] at hsplit
        obtain ⟨rfl, first, rfl⟩ := exists_failed_before htimely.chain hstarts hsplit
        exact ⟨first, failed, cause, by simp, hwait⟩
      retries := by
        intro hnever hstop before failed cause hlast ms hwait stopFirst
        have hphase := htimely.phase_of_warned hlast
        have hrunning := stopped_run_eq_false link hnever hstop
        rw [timeline_append, timeline_retry hphase hrunning hwait]
      apart := fun task ↦ (hspaced task).apart
      begun := by
        intro task k moment hmoment
        obtain ⟨hk, rfl⟩ := List.getElem?_eq_some_iff.1 hmoment
        exact (hspaced task).apart.le_getElem hk
      tallied := tallied_run hvalid stopped stimuli
      on_time := onTime_run hvalid
      refused := by
        intro halways
        obtain ⟨hearly, hnever⟩ := isEarly_run hvalid halways
        exact ⟨hnever, Phase.loops_of_isEarly hearly⟩ }

/-- Three dials are refused at once, and the fourth is under way. -/
def refusals : List Stimulus :=
  let refusal : List Stimulus :=
    [.wake true, .wake true, .answer (.ok ()), .answer (.error ⟨.transport, "refused"⟩),
      .elapse 1000, .wake true]
  refusal ++ refusal ++ refusal ++ [.wake true, .wake true, .answer (.ok ())]

theorem run_paced_refusals :
    ({} : LinkSettings).validate = .ok () ∧
      (State.start {} false).1.always {} State.punctual refusals = true ∧
      (State.start {} false).1.always {} State.refuses refusals = true ∧
      callTimes .dial (timeline {} false refusals) = [0, 1000, 2000, 3000] ∧
      failures (run {} false refusals).2 = 3 ∧ (run {} false refusals).1.now = 3 * 1000 ∧
      .forwarding ∉ statuses (run {} false refusals).2 := by
  have hvalid : ({} : LinkSettings).validate = .ok () := by rfl
  have hpunctual : (State.start {} false).1.always {} State.punctual refusals = true := by
    decide +kernel
  have hrefuses : (State.start {} false).1.always {} State.refuses refusals = true := by
    decide +kernel
  have hfailures : failures (run {} false refusals).2 = 3 := by decide +kernel
  have hpaced := run_paced hvalid false refusals
  have hnow := (hpaced.on_time hpunctual).working (by decide +kernel) (by decide +kernel)
  rw [hfailures] at hnow
  exact ⟨hvalid, hpunctual, hrefuses, by decide +kernel, hfailures, hnow,
    (hpaced.refused hrefuses).1⟩

end AttestedUplink.Tunnel
