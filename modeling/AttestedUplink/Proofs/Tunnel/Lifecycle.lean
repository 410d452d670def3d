import AttestedUplink.Proofs.Settings.Validation
import AttestedUplink.Proofs.Tunnel.Moves
import Mathlib.Data.List.Chain

/-!
# The life cycle of the supervisor

Whatever the dialer, the network stack, the devices and the streams do, the published states follow
the edges of `Status.successors`, and only a request to stop leads out of the round of attempts.
-/

namespace AttestedUplink

namespace Tunnel

/-- The states that may follow a published one. -/
def Status.successors : Status → List Status
  | .idle => [.establishing, .closing]
  | .establishing => [.forwarding, .failed, .closing]
  | .forwarding => [.failed, .closing]
  | .failed => [.idle, .closing]
  | .closing => []

/-- The published states, in their order. -/
def statuses (events : List Event) : List Status :=
  events.filterMap fun
    | .entered status => some status
    | _ => none

/-- What the supervisor returned with. -/
def results (events : List Event) : List (Except Fault Unit) :=
  events.filterMap fun
    | .finished result => some result
    | _ => none

/-- The state that was published last in a phase. -/
def Phase.status : Phase → Status
  | .idle => .idle
  | .establishing _ => .establishing
  | .forwarding _ => .forwarding
  | .failed _ => .failed
  | .closing | .finished _ => .closing

@[simp] theorem statuses_append (events more : List Event) :
    statuses (events ++ more) = statuses events ++ statuses more :=
  List.filterMap_append

@[simp] theorem results_append (events more : List Event) :
    results (events ++ more) = results events ++ results more :=
  List.filterMap_append

/-- Events that are all of one kind publish nothing and return nothing, if that kind does not. -/
theorem filterMap_map_eq_nil {α β γ : Type} {event : α → β} {pick : β → Option γ}
    (h : ∀ item, pick (event item) = none) (items : List α) :
    (items.map event).filterMap pick = [] := by
  simp [List.filterMap_map, h]

/-- Events that are all of one kind tell an observer nothing, if one of that kind does not. -/
theorem foldl_map_eq_self {α β σ : Type} {event : α → β} {see : σ → β → σ} {observer : σ}
    (h : ∀ item, see observer (event item) = observer) (items : List α) :
    (items.map event).foldl see observer = observer := by
  rw [List.foldl_map]
  exact List.foldl_fixed' h items

@[simp] theorem statuses_releases (phase : Phase) : statuses phase.releases = [] :=
  filterMap_map_eq_nil (fun _ ↦ rfl) _

@[simp] theorem results_releases (phase : Phase) : results phase.releases = [] :=
  filterMap_map_eq_nil (fun _ ↦ rfl) _

theorem status_eq_closing_iff (phase : Phase) :
    phase.status = .closing ↔ phase.isOpen = false := by
  cases phase <;> simp [Phase.status, Phase.isOpen]

variable {link : LinkSettings} {state next : State} {stimulus : Stimulus} {events : List Event}

theorem Progress.quiet {stage next : Stage} (h : Progress link stage stimulus next events) :
    statuses events = [] ∧ results events = [] := by
  cases h <;> exact ⟨rfl, rfl⟩

theorem Failure.quiet {phase : Phase} {cause : Fault}
    (h : Failure link phase stimulus cause events) :
    statuses events = [] ∧ results events = [] := by
  cases h with
  | call => exact ⟨statuses_releases _, results_releases _⟩
  | request => exact ⟨rfl, rfl⟩
  | greeting => exact ⟨rfl, rfl⟩
  | loops => exact ⟨rfl, rfl⟩

/-- Only an attempt can fail. -/
theorem Failure.leads {phase : Phase} {cause : Fault}
    (h : Failure link phase stimulus cause events) : .failed ∈ phase.status.successors := by
  cases h <;> simp [Phase.status, Status.successors]

theorem Move.published (h : Move link state stimulus next events) :
    statuses events = [] ∧ next.phase.status = state.phase.status ∨
      statuses events = [next.phase.status] ∧
        next.phase.status ∈ state.phase.status.successors := by
  cases h with
  | stop | elapse | stay => exact .inl ⟨rfl, rfl⟩
  | close hopen hstop =>
    refine .inr ⟨by rw [statuses_append, statuses_releases]; rfl, ?_⟩
    cases hphase : state.phase <;> simp_all [Phase.status, Status.successors, Phase.isOpen]
  | establish hphase =>
    exact .inr ⟨rfl, by rw [hphase]; simp [Phase.status, Status.successors]⟩
  | progress hphase hstop h =>
    exact .inl ⟨h.quiet.1, by rw [hphase]; rfl⟩
  | forward hphase =>
    exact .inr ⟨rfl, by rw [hphase]; simp [Phase.status, Status.successors]⟩
  | uplink hphase => exact .inl ⟨filterMap_map_eq_nil (fun _ ↦ rfl) _, by rw [hphase]; rfl⟩
  | downlink hphase => exact .inl ⟨filterMap_map_eq_nil (fun _ ↦ rfl) _, by rw [hphase]; rfl⟩
  | fail hphase h =>
    subst hphase
    exact .inr ⟨by rw [statuses_append, h.quiet.1]; rfl, h.leads⟩
  | retry hphase =>
    exact .inr ⟨rfl, by rw [hphase]; simp [Phase.status, Status.successors]⟩
  | finish hphase => exact .inl ⟨rfl, by rw [hphase]; rfl⟩

/-- Only the move out of closing down returns. -/
theorem Move.returned (h : Move link state stimulus next events) :
    results events = [] ∧
        (∀ result, next.phase = .finished result → state.phase = .finished result) ∨
      results events = [.ok ()] ∧ state.phase = .closing ∧ next.phase = .finished (.ok ()) := by
  cases h with
  | stop | elapse | stay => exact .inl ⟨rfl, fun _ ↦ id⟩
  | close => exact .inl ⟨by rw [results_append, results_releases]; rfl, nofun⟩
  | establish | forward | retry => exact .inl ⟨rfl, nofun⟩
  | progress hphase hstop h => exact .inl ⟨h.quiet.2, nofun⟩
  | uplink => exact .inl ⟨filterMap_map_eq_nil (fun _ ↦ rfl) _, nofun⟩
  | downlink => exact .inl ⟨filterMap_map_eq_nil (fun _ ↦ rfl) _, nofun⟩
  | fail hphase h => exact .inl ⟨by rw [results_append, h.quiet.2]; rfl, nofun⟩
  | finish hphase => exact .inr ⟨rfl, hphase, rfl⟩

theorem Move.of_finished {result : Except Fault Unit} (h : Move link state stimulus next events)
    (hresult : state.phase = .finished result) :
    next.phase = .finished result ∧ events = [] := by
  cases h with
  | stop | elapse | stay => exact ⟨hresult, rfl⟩
  | close hopen =>
    rw [hresult] at hopen
    cases hopen
  | fail hphase h =>
    subst hphase
    rw [hresult] at h
    cases h
  | establish hphase | progress hphase | forward hphase | uplink hphase | downlink hphase
  | retry hphase | finish hphase =>
    rw [hresult] at hphase
    cases hphase

theorem Move.stopped_of (h : Move link state stimulus next events) :
    next.stopped = true ↔ state.stopped = true ∨ stimulus = .stop := by
  cases h with
  | stop | elapse | establish | forward | uplink | downlink | retry | finish => simp
  | close hopen hstop => simp [hstop]
  | stay h =>
    have hstimulus : stimulus ≠ .stop := by
      rintro rfl
      cases h
    simp [hstimulus]
  | progress hphase hstop h => cases h <;> simp
  | fail hphase h => cases h <;> simp

/-- What holds between the state of the supervisor and all events up to it. -/
structure Orderly (link : LinkSettings) (state : State) (events : List Event) : Prop where
  starts : (statuses events).head? = some .idle
  chain : (statuses events).IsChain fun status next ↦ next ∈ status.successors
  last : (statuses events).getLast? = some state.phase.status
  stopped : state.phase.isOpen = false → state.stopped = true
  returned : results events = [] ∧ (∀ result, state.phase ≠ .finished result) ∨
    results events = [.ok ()] ∧ state.phase = .finished (.ok ())
  patient : ∀ deadline, state.phase = .failed deadline →
    deadline ≤ state.now + link.backoffMs.toNat

theorem Orderly.start (link : LinkSettings) (stopped : Bool) :
    Orderly link { phase := .idle, stopped } [.entered .idle] where
  starts := rfl
  chain := .singleton _
  last := rfl
  stopped := nofun
  returned := .inl ⟨rfl, nofun⟩
  patient := nofun

theorem Orderly.move {before : List Event} (h : Orderly link state before)
    (hmove : Move link state stimulus next events) : Orderly link next (before ++ events) where
  starts := by
    rw [statuses_append, List.head?_append, h.starts]
    rfl
  chain := by
    rw [statuses_append]
    rcases hmove.published with ⟨hnone, -⟩ | ⟨hone, hnext⟩
    · rw [hnone, List.append_nil]
      exact h.chain
    · rw [hone]
      refine h.chain.append (.singleton _) ?_
      intro status hstatus last hlast
      simp only [h.last, List.head?_cons, Option.mem_def, Option.some.injEq] at hstatus hlast
      exact hstatus ▸ hlast ▸ hnext
  last := by
    rw [statuses_append]
    rcases hmove.published with ⟨hnone, hsame⟩ | ⟨hone, -⟩
    · rw [hnone, List.append_nil, h.last, hsame]
    · rw [hone, List.getLast?_concat]
  stopped := by
    intro hclosed
    cases hmove with
    | stop => rfl
    | close _ hstop => exact hstop
    | elapse | stay => exact h.stopped hclosed
    | finish hphase => exact h.stopped (by rw [hphase]; rfl)
    | establish | progress | forward | uplink | downlink | fail | retry => cases hclosed
  returned := by
    rw [results_append]
    rcases h.returned with ⟨hnone, hphase⟩ | ⟨hone, hphase⟩
    · rcases hmove.returned with ⟨hquiet, hbefore⟩ | ⟨hok, -, hfinished⟩
      · exact .inl ⟨by rw [hnone, hquiet]; rfl, fun result ↦ mt (hbefore result) (hphase result)⟩
      · exact .inr ⟨by rw [hnone, hok]; rfl, hfinished⟩
    · obtain ⟨hsame, rfl⟩ := hmove.of_finished hphase
      exact .inr ⟨by rw [hone]; rfl, hsame⟩
  patient := by
    intro deadline hdeadline
    cases hmove with
    | stop | stay => exact h.patient deadline hdeadline
    | elapse ms =>
      have hbefore := h.patient deadline hdeadline
      simp only
      omega
    | fail =>
      cases hdeadline
      exact Nat.le_refl _
    | close | finish | establish | progress | forward | uplink | downlink | retry => cases hdeadline

theorem eq_nil_of_closing {before after : List Status}
    (h : (before ++ .closing :: after).IsChain fun status next ↦ next ∈ status.successors) :
    after = [] := by
  cases after with
  | nil => rfl
  | cons status after =>
    obtain ⟨hnext, -⟩ := List.isChain_cons_cons.1 h.right_of_append
    cases hnext

theorem Orderly.closing_iff {before : List Event} (h : Orderly link state before) :
    .closing ∈ statuses before ↔ state.phase.isOpen = false := by
  have hlast := h.last
  rw [← status_eq_closing_iff]
  constructor
  · intro hmem
    obtain ⟨first, rest, hsplit⟩ := List.append_of_mem hmem
    obtain rfl := eq_nil_of_closing (hsplit ▸ h.chain)
    rw [hsplit, List.getLast?_concat] at hlast
    exact (Option.some.inj hlast).symm
  · intro hstatus
    rw [hstatus] at hlast
    exact List.mem_of_getLast? hlast

theorem State.stopped_run (stimuli : List Stimulus) (state : State) :
    (state.run link stimuli).1.stopped = true ↔ state.stopped = true ∨ .stop ∈ stimuli := by
  induction stimuli generalizing state with
  | nil => simp [State.run]
  | cons stimulus stimuli ih =>
    have hstep := (@State.step_move link state stimulus).stopped_of
    simp only [State.run, ih, hstep, List.mem_cons, or_assoc, @eq_comm _ stimulus]

theorem run_append (link : LinkSettings) (stopped : Bool) (stimuli more : List Stimulus) :
    run link stopped (stimuli ++ more) =
      (((run link stopped stimuli).1.run link more).1,
        (run link stopped stimuli).2 ++ ((run link stopped stimuli).1.run link more).2) := by
  simp only [run, State.run_append, List.append_assoc]

theorem stopped_run (link : LinkSettings) (stopped : Bool) (stimuli : List Stimulus) :
    (run link stopped stimuli).1.stopped = true ↔ stopped = true ∨ .stop ∈ stimuli := by
  have hstart : (State.start link stopped).1.stopped = stopped := by
    unfold State.start
    split <;> rfl
  have hrun := @State.stopped_run link stimuli (State.start link stopped).1
  rwa [hstart] at hrun

theorem stopped_run_eq_false (link : LinkSettings) {stopped : Bool} {stimuli : List Stimulus}
    (hnever : stopped = false) (hstop : .stop ∉ stimuli) :
    (run link stopped stimuli).1.stopped = false := by
  rw [Bool.eq_false_iff, ne_eq, stopped_run]
  simp [hnever, hstop]

theorem State.start_of_valid (hvalid : link.validate = .ok ()) (stopped : Bool) :
    State.start link stopped = ({ phase := .idle, stopped }, [.entered .idle]) := by
  simp only [start, hvalid]

theorem orderly_run (hvalid : link.validate = .ok ()) (stopped : Bool) (stimuli : List Stimulus) :
    Orderly link (run link stopped stimuli).1 (run link stopped stimuli).2 := by
  simp only [run, State.start_of_valid hvalid]
  exact State.run_preserves (fun _ _ _ _ _ h hmove ↦ h.move hmove) stimuli _ _ (.start link stopped)

theorem State.run_finished {result : Except Fault Unit} (hphase : state.phase = .finished result)
    (stimuli : List Stimulus) :
    (state.run link stimuli).1.phase = .finished result ∧ (state.run link stimuli).2 = [] := by
  have hmove : ∀ (before : State) (events : List Event) (stimulus : Stimulus) (next : State)
      (more : List Event), before.phase = .finished result ∧ events = [] →
        Move link before stimulus next more →
          next.phase = .finished result ∧ events ++ more = [] := by
    rintro before _ stimulus next more ⟨hbefore, rfl⟩ hmove
    exact hmove.of_finished hbefore
  exact State.run_preserves hmove stimuli state [] ⟨hphase, rfl⟩

theorem results_wake_of_closing (hclosed : state.phase.isOpen = false)
    (hphase : ∀ result, state.phase ≠ .finished result) (stopFirst : Bool) :
    results (state.run link [.wake stopFirst]).2 = [.ok ()] := by
  cases hclosing : state.phase with
  | closing => simp [State.run, State.step, State.wake, State.goto, hclosing, results]
  | finished result => exact absurd hclosing (hphase result)
  | _ =>
    rw [hclosing] at hclosed
    cases hclosed

theorem statuses_retry {deadline wait : Nat} (hphase : state.phase = .failed deadline)
    (hstop : state.stopped = false) (hdeadline : deadline ≤ state.now + wait)
    (early late : Bool) :
    statuses (state.run link [.elapse wait, .wake early, .wake late]).2 =
      [.idle, .establishing] := by
  simp [State.run, State.step, State.wake, State.goto, hphase, hstop, hdeadline, statuses]

/-- The life of a supervisor that goes through some stimuli. Since the stimuli are arbitrary, what
is said of all events holds at every moment of a longer life. -/
structure Lifecycle (link : LinkSettings) (stopped : Bool) (stimuli : List Stimulus) : Prop where
  starts : (statuses (run link stopped stimuli).2).head? = some .idle
  chain : (statuses (run link stopped stimuli).2).IsChain
    fun status next ↦ next ∈ status.successors
  closing_stopped : .closing ∈ statuses (run link stopped stimuli).2 →
    stopped = true ∨ .stop ∈ stimuli
  closing_last : ∀ before after,
    statuses (run link stopped stimuli).2 = before ++ .closing :: after →
      .closing ∉ before ∧ after = []
  returned : results (run link stopped stimuli).2 = [] ∨
    results (run link stopped stimuli).2 = [.ok ()] ∧
      .closing ∈ statuses (run link stopped stimuli).2
  returned_iff : ∀ result, (run link stopped stimuli).1.phase = .finished result ↔
    result ∈ results (run link stopped stimuli).2
  /-- Once closing down is published, nothing but the return is left. -/
  returns : .closing ∈ statuses (run link stopped stimuli).2 → ∀ stopFirst,
    results (run link stopped (stimuli ++ [.wake stopFirst])).2 = [.ok ()]
  stays : stopped = false → .stop ∉ stimuli → (run link stopped stimuli).1.phase.isOpen = true
  /-- A failed attempt is followed by the next one. -/
  retries : stopped = false → .stop ∉ stimuli →
    (statuses (run link stopped stimuli).2).getLast? = some .failed → ∀ early late,
      statuses (run link stopped
        (stimuli ++ [.elapse link.backoffMs.toNat, .wake early, .wake late])).2 =
          statuses (run link stopped stimuli).2 ++ [.idle, .establishing]

theorem Lifecycle.of_validate (hvalid : link.validate = .ok ()) (stopped : Bool)
    (stimuli : List Stimulus) : Lifecycle link stopped stimuli := by
  have horderly := orderly_run hvalid stopped stimuli
  have hstopped := stopped_run link stopped stimuli
  have hclosing := horderly.closing_iff
  exact
    { starts := horderly.starts
      chain := horderly.chain
      closing_stopped := fun hmem ↦ hstopped.1 (horderly.stopped (hclosing.1 hmem))
      closing_last := by
        intro before after hsplit
        have hchain := horderly.chain
        rw [hsplit] at hchain
        refine ⟨fun hmem ↦ ?_, eq_nil_of_closing hchain⟩
        obtain ⟨first, rest, rfl⟩ := List.append_of_mem hmem
        rw [List.append_assoc] at hchain
        exact absurd (eq_nil_of_closing hchain) (by simp)
      returned := by
        rcases horderly.returned with ⟨hnone, -⟩ | ⟨hone, hphase⟩
        · exact .inl hnone
        · exact .inr ⟨hone, hclosing.2 (by rw [hphase]; rfl)⟩
      returned_iff := by
        intro result
        rcases horderly.returned with ⟨hnone, hphase⟩ | ⟨hone, hphase⟩
        · simp [hnone, hphase]
        · simp [hone, hphase, eq_comm]
      returns := by
        intro hmem stopFirst
        rw [run_append, results_append]
        have hclosed := hclosing.1 hmem
        rcases horderly.returned with ⟨hnone, hphase⟩ | ⟨hone, hphase⟩
        · rw [hnone, results_wake_of_closing hclosed hphase]
          rfl
        · rw [hone, (State.run_finished hphase _).2]
          rfl
      stays := by
        intro hnever hstop
        by_contra hclosed
        rcases hstopped.1 (horderly.stopped (Bool.eq_false_iff.2 hclosed)) with h | h
        · simp [hnever] at h
        · exact hstop h
      retries := by
        intro hnever hstop hfailed early late
        have hrunning := stopped_run_eq_false link hnever hstop
        obtain ⟨deadline, hphase⟩ : ∃ deadline, (run link stopped stimuli).1.phase =
            .failed deadline := by
          have hstatus := Option.some.inj (horderly.last.symm.trans hfailed)
          cases hphase : (run link stopped stimuli).1.phase <;> simp_all [Phase.status]
        rw [run_append, statuses_append,
          statuses_retry hphase hrunning (horderly.patient deadline hphase)] }

/-- The whole life of a supervisor, whose settings are looked at before anything else. -/
theorem run_lifecycle (link : LinkSettings) (stopped : Bool) (stimuli : List Stimulus) :
    match link.validate with
    | .ok () => Lifecycle link stopped stimuli
    | .error cause =>
      cause.kind = .config ∧ (run link stopped stimuli).1.phase = .finished (.error cause) ∧
        (run link stopped stimuli).2 = [.finished (.error cause)] := by
  split
  · rename_i hvalid
    exact .of_validate hvalid stopped stimuli
  · rename_i cause hinvalid
    have hstart : State.start link stopped =
        ({ phase := .finished (.error cause), stopped }, [.finished (.error cause)]) := by
      simp only [State.start, hinvalid]
    have hphase : (State.start link stopped).1.phase = .finished (.error cause) := by rw [hstart]
    obtain ⟨hfinished, hevents⟩ := @State.run_finished link _ _ hphase stimuli
    refine ⟨LinkSettings.kind_of_validate hinvalid, hfinished, ?_⟩
    simp only [run, hevents, List.append_nil]
    rw [hstart]

end Tunnel

end AttestedUplink
