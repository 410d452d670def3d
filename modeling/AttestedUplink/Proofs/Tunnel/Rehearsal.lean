import AttestedUplink.Proofs.Tunnel.Lifecycle
import AttestedUplink.Tunnel.Rehearsal

/-!
# Rehearsals are runs

A rehearsal picks the stimuli of the supervisor by itself, from what the scripted parts answer. All
that it shows is what a run of these stimuli leaves, so that whatever is known of runs is known of
rehearsals. The request to stop is the one stimulus that only the script can bring.
-/

namespace AttestedUplink.Rehearsal

open Tunnel (Stimulus Event)

variable {link : LinkSettings} {parts parts' : Parts} {state next : State} {stimulus : Stimulus}

/-! ### The stimuli that are picked -/

theorem of_nextUplink {uplink : Uplink} (h : nextUplink parts uplink = some (stimulus, parts')) :
    ∃ input, stimulus = .uplink input := by
  unfold nextUplink at h
  cases uplink with
  | reading buffer =>
    obtain ⟨⟨input, device⟩, -, hinput⟩ := Option.map_eq_some_iff.1 h
    exact ⟨input, (Prod.mk.inj hinput).1.symm⟩
  | writing buffer writer =>
    obtain ⟨⟨answer, stream⟩, -, hanswer⟩ := Option.map_eq_some_iff.1 h
    exact ⟨.stream answer, (Prod.mk.inj hanswer).1.symm⟩
  | ended => cases h

theorem of_nextDownlink {downlink : Downlink}
    (h : nextDownlink parts downlink = some (stimulus, parts')) :
    ∃ input, stimulus = .downlink input := by
  unfold nextDownlink at h
  cases downlink with
  | reading buffer =>
    obtain ⟨⟨input, stream⟩, -, hinput⟩ := Option.map_eq_some_iff.1 h
    exact ⟨input, (Prod.mk.inj hinput).1.symm⟩
  | delivering frame buffer rest =>
    exact ⟨_, (Prod.mk.inj (Option.some.inj h)).1.symm⟩
  | ended => cases h

theorem Ending.stimulus?_isOuter {ending : Ending} (h : ending.stimulus? = some stimulus) :
    stimulus.isOuter = true := by
  cases ending with
  | succeeds =>
    obtain rfl := Option.some.inj h
    rfl
  | fails cause =>
    obtain rfl := Option.some.inj h
    rfl
  | hangs => cases h

/-- An attempt is moved on by the end of its calls, by the stream, or by itself. -/
theorem isOuter_of_nextStage {stage : Tunnel.Stage}
    (h : nextStage parts stage = some (stimulus, parts')) : stimulus.isOuter = true := by
  unfold nextStage at h
  cases stage with
  | begin =>
    obtain ⟨rfl, -⟩ := Prod.mk.inj (Option.some.inj h)
    rfl
  | greeting writer =>
    obtain ⟨⟨answer, stream⟩, -, hanswer⟩ := Option.map_eq_some_iff.1 h
    obtain ⟨rfl, -⟩ := Prod.mk.inj hanswer
    rfl
  | creating | dialing | configuring | linking =>
    obtain ⟨ended, hended, hpair⟩ := Option.map_eq_some_iff.1 h
    obtain ⟨rfl, -⟩ := Prod.mk.inj hpair
    exact Ending.stimulus?_isOuter hended

theorem ne_stop_of_isOuter (h : stimulus.isOuter = true) : stimulus ≠ .stop := by
  rintro rfl
  cases h

theorem ne_stop_of_wake (h : some (.wake true, parts') = some (stimulus, parts)) :
    stimulus ≠ .stop := by
  obtain ⟨rfl, -⟩ := Prod.mk.inj (Option.some.inj h)
  nofun

/-- Nothing but the script asks the supervisor to stop. -/
theorem ne_stop_of_next? (h : next? state = some (stimulus, parts)) : stimulus ≠ .stop := by
  unfold next? at h
  cases hphase : state.supervisor.phase with
  | idle | closing =>
    simp only [hphase] at h
    exact ne_stop_of_wake h
  | finished result =>
    simp only [hphase] at h
    cases h
  | establishing stage =>
    simp only [hphase] at h
    split at h
    · exact ne_stop_of_wake h
    · exact ne_stop_of_isOuter (isOuter_of_nextStage h)
  | failed deadline =>
    simp only [hphase] at h
    split at h
    · exact ne_stop_of_wake h
    · split at h
      · exact ne_stop_of_wake h
      · cases h
  | forwarding session =>
    simp only [hphase] at h
    rcases Option.or_eq_some_iff.1 h with huplink | ⟨-, h⟩
    · obtain ⟨input, rfl⟩ := of_nextUplink huplink
      nofun
    · rcases Option.or_eq_some_iff.1 h with hdownlink | ⟨-, h⟩
      · obtain ⟨input, rfl⟩ := of_nextDownlink hdownlink
        nofun
      · split at h
        · exact ne_stop_of_wake h
        · cases h

/-! ### What they bring about -/

/-- Some stimuli lead from one state of the supervisor to another and leave these events. A request
to stop is among them exactly if there is one. -/
def Leads (link : LinkSettings) (stops : Prop) (before : Tunnel.State) (after : Tunnel.State)
    (events : List Event) : Prop :=
  ∃ stimuli, before.run link stimuli = (after, events) ∧ (.stop ∈ stimuli ↔ stops)

variable {first second third : Tunnel.State} {events more : List Event} {stops stops' : Prop}

theorem Leads.refl (link : LinkSettings) (state : Tunnel.State) :
    Leads link False state state [] :=
  ⟨[], rfl, by simp⟩

theorem Leads.trans (h : Leads link stops first second events)
    (h' : Leads link stops' second third more) :
    Leads link (stops ∨ stops') first third (events ++ more) := by
  obtain ⟨stimuli, hrun, hstop⟩ := h
  obtain ⟨stimuli', hrun', hstop'⟩ := h'
  refine ⟨stimuli ++ stimuli', ?_, ?_⟩
  · rw [Tunnel.State.run_append, hrun, hrun']
  · rw [List.mem_append, hstop, hstop']

theorem Leads.step (state : Tunnel.State) (stimulus : Stimulus) :
    Leads link (stimulus = .stop) state (state.step link stimulus).1
      (state.step link stimulus).2 := by
  refine ⟨[stimulus], ?_, ?_⟩
  · simp only [Tunnel.State.run, List.append_nil]
  · rw [List.mem_singleton, eq_comm]

theorem Leads.of_iff (h : Leads link stops first second events) (hstops : stops ↔ stops') :
    Leads link stops' first second events :=
  propext hstops ▸ h

/-- The induction is on the moves that are allowed. The events of earlier moves are kept backwards,
and those of later moves are put in front of them. -/
theorem leads_settleFrom (moves : ℕ) (state : State) (events : List Event) :
    ∃ more, (settleFrom link moves state events).2 = more.reverse ++ events ∧
      Leads link False state.supervisor (settleFrom link moves state events).1.supervisor more := by
  induction moves generalizing state events with
  | zero => exact ⟨[], rfl, .refl link _⟩
  | succ moves ih =>
    rw [settleFrom]
    split
    · exact ⟨[], rfl, .refl link _⟩
    · rename_i stimulus parts hnext
      have hstep := @Leads.step link state.supervisor stimulus
      obtain ⟨more, hevents, hlater⟩ :=
        ih { supervisor := (state.supervisor.step link stimulus).1, parts }
          ((state.supervisor.step link stimulus).2.reverse ++ events)
      have hnone : stimulus = .stop ∨ False ↔ False := by simp [ne_stop_of_next? hnext]
      refine ⟨(state.supervisor.step link stimulus).2 ++ more, ?_, ?_⟩
      · rw [hevents, List.reverse_append, List.append_assoc]
      · exact (hstep.trans hlater).of_iff hnone

theorem leads_settle (state : State) :
    Leads link False state.supervisor (settle link state).1.supervisor (settle link state).2 := by
  obtain ⟨more, hevents, hleads⟩ := @leads_settleFrom link (state.moves link) state []
  rw [List.append_nil] at hevents
  simp only [settle, hevents, List.reverse_reverse]
  exact hleads

/-- Before everything runs, a step of the script changes only parts, unless it stops the supervisor
or moves its clock. -/
theorem leads_change {step : Step} (h : step.apply? link state = some next) :
    Leads link (step = .stop) state.supervisor next.supervisor [] := by
  have hparts (hne : step ≠ .stop) (hsame : next.supervisor = state.supervisor) :
      Leads link (step = .stop) state.supervisor next.supervisor [] := by
    rw [hsame]
    exact (Leads.refl link _).of_iff (iff_of_false nofun hne)
  cases step with
  | stop =>
    obtain rfl := Option.some.inj h
    exact (Leads.step state.supervisor .stop).of_iff (iff_of_true rfl rfl)
  | advance ms =>
    obtain rfl := Option.some.inj h
    exact (Leads.step state.supervisor (.elapse ms)).of_iff (iff_of_false nofun nofun)
  | inject | deviceReadError | deviceWriteError | host | hostClose | hostError | writeError
  | writeZero | flushError | stall =>
    apply hparts nofun
    unfold Step.apply? at h
    simp only [Step.onDevice?, Step.onStream?] at h
    split at h
    · obtain rfl := Option.some.inj h
      rfl
    · cases h

theorem leads_take (state : State) (step : Step) :
    Leads link (step = .stop) state.supervisor (take link state step).1.supervisor
      (take link state step).2.events := by
  unfold take
  split
  · rename_i changed happly
    exact ((leads_change happly).trans (leads_settle changed)).of_iff (iff_of_eq (or_false _))
  · rename_i hignored
    have hne : step ≠ .stop := by
      rintro rfl
      cases hignored
    exact (leads_settle state).of_iff (iff_of_false nofun hne)

theorem leads_takeAll (state : State) (steps : List Step) :
    Leads link (.stop ∈ steps) state.supervisor (takeAll link state steps).1.supervisor
      ((takeAll link state steps).2.flatMap Report.events) := by
  induction steps generalizing state with
  | nil => exact (Leads.refl link _).of_iff (iff_of_false nofun List.not_mem_nil)
  | cons step steps ih =>
    have hall := (leads_take state step).trans (ih (take link state step).1)
    apply hall.of_iff
    rw [List.mem_cons, eq_comm]

/-- Whether the supervisor has not returned. -/
def goesOn : Tunnel.Phase → Bool
  | .finished _ => false
  | _ => true

/-- What a rehearsal reports is what a run leaves, and it goes on as long as the run does. -/
theorem exists_run_perform (link : LinkSettings) (plans : List Plan) (stopped : Bool)
    (steps : List Step) :
    ∃ stimuli,
      (perform link plans stopped steps).1.flatMap Report.events =
          (Tunnel.run link stopped stimuli).2 ∧
        (perform link plans stopped steps).2 = goesOn (Tunnel.run link stopped stimuli).1.phase ∧
        (.stop ∈ stimuli ↔ .stop ∈ steps) := by
  let begun : State :=
    { supervisor := (Tunnel.State.start link stopped).1
      parts := ({ plan := .unplanned, later := plans } : Parts).nextAttempt }
  obtain ⟨stimuli, hrun, hstop⟩ :=
    (leads_settle begun).trans (leads_takeAll (settle link begun).1 steps)
  have hlast : (Tunnel.run link stopped stimuli).1 =
      (takeAll link (settle link begun).1 steps).1.supervisor := congrArg Prod.fst hrun
  have hevents := congrArg Prod.snd hrun
  refine ⟨stimuli, ?_, ?_, hstop.trans (iff_of_eq (false_or _))⟩
  · rw [perform, List.flatMap_cons, List.append_assoc]
    exact congrArg ((Tunnel.State.start link stopped).2 ++ ·) hevents.symm
  · rw [hlast]
    rfl

/-- A rehearsal with valid settings goes on until its script stops it. -/
theorem perform_goesOn {link : LinkSettings} (hvalid : link.validate = .ok ()) (plans : List Plan)
    {steps : List Step} (hstop : .stop ∉ steps) : (perform link plans false steps).2 = true := by
  obtain ⟨stimuli, -, hgoesOn, hstops⟩ := exists_run_perform link plans false steps
  have hopen := (Tunnel.Lifecycle.of_validate hvalid false stimuli).stays rfl (mt hstops.1 hstop)
  rw [hgoesOn]
  cases hphase : (Tunnel.run link false stimuli).1.phase with
  | finished result =>
    rw [hphase] at hopen
    cases hopen
  | idle | establishing | forwarding | failed | closing => rfl

end AttestedUplink.Rehearsal
