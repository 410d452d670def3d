import AttestedUplink.Proofs.Tunnel.Ownership
import Mathlib.Data.List.Nodup

/-!
# The first report of a session

The two loops of a session race for one slot, against each other and against a request to stop. An
observer who sees what each loop ends with notes all reports in their order, also those that find
the slot taken. What the supervisor takes a session to have failed with is always the first of them.
-/

namespace AttestedUplink

/-! ### Loops that end -/

/-- A loop ends with a report, and reports nothing else. -/
theorem Uplink.isSome_ending_iff (codec : Frame.Codec) (uplink : Uplink) (input : UplinkInput) :
    (uplink.step codec input).ending.isSome = true ↔
      uplink ≠ .ended ∧ (uplink.step codec input).loop = .ended := by
  cases uplink with
  | ended => simp [step]
  | reading buffer =>
    cases input with
    | frame octets =>
      simp only [step]
      split <;> simp [finish]
    | frameFailed text => simp [step, finish]
    | stream answer => simp [step]
  | writing buffer writer =>
    cases input with
    | frame octets => simp [step]
    | frameFailed text => simp [step]
    | stream answer => rcases hstep : writer.step answer with ⟨taken, _ | _ | _⟩ <;>
        simp [step, hstep, finish]

theorem Downlink.isSome_ending_drain_iff (codec : Frame.Codec) (isLast : Bool) (buffer : Bytes) :
    (drain codec isLast buffer).ending.isSome = true ↔
      (drain codec isLast buffer).loop = .ended := by
  fun_induction drain codec isLast buffer with
  | case1 => simp [finish]
  | case2 => simp [finish]
  | case3 => simp
  | case4 buffer rest h ih => exact ih
  | case5 => simp

theorem Downlink.isSome_ending_iff (codec : Frame.Codec) (downlink : Downlink)
    (input : DownlinkInput) :
    (downlink.step codec input).ending.isSome = true ↔
      downlink ≠ .ended ∧ (downlink.step codec input).loop = .ended := by
  cases downlink with
  | ended => simp [step]
  | reading buffer =>
    cases input with
    | octets chunk => simp [step, isSome_ending_drain_iff]
    | readFailed text => simp [step, finish]
    | delivered => simp [step]
    | deliveryFailed text => simp [step]
  | delivering frame buffer isLast =>
    cases input with
    | octets chunk => simp [step]
    | readFailed text => simp [step]
    | delivered => simp [step, isSome_ending_drain_iff]
    | deliveryFailed text => simp [step, finish]

/-- No loop ends with anything but trouble on the way or a host that breaks the rules. -/
theorem LoopEnd.kind_toFault (ending : LoopEnd) :
    ending.toFault.kind = .transport ∨ ending.toFault.kind = .protocolViolation := by
  cases ending with
  | violation => exact .inr rfl
  | deviceRead | hostWrite | hostClosed | hostRead | deviceWrite => exact .inl rfl

theorem Fault.isRetryable_of_kind {cause : Fault}
    (h : cause.kind = .transport ∨ cause.kind = .protocolViolation) : cause.isRetryable = true := by
  unfold isRetryable
  rcases h with hkind | hkind <;> rw [hkind] <;> rfl

namespace Tunnel

theorem Session.runs_uplink_eq_false_iff {session : Session} :
    session.runs .uplink = false ↔ session.uplink = .ended := by
  simp [runs]

theorem Session.runs_downlink_eq_false_iff {session : Session} :
    session.runs .downlink = false ↔ session.downlink = .ended := by
  simp [runs]

/-- What a stimulus makes a loop of a session report. -/
def Session.report? (codec : Frame.Codec) (session : Session) : Stimulus → Option (Loop × Fault)
  | .uplink input =>
    (session.uplink.step codec input).ending.map fun ending ↦ (.uplink, ending.toFault)
  | .downlink input =>
    (session.downlink.step codec input).ending.map fun ending ↦ (.downlink, ending.toFault)
  | _ => none

/-- The latest session in the eyes of an observer. -/
structure Hearing where
  /-- What the loops reported, whether or not it found the slot free. -/
  reports : List (Loop × Fault) := []
  underWay : Bool := false
  /-- What forwarding came to. -/
  returned : Option (Except Fault Unit) := none

namespace Hearing

def first? (hearing : Hearing) : Option Fault := hearing.reports.head?.map Prod.snd

def hear (hearing : Hearing) (report : Option (Loop × Fault)) : Hearing :=
  { hearing with reports := hearing.reports ++ report.toList }

def conclude (hearing : Hearing) (result : Except Fault Unit) : Hearing :=
  if hearing.underWay then { hearing with underWay := false, returned := some result } else hearing

def heed (codec : Frame.Codec) (hearing : Hearing) (phase : Phase) (stimulus : Stimulus) :
    Hearing :=
  match phase with
  | .forwarding session => hearing.hear (session.report? codec stimulus)
  | _ => hearing

/-- A session ends with a warning of its fault, or with the supervisor's closing down. -/
def see (hearing : Hearing) : Event → Hearing
  | .entered .forwarding => { underWay := true }
  | .warned cause _ => hearing.conclude (.error cause)
  | .entered .closing => hearing.conclude (.ok ())
  | _ => hearing

def note (codec : Frame.Codec) (hearing : Hearing) (phase : Phase) (stimulus : Stimulus)
    (events : List Event) : Hearing :=
  events.foldl see (hearing.heed codec phase stimulus)

/-- What the observer knows after some more stimuli. -/
def follow (link : LinkSettings) (state : State) (hearing : Hearing) : List Stimulus → Hearing
  | [] => hearing
  | stimulus :: stimuli =>
    let (next, events) := state.step link stimulus
    follow link next (hearing.note link.codec state.phase stimulus events) stimuli

/-- What is true of the reports of any session. -/
structure Proper (reports : List (Loop × Fault)) : Prop where
  once : (reports.map Prod.fst).Nodup
  kinds : ∀ entry ∈ reports, entry.2.kind = .transport ∨ entry.2.kind = .protocolViolation

/-- How the slot of a session and its loops are related to the reports. -/
structure Heard (hearing : Hearing) (session : Session) : Prop extends
    Proper hearing.reports where
  slot : session.slot = { pending := hearing.first? }
  ended : ∀ loop, loop ∈ hearing.reports.map Prod.fst ↔ session.runs loop = false

/-- No session is under way, and what the latest one came to is right. -/
structure Over (hearing : Hearing) (stopped : Bool) : Prop extends Proper hearing.reports where
  ended : hearing.underWay = false
  error : ∀ cause, hearing.returned = some (.error cause) → hearing.first? = some cause
  ok : hearing.returned = some (.ok ()) → stopped = true

/-- What a state of the supervisor says of the latest session. -/
def Suits (hearing : Hearing) (state : State) : Prop :=
  match state.phase with
  | .forwarding session =>
    hearing.underWay = true ∧ hearing.returned = none ∧ hearing.Heard session
  | _ => hearing.Over state.stopped

variable {link : LinkSettings} {codec : Frame.Codec} {hearing : Hearing} {session moved : Session}

theorem exists_mem_of_first {cause : Fault} (h : hearing.first? = some cause) :
    ∃ loop, (loop, cause) ∈ hearing.reports := by
  obtain ⟨entry, hentry, rfl⟩ := Option.map_eq_some_iff.1 h
  exact ⟨entry.1, List.mem_of_head? hentry⟩

/-! ### Reports -/

theorem Heard.quiet (h : hearing.Heard session) (hslot : moved.slot = session.slot)
    (hruns : ∀ loop, moved.runs loop = session.runs loop) : hearing.Heard moved where
  toProper := h.toProper
  slot := hslot.trans h.slot
  ended := fun loop ↦ by rw [hruns, h.ended]

/-- A report takes a slot that is free, and any other slot stays as it is. -/
theorem Heard.report (h : hearing.Heard session) {loop : Loop} {ending : LoopEnd}
    (hslot : moved.slot = (session.slot.report ending.toFault).2)
    (hbefore : session.runs loop = true) (hafter : moved.runs loop = false)
    (hother : ∀ other, other ≠ loop → moved.runs other = session.runs other) :
    (hearing.hear (some (loop, ending.toFault))).Heard moved where
  once := by
    -- A loop that has reported does not run any more.
    have hnew : loop ∉ hearing.reports.map Prod.fst := by
      rw [h.ended, hbefore]
      exact Bool.noConfusion
    rw [hear, Option.toList_some, List.map_append, List.map_singleton]
    exact h.once.append (List.nodup_singleton loop) (List.disjoint_singleton.2 hnew)
  kinds := by
    intro entry hentry
    rcases List.mem_append.1 hentry with hold | hnew
    · exact h.kinds entry hold
    · rw [List.mem_singleton.1 hnew]
      exact ending.kind_toFault
  slot := by
    rw [hslot, h.slot]
    cases hreports : hearing.reports <;>
      simp [first?, hear, hreports, ErrorSlot.report, ErrorSlot.isFree]
  ended := by
    intro other
    rw [hear, Option.toList_some, List.map_append, List.mem_append, h.ended, List.map_singleton,
      List.mem_singleton]
    by_cases hsame : other = loop
    · simp [hsame, hafter]
    · simp [hsame, hother other hsame]

theorem Heard.step (h : hearing.Heard session) {loop : Loop} {ending : Option LoopEnd}
    (hslot : moved.slot = reportEnd session.slot ending)
    (hending : ending.isSome = true ↔ session.runs loop ≠ false ∧ moved.runs loop = false)
    (hruns : moved.runs loop = true → session.runs loop = true)
    (hother : ∀ other, other ≠ loop → moved.runs other = session.runs other) :
    (hearing.hear (ending.map fun ending ↦ (loop, ending.toFault))).Heard moved := by
  cases ending with
  | some ending =>
    obtain ⟨hbefore, hafter⟩ := hending.1 rfl
    exact h.report hslot (eq_true_of_ne_false hbefore) hafter hother
  | none =>
    have hsame : ∀ other, moved.runs other = session.runs other := by
      intro other
      by_cases hloop : other = loop
      · subst hloop
        have hgoes_on : ¬(session.runs other ≠ false ∧ moved.runs other = false) :=
          fun hends ↦ absurd (hending.2 hends) Bool.noConfusion
        cases hbefore : session.runs other <;> cases hafter : moved.runs other <;> simp_all
      · exact hother other hloop
    simpa [hear] using h.quiet hslot hsame

theorem Heard.uplink (h : hearing.Heard session) (input : UplinkInput) :
    (hearing.hear (session.report? codec (.uplink input))).Heard
      (session.moveUplink codec input).1 := by
  refine h.step rfl ?_ Session.runs_moveUplink fun other hother ↦ ?_
  · rw [ne_eq, Session.runs_uplink_eq_false_iff, Session.runs_uplink_eq_false_iff]
    exact Uplink.isSome_ending_iff codec session.uplink input
  · cases other with
    | uplink => exact absurd rfl hother
    | downlink => rfl

theorem Heard.downlink (h : hearing.Heard session) (input : DownlinkInput) :
    (hearing.hear (session.report? codec (.downlink input))).Heard
      (session.moveDownlink codec input).1 := by
  refine h.step rfl ?_ Session.runs_moveDownlink fun other hother ↦ ?_
  · rw [ne_eq, Session.runs_downlink_eq_false_iff, Session.runs_downlink_eq_false_iff]
    exact Downlink.isSome_ending_iff codec session.downlink input
  · cases other with
    | uplink => rfl
    | downlink => exact absurd rfl hother

theorem Heard.runs (h : hearing.Heard session) (hnone : hearing.first? = none) (loop : Loop) :
    session.runs loop = true := by
  have hreports : hearing.reports = [] := by simpa [first?] using hnone
  have hended := h.ended loop
  rw [hreports] at hended
  exact eq_true_of_ne_false fun hover ↦ absurd (hended.2 hover) List.not_mem_nil

theorem Heard.exists_first (h : hearing.Heard session) {loop : Loop}
    (hended : session.runs loop = false) : ∃ cause, hearing.first? = some cause := by
  cases hfirst : hearing.first? with
  | some cause => exact ⟨cause, rfl⟩
  | none =>
    rw [h.runs hfirst] at hended
    cases hended

/-- The supervisor finds the first report, and nothing else. -/
theorem Heard.error? (h : hearing.Heard session) : session.error? = hearing.first? := by
  unfold Session.error?
  rw [h.slot]
  cases hfirst : hearing.first? with
  | some cause => rfl
  | none =>
    -- Nothing is reported, so both loops run, and the silent end is out of the question.
    have huplink : session.uplink ≠ .ended := by
      rw [ne_eq, ← Session.runs_uplink_eq_false_iff, h.runs hfirst]
      exact Bool.noConfusion
    exact if_neg fun hended ↦ huplink hended.1

theorem Heard.dropped (h : hearing.Heard session) (hreports : hearing.reports ≠ [])
    (fault : Fault) : session.slot.report fault = (false, session.slot) := by
  obtain ⟨entry, later, hsplit⟩ := List.exists_cons_of_ne_nil hreports
  rw [h.slot]
  simp [first?, hsplit, ErrorSlot.report, ErrorSlot.isFree]

theorem proper_nil : Proper [] where
  once := List.nodup_nil
  kinds := nofun

theorem over_nil (stopped : Bool) : ({} : Hearing).Over stopped where
  toProper := proper_nil
  ended := rfl
  error := fun _ hreturned ↦ by cases hreturned
  ok := fun hreturned ↦ by cases hreturned

theorem Heard.start (link : LinkSettings) :
    ({ underWay := true } : Hearing).Heard (.start link) where
  toProper := proper_nil
  slot := rfl
  ended := fun loop ↦ by cases loop <;> simp [Session.runs, Session.start, Uplink.start,
    Downlink.start]

/-! ### What one stimulus preserves -/

variable {state next : State} {stimulus : Stimulus} {events : List Event}

theorem foldl_see_releases (phase : Phase) (hearing : Hearing) :
    phase.releases.foldl see hearing = hearing :=
  foldl_map_eq_self (fun _ ↦ rfl) _

theorem heed_eq_self {phase : Phase}
    (h : ∀ session, phase = .forwarding session → session.report? codec stimulus = none) :
    hearing.heed codec phase stimulus = hearing := by
  unfold heed
  split
  · rename_i session
    simp [hear, h session rfl]
  · rfl

theorem heed_of_outer (h : stimulus.isOuter = true) (phase : Phase) :
    hearing.heed codec phase stimulus = hearing := by
  refine heed_eq_self fun session _ ↦ ?_
  cases stimulus with
  | wake | answer | greeting => rfl
  | stop | elapse | uplink | downlink => cases h

theorem heed_of_unheeded (h : state.heeds stimulus = false) :
    hearing.heed codec state.phase stimulus = hearing := by
  refine heed_eq_self fun session hphase ↦ ?_
  cases stimulus with
  | stop | elapse | wake | answer | greeting => rfl
  | uplink | downlink => simp [State.heeds, hphase] at h

theorem heed_of_establishing (stage : Stage) :
    hearing.heed codec (.establishing stage) stimulus = hearing := rfl

theorem Suits.proper (h : hearing.Suits state) : Proper hearing.reports := by
  unfold Suits at h
  split at h
  · exact h.2.2.toProper
  · exact h.toProper

theorem Suits.forwarding (h : hearing.Suits state) (hphase : state.phase = .forwarding session) :
    hearing.underWay = true ∧ hearing.returned = none ∧ hearing.Heard session := by
  simpa only [Suits, hphase] using h

theorem Suits.over (h : hearing.Suits state) (hstatus : state.phase.status ≠ .forwarding) :
    hearing.Over state.stopped := by
  unfold Suits at h
  split at h
  · rename_i hphase
    rw [hphase] at hstatus
    exact absurd rfl hstatus
  · exact h

theorem suits_of_over (hstatus : state.phase.status ≠ .forwarding)
    (h : hearing.Over state.stopped) : hearing.Suits state := by
  unfold Suits
  split
  · rename_i hphase
    rw [hphase] at hstatus
    exact absurd rfl hstatus
  · exact h

theorem Suits.error (h : hearing.Suits state) {cause : Fault}
    (hreturned : hearing.returned = some (.error cause)) : hearing.first? = some cause := by
  unfold Suits at h
  split at h
  · rw [h.2.1] at hreturned
    cases hreturned
  · exact h.error cause hreturned

theorem Suits.ok (h : hearing.Suits state) (hreturned : hearing.returned = some (.ok ())) :
    state.stopped = true := by
  unfold Suits at h
  split at h
  · rw [h.2.1] at hreturned
    cases hreturned
  · exact h.ok hreturned

/-- Whatever ends an attempt ends its session, if there is one. -/
theorem Suits.conclude (h : hearing.Suits state) {result : Except Fault Unit}
    (herror : ∀ session cause, state.phase = .forwarding session → result = .error cause →
      session.error? = some cause)
    (hok : result = .ok () → state.stopped = true) :
    (hearing.conclude result).Over state.stopped := by
  unfold Suits at h
  split at h
  · rename_i session hphase
    obtain ⟨hunderWay, -, hheard⟩ := h
    rw [Hearing.conclude, if_pos hunderWay]
    exact
      { hheard.toProper with
        ended := rfl
        error := fun cause hcause ↦ by
          rw [← herror session cause hphase (Option.some.inj hcause), hheard.error?]
          rfl
        ok := fun hresult ↦ hok (Option.some.inj hresult) }
  · rw [Hearing.conclude, h.ended, if_neg Bool.false_ne_true]
    exact h

theorem foldl_see_progress {stage stage' : Stage}
    (h : Progress link stage stimulus stage' events) : events.foldl see hearing = hearing := by
  cases h <;> rfl

theorem foldl_see_failure {phase : Phase} {cause : Fault}
    (h : Failure link phase stimulus cause events) : events.foldl see hearing = hearing := by
  cases h with
  | call => exact foldl_see_releases _ hearing
  | request | greeting | loops => rfl

/-- A failure comes of something that the supervisor itself is told. -/
theorem isOuter_of_failure {phase : Phase} {cause : Fault}
    (h : Failure link phase stimulus cause events) : stimulus.isOuter = true := by
  cases h <;> rfl

theorem Suits.stop (h : hearing.Suits state) :
    hearing.Suits { state with stopped := true } := by
  unfold Suits at h ⊢
  split at h
  · rename_i hphase
    simpa only [hphase] using h
  · exact { toProper := h.toProper, ended := h.ended, error := h.error, ok := fun _ ↦ rfl }

theorem Suits.close (h : hearing.Suits state) (hstop : state.stopped = true)
    (houter : stimulus.isOuter = true) :
    (hearing.note codec state.phase stimulus
      (state.phase.releases ++ [.entered .closing])).Over state.stopped := by
  rw [note, heed_of_outer houter, List.foldl_append, foldl_see_releases]
  exact h.conclude (fun _ _ _ herror ↦ by cases herror) fun _ ↦ hstop

theorem Suits.fail (h : hearing.Suits state) {cause : Fault} {backoffMs : UInt64}
    (hfailure : Failure link state.phase stimulus cause events) :
    (hearing.note codec state.phase stimulus
      (events ++ [.entered .failed, .warned cause backoffMs])).Over state.stopped := by
  rw [note, heed_of_outer (isOuter_of_failure hfailure), List.foldl_append,
    foldl_see_failure hfailure]
  refine h.conclude ?_ nofun
  rintro session _ hphase ⟨⟩
  rw [hphase] at hfailure
  cases hfailure with
  | loops herror => exact herror

theorem Suits.move (h : hearing.Suits state) (hmove : Move link state stimulus next events) :
    (hearing.note link.codec state.phase stimulus events).Suits next := by
  cases hmove with
  | stop =>
    rw [note, heed_eq_self fun _ _ ↦ rfl, List.foldl_nil]
    exact h.stop
  | elapse ms =>
    rw [note, heed_eq_self fun _ _ ↦ rfl, List.foldl_nil]
    exact h
  | stay hheeds =>
    rw [note, heed_of_unheeded hheeds, List.foldl_nil]
    exact h
  | close hopen hstop houter => exact h.close hstop houter
  | establish hphase | retry hphase | finish hphase =>
    have hover := h.over (by simp [hphase, Phase.status])
    rw [note, heed_of_outer rfl]
    simpa only [List.foldl_cons, List.foldl_nil, see, Suits] using hover
  | progress hphase hstop hprogress =>
    have hover := h.over (by simp [hphase, Phase.status])
    rw [note, hphase, heed_of_establishing, foldl_see_progress hprogress]
    simpa only [Suits] using hover
  | forward =>
    have hstart := Heard.start link
    simp only [note, List.foldl_cons, List.foldl_nil, see, Suits]
    exact ⟨trivial, trivial, hstart⟩
  | uplink hphase input =>
    obtain ⟨hunderWay, hreturned, hheard⟩ := h.forwarding hphase
    have hquiet (heard : Hearing) (portion : Bytes) : heard.see (.sent portion) = heard := rfl
    rw [note, hphase, Session.moveUplink, foldl_map_eq_self (hquiet _)]
    exact ⟨hunderWay, hreturned, hheard.uplink input⟩
  | downlink hphase input =>
    obtain ⟨hunderWay, hreturned, hheard⟩ := h.forwarding hphase
    have hquiet (heard : Hearing) (frame : Bytes) : heard.see (.delivered frame) = heard := rfl
    rw [note, hphase, Session.moveDownlink, foldl_map_eq_self (hquiet _)]
    exact ⟨hunderWay, hreturned, hheard.downlink input⟩
  | fail hphase hfailure =>
    subst hphase
    exact h.fail hfailure

theorem suits_follow (stimuli : List Stimulus) (h : hearing.Suits state) :
    (follow link state hearing stimuli).Suits (state.run link stimuli).1 := by
  induction stimuli generalizing state hearing with
  | nil => exact h
  | cons stimulus stimuli ih => exact ih (h.move (state.step_move stimulus))

theorem follow_append (state : State) (hearing : Hearing) (first second : List Stimulus) :
    follow link state hearing (first ++ second) =
      follow link (state.run link first).1 (follow link state hearing first) second := by
  induction first generalizing state hearing with
  | nil => rfl
  | cons stimulus first ih => exact ih ..

theorem Suits.returns (h : hearing.Suits state) (hphase : state.phase = .forwarding session)
    (hstop : state.stopped = false) {cause : Fault} (hfirst : hearing.first? = some cause)
    (stopFirst : Bool) :
    (follow link state hearing [.wake stopFirst]).returned = some (.error cause) := by
  obtain ⟨hunderWay, -, hheard⟩ := h.forwarding hphase
  have herror : session.error? = some cause := hheard.error?.trans hfirst
  have hevents : (state.step link (.wake stopFirst)).2 =
      state.phase.releases ++ [.entered .failed, .warned cause link.backoffMs] := by
    simp only [State.step, State.wake, hphase, herror, hstop, Bool.false_and, Bool.false_eq_true,
      if_false, State.fail]
  have hheed : hearing.heed link.codec state.phase (.wake stopFirst) = hearing :=
    heed_of_outer rfl _
  have hnote : hearing.note link.codec state.phase (.wake stopFirst)
      (state.step link (.wake stopFirst)).2 = hearing.conclude (.error cause) := by
    rw [note, hheed, hevents, List.foldl_append, foldl_see_releases]
    rfl
  simp only [follow, hnote, Hearing.conclude, hunderWay, if_true]

end Hearing

/-! ### Whole runs -/

def hearing (link : LinkSettings) (stopped : Bool) (stimuli : List Stimulus) : Hearing :=
  Hearing.follow link (State.start link stopped).1 {} stimuli

theorem suits_hearing (link : LinkSettings) (stopped : Bool) (stimuli : List Stimulus) :
    (hearing link stopped stimuli).Suits (run link stopped stimuli).1 := by
  have hstatus : (State.start link stopped).1.phase.status ≠ .forwarding := by
    unfold State.start
    split <;> simp [Phase.status]
  exact Hearing.suits_follow stimuli (Hearing.suits_of_over hstatus (Hearing.over_nil _))

theorem hearing_append (link : LinkSettings) (stopped : Bool) (stimuli more : List Stimulus) :
    hearing link stopped (stimuli ++ more) =
      Hearing.follow link (run link stopped stimuli).1 (hearing link stopped stimuli) more :=
  Hearing.follow_append ..

/-- What becomes of the reports of a session. The stimuli being arbitrary, this holds at every
moment of a run, and of each of its sessions while it lasts and until the next one begins. -/
structure FirstReport (link : LinkSettings) (stopped : Bool) (stimuli : List Stimulus) :
    Prop where
  /-- Forwarding comes to the report that was made before all others. -/
  error : ∀ cause, (hearing link stopped stimuli).returned = some (.error cause) →
    (hearing link stopped stimuli).first? = some cause
  ok : (hearing link stopped stimuli).returned = some (.ok ()) → stopped = true ∨ .stop ∈ stimuli
  once : ((hearing link stopped stimuli).reports.map Prod.fst).Nodup
  kinds : ∀ entry ∈ (hearing link stopped stimuli).reports,
    entry.2.kind = .transport ∨ entry.2.kind = .protocolViolation
  retryable : ∀ cause, (hearing link stopped stimuli).returned = some (.error cause) →
    (cause.kind = .transport ∨ cause.kind = .protocolViolation) ∧ cause.isRetryable = true
  reported_iff : ∀ session, (run link stopped stimuli).1.phase = .forwarding session →
    ∀ loop, loop ∈ (hearing link stopped stimuli).reports.map Prod.fst ↔
      session.runs loop = false
  found : ∀ session, (run link stopped stimuli).1.phase = .forwarding session →
    session.error? = (hearing link stopped stimuli).first?
  never_silent : ∀ session, (run link stopped stimuli).1.phase = .forwarding session →
    ¬(session.slot.pending = none ∧ session.uplink = .ended ∧ session.downlink = .ended)
  /-- After the first report the slot turns all others down and stays as it is. -/
  dropped : ∀ session, (run link stopped stimuli).1.phase = .forwarding session →
    (hearing link stopped stimuli).reports ≠ [] → ∀ fault,
      session.slot.report fault = (false, session.slot)
  returns : ∀ session, (run link stopped stimuli).1.phase = .forwarding session →
    stopped = false → .stop ∉ stimuli → ∀ loop, session.runs loop = false →
      ∃ cause, (hearing link stopped stimuli).first? = some cause ∧ ∀ stopFirst,
        (hearing link stopped (stimuli ++ [.wake stopFirst])).returned = some (.error cause)

/-- Whatever the loops do and whenever the supervisor looks: a session fails with the first report
that is made in it, and with nothing else. -/
theorem run_first_report (link : LinkSettings) (stopped : Bool) (stimuli : List Stimulus) :
    FirstReport link stopped stimuli := by
  have hsuits := suits_hearing link stopped stimuli
  have hstopped := stopped_run link stopped stimuli
  have hproper := hsuits.proper
  exact
    { error := fun _ ↦ hsuits.error
      ok := fun hok ↦ hstopped.1 (hsuits.ok hok)
      once := hproper.once
      kinds := hproper.kinds
      retryable := by
        intro cause hreturned
        obtain ⟨loop, hmem⟩ := Hearing.exists_mem_of_first (hsuits.error hreturned)
        have hkind := hproper.kinds _ hmem
        exact ⟨hkind, Fault.isRetryable_of_kind hkind⟩
      reported_iff := fun session hphase ↦ (hsuits.forwarding hphase).2.2.ended
      found := fun session hphase ↦ (hsuits.forwarding hphase).2.2.error?
      never_silent := by
        rintro session hphase ⟨hpending, huplink, -⟩
        have hheard := (hsuits.forwarding hphase).2.2
        have hfirst : (hearing link stopped stimuli).first? = none := by
          rw [← hpending, hheard.slot]
        have hruns := hheard.runs hfirst .uplink
        rw [Session.runs_uplink_eq_false_iff.2 huplink] at hruns
        cases hruns
      dropped := fun session hphase hreports ↦ (hsuits.forwarding hphase).2.2.dropped hreports
      returns := by
        intro session hphase hnever hstop loop hended
        have hheard := (hsuits.forwarding hphase).2.2
        have hrunning := stopped_run_eq_false link hnever hstop
        obtain ⟨cause, hfirst⟩ := hheard.exists_first hended
        refine ⟨cause, hfirst, fun stopFirst ↦ ?_⟩
        rw [hearing_append]
        exact hsuits.returns hphase hrunning hfirst stopFirst }

/-- The device fails after the host hung up, before anybody looks. -/
example :
    let stimuli := [.wake true, .wake true, .answer (.ok ()), .answer (.ok ()),
      .greeting (.took 1000), .greeting .flushed, .answer (.ok ()), .answer (.ok ()),
      .downlink (.octets []), .uplink (.frameFailed "gone"), .wake true]
    (hearing {} false stimuli).reports.map Prod.fst = [.downlink, .uplink] ∧
      (hearing {} false stimuli).returned =
        some (.error ⟨.transport, "host closed the connection"⟩) := by
  decide +kernel

end Tunnel

end AttestedUplink
