import AttestedUplink.Proofs.Tunnel.Moves
import AttestedUplink.Proofs.Tunnel.Lifecycle

/-!
# Who owns what

An observer of the events keeps an inventory of the devices and streams that are alive, each by the
number of the attempt that obtained it. Nothing of an earlier attempt is ever in it, and nothing at
all whenever no attempt is under way. The two loops live in the phase in which frames are forwarded.
-/

namespace AttestedUplink.Tunnel

/-! ### The inventory -/

/-- The number of the latest attempt, and the attempts whose device or stream is alive. -/
structure Inventory where
  attempt : Nat := 0
  alive : Resource → List Nat := fun _ ↦ []

namespace Inventory

def set (inventory : Inventory) (resource : Resource) (owners : List Nat) : Inventory :=
  { inventory with alive := fun other ↦ if other = resource then owners else inventory.alive other }

@[simp] theorem alive_set_self (inventory : Inventory) (resource : Resource) (owners : List Nat) :
    (inventory.set resource owners).alive resource = owners :=
  if_pos rfl

theorem alive_set_of_ne (inventory : Inventory) {resource other : Resource}
    (h : other ≠ resource) (owners : List Nat) :
    (inventory.set resource owners).alive other = inventory.alive other :=
  if_neg h

/-- An attempt begins when the device is asked for. It obtains for itself, and gives up its own. -/
def see (inventory : Inventory) : Event → Inventory
  | .called (.createDevice _) => { inventory with attempt := inventory.attempt + 1 }
  | .acquired resource =>
    inventory.set resource (inventory.alive resource ++ [inventory.attempt])
  | .released resource =>
    inventory.set resource ((inventory.alive resource).erase inventory.attempt)
  | _ => inventory

/-- The inventory after some events. -/
def after (events : List Event) : Inventory := events.foldl see {}

def Vacant (inventory : Inventory) : Prop := ∀ resource, inventory.alive resource = []

/-- Nothing is alive but at most one device and one stream of the latest attempt. -/
def Single (inventory : Inventory) : Prop :=
  ∀ resource, inventory.alive resource = [] ∨ inventory.alive resource = [inventory.attempt]

/-- What has to be alive, and what must not be, when an event occurs. -/
def Fits (inventory : Inventory) : Event → Prop
  | .called (.createDevice _) => inventory.Vacant
  | .entered .idle | .entered .failed | .entered .closing => inventory.Vacant
  | .acquired resource => inventory.alive resource = []
  | .released resource => inventory.alive resource = [inventory.attempt]
  | _ => True

/-- Every event fits the inventory at its moment. -/
def Admits : Inventory → List Event → Prop
  | _, [] => True
  | inventory, event :: events => inventory.Fits event ∧ (inventory.see event).Admits events

/-- The latest attempt holds what its phase holds, and no other attempt anything. -/
def Reflects (inventory : Inventory) (phase : Phase) : Prop :=
  ∀ resource, inventory.alive resource = if phase.holds resource then [inventory.attempt] else []

variable {inventory : Inventory} {events : List Event} {phase : Phase}

theorem admits_append {first second : List Event} :
    inventory.Admits (first ++ second) ↔
      inventory.Admits first ∧ (first.foldl see inventory).Admits second := by
  induction first generalizing inventory with
  | nil => simp [Admits]
  | cons event first ih => simp only [List.cons_append, Admits, ih, List.foldl_cons, and_assoc]

theorem Admits.fits {before after : List Event} {event : Event}
    (h : inventory.Admits (before ++ event :: after)) :
    (before.foldl see inventory).Fits event :=
  (admits_append.1 h).2.1

theorem Single.see (h : inventory.Single) {event : Event} (hfits : inventory.Fits event) :
    (inventory.see event).Single := by
  intro resource
  unfold Inventory.see
  split
  · exact .inl (hfits resource)
  · rename_i acquired
    have hnone : inventory.alive acquired = [] := hfits
    by_cases hsame : resource = acquired
    · simp [set, hsame, hnone]
    · simpa [set, hsame] using h resource
  · rename_i released
    have hown : inventory.alive released = [inventory.attempt] := hfits
    by_cases hsame : resource = released
    · simp [set, hsame, hown]
    · simpa [set, hsame] using h resource
  · exact h resource

theorem Admits.single (h : inventory.Admits events) (hsingle : inventory.Single) :
    (events.foldl Inventory.see inventory).Single := by
  induction events generalizing inventory with
  | nil => exact hsingle
  | cons event events ih => exact ih h.2 (hsingle.see h.1)

/-! ### One move -/

theorem Reflects.vacant (h : inventory.Reflects phase)
    (hnone : ∀ resource, phase.holds resource = false) : inventory.Vacant := by
  intro resource
  rw [h resource, hnone resource]
  rfl

theorem Vacant.reflects (h : inventory.Vacant)
    (hnone : ∀ resource, phase.holds resource = false) : inventory.Reflects phase := by
  intro resource
  rw [h resource, hnone resource]
  rfl

/-- Octets and frames that pass leave the inventory alone. -/
theorem admits_map {α : Type} (inventory : Inventory) (event : α → Event)
    (hfits : ∀ item, inventory.Fits (event item))
    (hsee : ∀ item, inventory.see (event item) = inventory) (items : List α) :
    inventory.Admits (items.map event) ∧ (items.map event).foldl see inventory = inventory := by
  induction items with
  | nil => exact ⟨trivial, rfl⟩
  | cons item items ih =>
    rw [List.map_cons, Admits, List.foldl_cons, hsee]
    exact ⟨⟨hfits item, ih.1⟩, ih.2⟩

/-- The latest attempt owns exactly the given resources, and no other attempt anything. -/
def Owns (inventory : Inventory) (held : Resource → Bool) : Prop :=
  ∀ resource, inventory.alive resource = if held resource then [inventory.attempt] else []

variable {held : Resource → Bool} {resource : Resource}

theorem Owns.acquire (h : inventory.Owns held) (hnot : held resource = false) :
    inventory.Fits (.acquired resource) ∧
      (inventory.see (.acquired resource)).Owns (Function.update held resource true) := by
  have hnone : inventory.alive resource = [] := by
    rw [h resource, hnot]
    rfl
  refine ⟨hnone, fun other ↦ ?_⟩
  rw [see]
  by_cases hsame : other = resource
  · rw [hsame, alive_set_self, hnone, Function.update_self]
    rfl
  · rw [alive_set_of_ne _ hsame, h other, Function.update_of_ne hsame]
    rfl

theorem Owns.release (h : inventory.Owns held) (hheld : held resource = true) :
    inventory.Fits (.released resource) ∧
      (inventory.see (.released resource)).Owns (Function.update held resource false) := by
  have hown : inventory.alive resource = [inventory.attempt] := by
    rw [h resource, hheld]
    rfl
  refine ⟨hown, fun other ↦ ?_⟩
  rw [see]
  by_cases hsame : other = resource
  · rw [hsame, alive_set_self, hown, List.erase_cons_head, Function.update_self]
    rfl
  · rw [alive_set_of_ne _ hsame, h other, Function.update_of_ne hsame]
    rfl

/-- All that is owned can be given up piece by piece. The induction is on what is left of it. -/
theorem Owns.releases {resources : List Resource} (h : inventory.Owns held)
    (hnodup : resources.Nodup) (hall : ∀ resource, resource ∈ resources ↔ held resource = true) :
    inventory.Admits (resources.map .released) ∧
      ((resources.map Event.released).foldl see inventory).Vacant := by
  induction resources generalizing inventory held with
  | nil =>
    refine ⟨trivial, fun resource ↦ ?_⟩
    have hnone : ¬held resource = true := fun hheld ↦ List.not_mem_nil ((hall resource).2 hheld)
    exact (h resource).trans (if_neg hnone)
  | cons resource resources ih =>
    obtain ⟨hnotMem, hnodup'⟩ := List.nodup_cons.1 hnodup
    obtain ⟨hfits, hrest⟩ := h.release ((hall resource).1 List.mem_cons_self)
    have hleft (other : Resource) :
        other ∈ resources ↔ Function.update held resource false other = true := by
      by_cases hsame : other = resource
      · rw [hsame, Function.update_self]
        exact iff_of_false hnotMem nofun
      · rw [Function.update_of_ne hsame, ← hall other, List.mem_cons, or_iff_right hsame]
    obtain ⟨hadmits, hvacant⟩ := ih hrest hnodup' hleft
    exact ⟨⟨hfits, hadmits⟩, hvacant⟩

/-- What a phase holds can be given up, and then nothing is left. -/
theorem Reflects.releases (h : inventory.Reflects phase) :
    inventory.Admits phase.releases ∧ (phase.releases.foldl see inventory).Vacant := by
  have howns : inventory.Owns phase.holds := h
  apply howns.releases
  · exact List.Pairwise.filter _ (by decide)
  · intro resource
    cases resource with
    | device => simp
    | stream => simp

/-- What a phase holds less than the next one is obtained in between. -/
theorem Reflects.acquire {next : Phase} (h : inventory.Reflects phase)
    (hnot : phase.holds resource = false)
    (hnext : ∀ other, next.holds other = Function.update phase.holds resource true other) :
    inventory.Fits (.acquired resource) ∧ (inventory.see (.acquired resource)).Reflects next := by
  have howns : inventory.Owns phase.holds := h
  obtain ⟨hfits, hafter⟩ := howns.acquire hnot
  refine ⟨hfits, fun other ↦ ?_⟩
  rw [hafter other, hnext other]

theorem Reflects.acquireDevice (h : inventory.Reflects (.establishing .creating)) :
    inventory.Fits (.acquired .device) ∧
      (inventory.see (.acquired .device)).Reflects (.establishing .dialing) := by
  apply h.acquire rfl
  intro other
  cases other with
  | device => rfl
  | stream => rfl

theorem Reflects.acquireStream (h : inventory.Reflects (.establishing .dialing))
    (writer : StreamWriter) :
    inventory.Fits (.acquired .stream) ∧
      (inventory.see (.acquired .stream)).Reflects (.establishing (.greeting writer)) := by
  apply h.acquire rfl
  intro other
  cases other with
  | device => rfl
  | stream => rfl

theorem Reflects.progress {link : LinkSettings} {stage next : Stage} {stimulus : Stimulus}
    (h : inventory.Reflects (.establishing stage))
    (hprogress : Progress link stage stimulus next events) :
    inventory.Admits events ∧
      (events.foldl see inventory).Reflects (.establishing next) := by
  cases hprogress with
  | create =>
    have hvacant : inventory.Vacant := h.vacant fun _ ↦ rfl
    exact ⟨⟨hvacant, trivial⟩, fun resource ↦ hvacant resource⟩
  | dial =>
    obtain ⟨hfits, hnext⟩ := h.acquireDevice
    exact ⟨⟨hfits, trivial, trivial⟩, hnext⟩
  | @greet writer =>
    obtain ⟨hfits, hnext⟩ := h.acquireStream writer
    exact ⟨⟨hfits, trivial⟩, hnext⟩
  | write => exact ⟨⟨trivial, trivial⟩, h⟩
  | configure => exact ⟨⟨trivial, trivial, trivial⟩, h⟩
  | linkUp => exact ⟨⟨trivial, trivial⟩, h⟩

theorem Reflects.failure {link : LinkSettings} {stimulus : Stimulus} {cause : Fault}
    (h : inventory.Reflects phase) (hfailure : Failure link phase stimulus cause events) :
    inventory.Admits events ∧ (events.foldl see inventory).Vacant := by
  cases hfailure with
  | call => exact h.releases
  | request =>
    -- the stream is obtained and given up at once
    obtain ⟨hfits, hnext⟩ := h.acquireStream .flushing
    obtain ⟨hadmits, hvacant⟩ := hnext.releases
    exact ⟨⟨hfits, hadmits⟩, hvacant⟩
  | greeting =>
    obtain ⟨hadmits, hvacant⟩ := h.releases
    exact ⟨⟨trivial, hadmits⟩, hvacant⟩
  | loops => exact h.releases

/-- What one move preserves. -/
theorem Reflects.move {link : LinkSettings} {state next : State} {stimulus : Stimulus}
    (h : inventory.Reflects state.phase) (hmove : Move link state stimulus next events) :
    inventory.Admits events ∧ (events.foldl see inventory).Reflects next.phase := by
  cases hmove with
  | stop | elapse | stay => exact ⟨trivial, h⟩
  | close =>
    obtain ⟨hreleases, hvacant⟩ := h.releases
    rw [admits_append, List.foldl_append]
    exact ⟨⟨hreleases, hvacant, trivial⟩, hvacant.reflects fun _ ↦ rfl⟩
  | establish hphase =>
    rw [hphase] at h
    exact ⟨⟨trivial, trivial⟩, h⟩
  | progress hphase hstop hprogress =>
    rw [hphase] at h
    exact h.progress hprogress
  | forward hphase =>
    rw [hphase] at h
    exact ⟨⟨trivial, trivial⟩, h⟩
  | uplink hphase =>
    rw [hphase] at h
    obtain ⟨hadmits, hsame⟩ :=
      admits_map inventory Event.sent (fun _ ↦ trivial) (fun _ ↦ rfl) _
    exact ⟨hadmits, hsame.symm ▸ h⟩
  | downlink hphase =>
    rw [hphase] at h
    obtain ⟨hadmits, hsame⟩ :=
      admits_map inventory Event.delivered (fun _ ↦ trivial) (fun _ ↦ rfl) _
    exact ⟨hadmits, hsame.symm ▸ h⟩
  | fail hphase hfailure =>
    rw [hphase] at h
    obtain ⟨hadmits, hvacant⟩ := h.failure hfailure
    rw [admits_append, List.foldl_append]
    exact ⟨⟨hadmits, hvacant, trivial, trivial⟩, hvacant.reflects fun _ ↦ rfl⟩
  | retry hphase =>
    rw [hphase] at h
    exact ⟨⟨h.vacant fun _ ↦ rfl, trivial⟩, h⟩
  | finish hphase =>
    rw [hphase] at h
    exact ⟨⟨trivial, trivial⟩, h⟩

end Inventory

/-! ### The loops -/

inductive Loop
  | uplink
  | downlink
  deriving Repr, DecidableEq

def Session.runs (session : Session) : Loop → Bool
  | .uplink => session.uplink ≠ .ended
  | .downlink => session.downlink ≠ .ended

/-- The loops that run in a phase. -/
def Phase.loops : Phase → List Loop
  | .forwarding session => [.uplink, .downlink].filter session.runs
  | _ => []

variable {link : LinkSettings} {state next : State} {stimulus : Stimulus} {events : List Event}

theorem Phase.loops_eq_nil {phase : Phase} (h : phase.status ≠ .forwarding) : phase.loops = [] := by
  cases phase with
  | forwarding => exact absurd rfl h
  | _ => rfl

theorem Phase.loops_sublist (phase : Phase) : phase.loops.Sublist [.uplink, .downlink] := by
  cases phase with
  | forwarding => exact List.filter_sublist
  | _ => exact List.nil_sublist _

/-- A loop that has ended does not run again. -/
theorem Session.runs_moveUplink {session : Session} {codec : Frame.Codec} {input : UplinkInput}
    {loop : Loop} (h : (session.moveUplink codec input).1.runs loop = true) :
    session.runs loop = true := by
  cases loop with
  | downlink => exact h
  | uplink =>
    by_contra hended
    have huplink : session.uplink = .ended := by simpa [runs] using hended
    simp [moveUplink, runs, huplink, Uplink.step] at h

theorem Session.runs_moveDownlink {session : Session} {codec : Frame.Codec} {input : DownlinkInput}
    {loop : Loop} (h : (session.moveDownlink codec input).1.runs loop = true) :
    session.runs loop = true := by
  cases loop with
  | uplink => exact h
  | downlink =>
    by_contra hended
    have hdownlink : session.downlink = .ended := by simpa [runs] using hended
    simp [moveDownlink, runs, hdownlink, Downlink.step] at h

/-- Two loops start when frames begin to be forwarded; otherwise loops only end. -/
theorem Move.loops (h : Move link state stimulus next events) :
    .forwarding ∈ statuses events ∧ state.phase.loops = [] ∧
        next.phase.loops = [.uplink, .downlink] ∨
      .forwarding ∉ statuses events ∧ next.phase.loops.Sublist state.phase.loops := by
  have hpublished := h.published
  have hother (hstatus : next.phase.status ≠ .forwarding) :
      .forwarding ∉ statuses events ∧ next.phase.loops.Sublist state.phase.loops := by
    rw [Phase.loops_eq_nil hstatus]
    refine ⟨?_, List.nil_sublist _⟩
    rcases hpublished with ⟨hnone, -⟩ | ⟨hone, -⟩
    · simp [hnone]
    · simpa [hone] using hstatus.symm
  cases h with
  | stop | elapse | stay => exact .inr ⟨nofun, .refl _⟩
  | close | establish | progress | fail | retry | finish => exact .inr (hother nofun)
  | forward hphase =>
    refine .inl ⟨List.mem_singleton_self _, ?_, rfl⟩
    rw [hphase]
    rfl
  | uplink hphase =>
    refine .inr ⟨?_, ?_⟩
    · rw [Session.moveUplink, statuses, filterMap_map_eq_nil fun _ ↦ rfl]
      exact List.not_mem_nil
    · rw [hphase]
      exact List.monotone_filter_right _ fun _ ↦ Session.runs_moveUplink
  | downlink hphase =>
    refine .inr ⟨?_, ?_⟩
    · rw [Session.moveDownlink, statuses, filterMap_map_eq_nil fun _ ↦ rfl]
      exact List.not_mem_nil
    · rw [hphase]
      exact List.monotone_filter_right _ fun _ ↦ Session.runs_moveDownlink

/-! ### Whole runs -/

/-- The events fit the inventory one by one, and at their end it reflects the phase. -/
theorem reflects_run (link : LinkSettings) (stopped : Bool) (stimuli : List Stimulus) :
    ({} : Inventory).Admits (run link stopped stimuli).2 ∧
      (Inventory.after (run link stopped stimuli).2).Reflects
        (run link stopped stimuli).1.phase := by
  have hstart : ({} : Inventory).Admits (State.start link stopped).2 ∧
      (Inventory.after (State.start link stopped).2).Reflects
        (State.start link stopped).1.phase := by
    unfold State.start
    split
    · exact ⟨⟨fun _ ↦ rfl, trivial⟩, fun _ ↦ rfl⟩
    · exact ⟨⟨trivial, trivial⟩, fun _ ↦ rfl⟩
  have hmove (state : State) (events : List Event) (stimulus : Stimulus) (next : State)
      (more : List Event) : ({} : Inventory).Admits events ∧
        (Inventory.after events).Reflects state.phase →
      Move link state stimulus next more → ({} : Inventory).Admits (events ++ more) ∧
        (Inventory.after (events ++ more)).Reflects next.phase := by
    rintro ⟨hadmits, hreflects⟩ hmove
    obtain ⟨hmore, hnext⟩ := hreflects.move hmove
    rw [Inventory.admits_append, Inventory.after, List.foldl_append]
    exact ⟨⟨hadmits, hmore⟩, hnext⟩
  exact State.run_preserves hmove stimuli _ _ hstart

/-- Who owns what in the life of a supervisor. The stimuli being arbitrary, what is said of the
state at their end holds at every moment, and what is said of a part of the events holds also amid
those of one step. -/
structure Exclusive (link : LinkSettings) (stopped : Bool) (stimuli : List Stimulus) : Prop where
  single : ∀ before, before <+: (run link stopped stimuli).2 → (Inventory.after before).Single
  vacant : ∀ before status later,
    (run link stopped stimuli).2 = before ++ .entered status :: later →
      status = .idle ∨ status = .failed ∨ status = .closing → (Inventory.after before).Vacant
  renewed : ∀ before name later,
    (run link stopped stimuli).2 = before ++ .called (.createDevice name) :: later →
      (Inventory.after before).Vacant
  backoff : ∀ deadline, (run link stopped stimuli).1.phase = .failed deadline →
    (Inventory.after (run link stopped stimuli).2).Vacant ∧
      (run link stopped stimuli).1.phase.loops = []
  loops : (run link stopped stimuli).1.phase.loops.Sublist [.uplink, .downlink]
  /-- Loops run on the device and the stream of their own attempt. -/
  loops_owned : (run link stopped stimuli).1.phase.loops ≠ [] →
    ∀ resource, (Inventory.after (run link stopped stimuli).2).alive resource =
      [(Inventory.after (run link stopped stimuli).2).attempt]
  /-- No loop runs after any other state was published than that frames are forwarded. -/
  loops_gone : ∀ status, (statuses (run link stopped stimuli).2).getLast? = some status →
    status ≠ .forwarding → (run link stopped stimuli).1.phase.loops = []
  /-- Two loops start with each session, and none at any other time. -/
  loops_started : ∀ stimulus,
    if .forwarding ∈ statuses ((run link stopped stimuli).1.step link stimulus).2 then
      (run link stopped stimuli).1.phase.loops = [] ∧
        ((run link stopped stimuli).1.step link stimulus).1.phase.loops = [.uplink, .downlink]
    else
      ((run link stopped stimuli).1.step link stimulus).1.phase.loops.Sublist
        (run link stopped stimuli).1.phase.loops

theorem statuses_run_of_invalid {cause : Fault} (hinvalid : link.validate = .error cause)
    (stopped : Bool) (stimuli : List Stimulus) : statuses (run link stopped stimuli).2 = [] := by
  have hstart : State.start link stopped =
      ({ phase := .finished (.error cause), stopped }, [.finished (.error cause)]) := by
    simp only [State.start, hinvalid]
  have hfinished : (State.start link stopped).1.phase = .finished (.error cause) := by rw [hstart]
  have hquiet := (@State.run_finished link _ _ hfinished stimuli).2
  simp only [run, hquiet, List.append_nil]
  rw [hstart]
  rfl

theorem status_of_last {status : Status} {stopped : Bool} {stimuli : List Stimulus}
    (h : (statuses (run link stopped stimuli).2).getLast? = some status) :
    (run link stopped stimuli).1.phase.status = status := by
  cases hvalid : link.validate with
  | ok =>
    have hlast := (orderly_run hvalid stopped stimuli).last
    exact Option.some.inj (hlast.symm.trans h)
  | error cause =>
    rw [statuses_run_of_invalid hvalid] at h
    cases h

/-- At every moment of any run there are at most one device, one stream and two loops, all of the
latest attempt, and none of them outlives it. -/
theorem run_exclusive (link : LinkSettings) (stopped : Bool) (stimuli : List Stimulus) :
    Exclusive link stopped stimuli := by
  obtain ⟨hadmits, hreflects⟩ := reflects_run link stopped stimuli
  have hempty : ({} : Inventory).Single := fun _ ↦ .inl rfl
  exact
    { single := by
        rintro before ⟨later, hsplit⟩
        rw [← hsplit, Inventory.admits_append] at hadmits
        exact hadmits.1.single hempty
      vacant := by
        intro before status later hsplit hstatus
        rw [hsplit] at hadmits
        rcases hstatus with rfl | rfl | rfl <;> exact hadmits.fits
      renewed := by
        intro before name later hsplit
        rw [hsplit] at hadmits
        exact hadmits.fits
      backoff := by
        intro deadline hphase
        rw [hphase] at hreflects ⊢
        exact ⟨hreflects.vacant fun _ ↦ rfl, rfl⟩
      loops := Phase.loops_sublist _
      loops_owned := by
        intro hloops resource
        have hholds : (run link stopped stimuli).1.phase.holds resource = true := by
          cases hphase : (run link stopped stimuli).1.phase with
          | forwarding => rfl
          | _ => simp [hphase, Phase.loops] at hloops
        rw [hreflects resource, if_pos hholds]
      loops_gone := by
        intro status hlast hstatus
        exact Phase.loops_eq_nil (status_of_last hlast ▸ hstatus)
      loops_started := by
        intro stimulus
        rcases (State.step_move stimulus).loops with ⟨hstarted, hloops⟩ | ⟨hnone, hloops⟩
        · rw [if_pos hstarted]
          exact hloops
        · rw [if_neg hnone]
          exact hloops }

end AttestedUplink.Tunnel
