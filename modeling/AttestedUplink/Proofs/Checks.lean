/-!
# Checks in a row

A check that fails ends the row, so a row succeeds exactly when each of its checks does, and fails
with the first that does not.
-/

namespace AttestedUplink.Checks

variable {ε δ α β ι : Type}

theorem bind_eq_ok_iff {check : Except ε α} {next : α → Except ε β} {result : β} :
    check >>= next = .ok result ↔ ∃ value, check = .ok value ∧ next value = .ok result := by
  cases check with
  | error cause => simp [bind, Except.bind]
  | ok value => simp [bind, Except.bind]

theorem exists_eq_ok_and_iff {check : Except ε Unit} {p : Prop} :
    (∃ value, check = .ok value ∧ p) ↔ check = .ok () ∧ p :=
  ⟨fun ⟨_, h⟩ ↦ h, fun h ↦ ⟨(), h⟩⟩

theorem map_eq_ok_iff {check : Except ε α} {f : α → β} {result : β} :
    check.map f = .ok result ↔ ∃ value, check = .ok value ∧ f value = result := by
  cases check with
  | error cause => simp [Except.map]
  | ok value => simp [Except.map]

theorem mapError_eq_ok_iff {check : Except ε α} {wrap : ε → δ} {value : α} :
    check.mapError wrap = .ok value ↔ check = .ok value := by
  cases check with
  | error cause => exact ⟨nofun, nofun⟩
  | ok result =>
    constructor
    · intro h
      exact congrArg Except.ok (Except.ok.inj h)
    · intro h
      exact congrArg Except.ok (Except.ok.inj h)

theorem bind_eq_error_iff {check : Except ε α} {next : α → Except ε β} {cause : ε} :
    check >>= next = .error cause ↔
      check = .error cause ∨ ∃ value, check = .ok value ∧ next value = .error cause := by
  cases check with
  | error cause => simp [bind, Except.bind]
  | ok value => simp [bind, Except.bind]

theorem mapError_eq_error_iff {check : Except ε α} {wrap : ε → δ} {cause : δ} :
    check.mapError wrap = .error cause ↔ ∃ inner, check = .error inner ∧ wrap inner = cause := by
  cases check with
  | error inner =>
    constructor
    · intro h
      exact ⟨inner, rfl, Except.error.inj h⟩
    · rintro ⟨other, hother, rfl⟩
      obtain rfl := Except.error.inj hother
      rfl
  | ok value =>
    constructor
    · intro h
      cases h
    · rintro ⟨_, h, _⟩
      cases h

theorem exists_eq_error_iff {check : Except ε α} :
    (∃ cause, check = .error cause) ↔ ∀ value, check ≠ .ok value := by
  constructor
  · rintro ⟨cause, rfl⟩ value h
    cases h
  · intro h
    cases check with
    | error cause => exact ⟨cause, rfl⟩
    | ok value => exact absurd rfl (h value)

theorem pure_eq_ok_iff {value result : α} :
    (pure value : Except ε α) = .ok result ↔ value = result := by
  simp [pure, Except.pure]

theorem throw_ne_ok {cause : ε} {value : α} : (throw cause : Except ε α) ≠ .ok value :=
  nofun

/-- A check is made for its failure alone. -/
theorem exists_eq_ok_iff_bind {check : Except ε α} :
    (∃ value, check = .ok value) ↔ (check >>= fun _ ↦ pure ()) = .ok () := by
  cases check with
  | error cause => exact ⟨nofun, nofun⟩
  | ok value => exact ⟨fun _ ↦ rfl, fun _ ↦ ⟨value, rfl⟩⟩

theorem bind_pure_eq_error_iff {check : Except ε α} {result : β} {cause : ε} :
    (check >>= fun _ ↦ pure result) = .error cause ↔ check = .error cause := by
  cases check with
  | error cause' => simp [bind, Except.bind]
  | ok value => exact ⟨nofun, nofun⟩

/-! ### One condition -/

def require (p : Prop) [Decidable p] (cause : ε) : Except ε Unit :=
  if p then .ok () else .error cause

theorem require_eq_ok_iff {p : Prop} [Decidable p] {cause : ε} :
    require p cause = .ok () ↔ p := by
  simp [require]

theorem require_eq_error_iff {p : Prop} [Decidable p] {cause cause' : ε} :
    require p cause = .error cause' ↔ ¬p ∧ cause = cause' := by
  by_cases h : p <;> simp [require, h]

/-- A condition that has to hold for what comes next. -/
theorem require_bind {p : Prop} [Decidable p] {cause : ε} {next : Unit → Except ε β} :
    require p cause >>= next = if p then next () else .error cause := by
  by_cases h : p <;> simp [require, h, bind, Except.bind]

theorem throw_bind {cause : ε} {next : α → Except ε β} :
    (throw cause : Except ε α) >>= next = .error cause :=
  rfl

/-! ### One value that has to be there -/

theorem exists_elim_eq_ok_iff {value? : Option α} {cause : ε} :
    (∃ value, value?.elim (.error cause) .ok = Except.ok value) ↔ ∃ value, value? = some value := by
  cases value? with
  | none => exact ⟨nofun, nofun⟩
  | some value => exact ⟨fun _ ↦ ⟨value, rfl⟩, fun _ ↦ ⟨value, rfl⟩⟩

theorem elim_eq_ok_iff {value? : Option α} {cause : ε} {value : α} :
    value?.elim (.error cause) .ok = Except.ok value ↔ value? = some value := by
  cases value? with
  | none => simp
  | some other => simp

theorem elim_eq_error_iff {value? : Option α} {cause cause' : ε} :
    value?.elim (.error cause) .ok = Except.error cause' ↔ value? = none ∧ cause = cause' := by
  cases value? with
  | none => simp
  | some value => simp

theorem elim_of_forall_ne {value? : Option α} {cause : ε} (h : ∀ value, value? ≠ some value) :
    value?.elim (.error cause) .ok = (.error cause : Except ε α) := by
  rw [Option.eq_none_iff_forall_ne_some.2 h]
  rfl

/-! ### Rows -/

/-- The item is the first in the row that fails. -/
def IsFirst (Fails : ι → Prop) (items : List ι) (item : ι) : Prop :=
  ∃ before after, items = before ++ item :: after ∧ (∀ earlier ∈ before, ¬Fails earlier) ∧
    Fails item

theorem not_isFirst_nil {Fails : ι → Prop} {item : ι} : ¬IsFirst Fails [] item := by
  rintro ⟨before, after, h, -⟩
  cases before <;> cases h

theorem isFirst_cons_iff {Fails : ι → Prop} {head item : ι} {items : List ι} :
    IsFirst Fails (head :: items) item ↔
      (Fails head ∧ item = head) ∨ (¬Fails head ∧ IsFirst Fails items item) := by
  constructor
  · rintro ⟨before, after, hitems, hbefore, hitem⟩
    rcases List.cons_eq_append_iff.1 hitems with ⟨rfl, h⟩ | ⟨before', rfl, h⟩
    · cases h
      exact .inl ⟨hitem, rfl⟩
    · obtain ⟨hhead, hbefore'⟩ := List.forall_mem_cons.1 hbefore
      exact .inr ⟨hhead, before', after, h, hbefore', hitem⟩
  · rintro (⟨hhead, rfl⟩ | ⟨hhead, before, after, rfl, hbefore, hitem⟩)
    · exact ⟨[], items, rfl, nofun, hhead⟩
    · exact ⟨head :: before, after, rfl, List.forall_mem_cons.2 ⟨hhead, hbefore⟩, hitem⟩

theorem forM_eq_ok_iff {check : ι → Except ε Unit} {items : List ι} :
    forM items check = .ok () ↔ ∀ item ∈ items, check item = .ok () := by
  induction items with
  | nil => exact ⟨fun _ ↦ nofun, fun _ ↦ rfl⟩
  | cons head items ih =>
    rw [List.forM_cons, bind_eq_ok_iff, exists_eq_ok_and_iff, ih, List.forall_mem_cons]

/-- A row fails as the first of its checks that does. -/
theorem forM_eq_error_iff {check : ι → Except ε Unit} {items : List ι} {cause : ε} :
    forM items check = .error cause ↔
      ∃ item, IsFirst (check · ≠ .ok ()) items item ∧ check item = .error cause := by
  induction items with
  | nil =>
    constructor
    · intro h
      cases h
    · rintro ⟨item, hfirst, -⟩
      exact absurd hfirst not_isFirst_nil
  | cons head items ih =>
    rw [List.forM_cons, bind_eq_error_iff, exists_eq_ok_and_iff, ih]
    simp only [isFirst_cons_iff]
    constructor
    · rintro (hhead | ⟨hhead, item, hfirst, hitem⟩)
      · refine ⟨head, .inl ⟨?_, rfl⟩, hhead⟩
        rw [hhead]
        exact nofun
      · exact ⟨item, .inr ⟨not_not_intro hhead, hfirst⟩, hitem⟩
    · rintro ⟨item, ⟨-, rfl⟩ | ⟨hhead, hfirst⟩, hitem⟩
      · exact .inl hitem
      · exact .inr ⟨Classical.not_not.1 hhead, item, hfirst, hitem⟩

end AttestedUplink.Checks
