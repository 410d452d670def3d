import AttestedUplink.Measurement.Cache
import Mathlib.Data.List.Basic
import Mathlib.Data.List.Induction
import Mathlib.Logic.Relation

/-!
# Families of handles

Handles that are connected by cloning are a family, and a family has one cache. A handle sees what
was stored last through any handle of its family, wherever in the history the clones were made, and
nothing of what is stored through others.
-/

namespace AttestedUplink.MeasurementCaches

/-! ### Histories -/

namespace Operation

/-- The handle that an operation is done with. -/
def handle? : Operation → Option ℕ
  | .create => none
  | .clone handle => some handle
  | .store handle _ => some handle

def makesHandle : Operation → Bool
  | .create => true
  | .clone _ => true
  | .store _ _ => false

end Operation

/-- How many handles there are after some operations. They are numbered as they are made. -/
def handleCount (operations : List Operation) : ℕ := operations.countP Operation.makesHandle

/-- Every operation is done with a handle that is there by then. -/
inductive Valid : List Operation → Prop
  | nil : Valid []
  | concat {operations : List Operation} {operation : Operation} (hvalid : Valid operations)
    (hhandle : ∀ handle, operation.handle? = some handle → handle < handleCount operations) :
    Valid (operations ++ [operation])

def after (operations : List Operation) : MeasurementCaches := operations.foldl perform empty

/-- One handle was made as a clone of another. -/
def Cloned (operations : List Operation) (parent child : ℕ) : Prop :=
  ∃ before later, operations = before ++ .clone parent :: later ∧ child = handleCount before

/-- The handles are of one family: cloning connects them, in whatever direction and over however
many others. -/
def Kin (operations : List Operation) : ℕ → ℕ → Prop := Relation.EqvGen (Cloned operations)

/-- The set is what was stored last through the handles in question. -/
def LastStored (Through : ℕ → Prop) (operations : List Operation) (set : MeasurementSet) : Prop :=
  ∃ before handle later, operations = before ++ .store handle set :: later ∧ Through handle ∧
    ∀ other newer, .store other newer ∈ later → ¬Through other

variable {caches : MeasurementCaches} {operations : List Operation} {operation : Operation}
  {handle other i j cell : ℕ} {set : MeasurementSet}

/-! ### Handles and cells -/

/-- The place of the cell that a handle refers to. -/
def cell? (caches : MeasurementCaches) (handle : ℕ) : Option ℕ :=
  caches.handles[handle]?.map Fin.val

def content? (caches : MeasurementCaches) (cell : ℕ) : Option MeasurementSet :=
  caches.cells[cell]?.join

theorem get?_eq_bind (caches : MeasurementCaches) (handle : ℕ) :
    caches.get? handle = (caches.cell? handle).bind caches.content? := by
  unfold get? cell? content?
  cases caches.handles[handle]? with
  | none => rfl
  | some cell => simp

theorem exists_cell? (h : handle < caches.handles.size) : ∃ cell, caches.cell? handle = some cell :=
  ⟨caches.handles[handle], by rw [cell?, Array.getElem?_eq_getElem h, Option.map_some]⟩

theorem lt_size_of_cell? (h : caches.cell? handle = some cell) : cell < caches.cells.size := by
  obtain ⟨place, -, rfl⟩ := Option.map_eq_some_iff.1 h
  exact place.isLt

/-- All handles at once see what each of them sees. -/
theorem views_eq_map (caches : MeasurementCaches) :
    caches.views = (List.range caches.handles.size).map caches.get? := by
  apply List.ext_getElem
  · simp [views]
  · intro handle hviews hrange
    have hlt : handle < caches.handles.size := by simpa using hrange
    simp [views, get?, hlt]

theorem size_create (caches : MeasurementCaches) :
    caches.create.handles.size = caches.handles.size + 1 := by
  simp [create]

theorem size_clone (h : handle < caches.handles.size) :
    (caches.clone handle).handles.size = caches.handles.size + 1 := by
  rw [clone, Array.getElem?_eq_getElem h]
  exact Array.size_push ..

theorem size_store (caches : MeasurementCaches) (handle : ℕ) (set : MeasurementSet) :
    (caches.store handle set).handles.size = caches.handles.size := by
  unfold store
  split <;> simp

theorem cell?_create (caches : MeasurementCaches) (handle : ℕ) :
    caches.create.cell? handle =
      if handle = caches.handles.size then some caches.cells.size else caches.cell? handle := by
  unfold create cell?
  simp only [Array.getElem?_push, Array.size_map, Array.getElem?_map]
  split
  · rfl
  · simp [Option.map_map, Function.comp_def]

theorem cell?_clone (h : handle < caches.handles.size) (other : ℕ) :
    (caches.clone handle).cell? other =
      if other = caches.handles.size then caches.cell? handle else caches.cell? other := by
  unfold clone cell?
  rw [Array.getElem?_eq_getElem h]
  simp only [Array.getElem?_push]
  split <;> rfl

theorem cell?_store (caches : MeasurementCaches) (handle : ℕ) (set : MeasurementSet) (other : ℕ) :
    (caches.store handle set).cell? other = caches.cell? other := by
  unfold store cell?
  split
  · simp [Option.map_map, Function.comp_def]
  · rfl

theorem content?_create (caches : MeasurementCaches) (cell : ℕ) :
    caches.create.content? cell = caches.content? cell := by
  unfold create content?
  simp only [Array.getElem?_push]
  split
  · rename_i hnew
    simp [hnew]
  · rfl

theorem content?_clone (caches : MeasurementCaches) (handle cell : ℕ) :
    (caches.clone handle).content? cell = caches.content? cell := by
  unfold clone
  split <;> rfl

theorem content?_store (caches : MeasurementCaches) (handle : ℕ) (set : MeasurementSet)
    (cell : ℕ) : (caches.store handle set).content? cell =
      if caches.cell? handle = some cell then some set else caches.content? cell := by
  unfold store content? cell?
  cases caches.handles[handle]? with
  | none => simp
  | some place =>
    simp only [Array.getElem?_set, Option.map_some, Option.some_inj]
    split <;> simp

theorem get?_store_of_ne (h : caches.cell? other ≠ caches.cell? handle) (set : MeasurementSet) :
    (caches.store handle set).get? other = caches.get? other := by
  rw [get?_eq_bind, get?_eq_bind, cell?_store]
  cases hother : caches.cell? other with
  | none => rfl
  | some cell =>
    rw [hother] at h
    simp only [Option.bind_some, content?_store, if_neg h.symm]

/-! ### One more operation -/

theorem append_cons_eq_concat_iff {α : Type} {before later items : List α} {item last : α} :
    items ++ [last] = before ++ item :: later ↔
      (later = [] ∧ before = items ∧ item = last) ∨
        ∃ rest, later = rest ++ [last] ∧ items = before ++ item :: rest := by
  constructor
  · intro h
    rcases List.eq_nil_or_concat' later with rfl | ⟨rest, end', rfl⟩
    · obtain ⟨hbefore, hitem⟩ := List.append_inj' h rfl
      exact .inl ⟨rfl, hbefore.symm, (List.singleton_inj.1 hitem).symm⟩
    · rw [← List.cons_append, ← List.append_assoc] at h
      obtain ⟨hitems, hlast⟩ := List.append_inj' h rfl
      exact .inr ⟨rest, by rw [List.singleton_inj.1 hlast], hitems⟩
  · rintro (⟨rfl, rfl, rfl⟩ | ⟨rest, rfl, rfl⟩)
    · rfl
    · simp

theorem after_concat (operations : List Operation) (operation : Operation) :
    after (operations ++ [operation]) = (after operations).perform operation :=
  List.foldl_concat ..

theorem handleCount_concat (operations : List Operation) (operation : Operation) :
    handleCount (operations ++ [operation]) =
      handleCount operations + if operation.makesHandle then 1 else 0 := by
  rw [handleCount, List.countP_append, List.countP_singleton]
  rfl

theorem not_cloned_nil : ¬Cloned [] i j := by
  rintro ⟨before, later, heq, -⟩
  exact List.append_ne_nil_of_right_ne_nil before (List.cons_ne_nil _ later) heq.symm

theorem cloned_concat_iff :
    Cloned (operations ++ [operation]) i j ↔
      Cloned operations i j ∨ (operation = .clone i ∧ j = handleCount operations) := by
  simp only [Cloned, append_cons_eq_concat_iff]
  constructor
  · rintro ⟨before, later, ⟨rfl, rfl, rfl⟩ | ⟨rest, rfl, rfl⟩, rfl⟩
    · exact .inr ⟨rfl, rfl⟩
    · exact .inl ⟨before, rest, rfl, rfl⟩
  · rintro (⟨before, later, rfl, rfl⟩ | ⟨rfl, rfl⟩)
    · exact ⟨before, later ++ [operation], .inr ⟨later, rfl, rfl⟩, rfl⟩
    · exact ⟨operations, [], .inl ⟨rfl, rfl, rfl⟩, rfl⟩

theorem Kin.concat (h : Kin operations i j) (operation : Operation) :
    Kin (operations ++ [operation]) i j :=
  h.mono (fun _ _ hcloned ↦ cloned_concat_iff.2 (.inl hcloned))

theorem lastStored_concat_iff {Through : ℕ → Prop} :
    LastStored Through (operations ++ [operation]) set ↔
      (∃ handle, operation = .store handle set ∧ Through handle) ∨
        (∀ handle newer, operation = .store handle newer → ¬Through handle) ∧
          LastStored Through operations set := by
  simp only [LastStored, append_cons_eq_concat_iff]
  constructor
  · rintro ⟨before, handle, later, ⟨rfl, rfl, rfl⟩ | ⟨rest, rfl, rfl⟩, hthrough, hlast⟩
    · exact .inl ⟨handle, rfl, hthrough⟩
    · refine .inr ⟨fun other newer heq ↦ ?_, before, handle, rest, rfl, hthrough, ?_⟩
      · exact hlast other newer (by simp [heq])
      · exact fun other newer hmem ↦ hlast other newer (List.mem_append_left _ hmem)
  · rintro (⟨handle, rfl, hthrough⟩ | ⟨hnew, before, handle, later, rfl, hthrough, hlast⟩)
    · exact ⟨operations, handle, [], .inl ⟨rfl, rfl, rfl⟩, hthrough, nofun⟩
    · refine ⟨before, handle, later ++ [operation], .inr ⟨later, rfl, rfl⟩, hthrough, ?_⟩
      intro other newer hmem
      rcases List.mem_append.1 hmem with hold | heq
      · exact hlast other newer hold
      · exact hnew other newer (List.mem_singleton.1 heq).symm

theorem lastStored_congr {Through Through' : ℕ → Prop}
    (h : ∀ handle newer, .store handle newer ∈ operations → (Through handle ↔ Through' handle)) :
    LastStored Through operations set ↔ LastStored Through' operations set := by
  have himp {P Q : ℕ → Prop}
      (hsame : ∀ handle newer, .store handle newer ∈ operations → (P handle ↔ Q handle)) :
      LastStored P operations set → LastStored Q operations set := by
    rintro ⟨before, handle, later, rfl, hthrough, hlast⟩
    refine ⟨before, handle, later, rfl, (hsame handle set (by simp)).1 hthrough, ?_⟩
    intro other newer hmem hother
    exact hlast other newer hmem ((hsame other newer (by simp [hmem])).2 hother)
  exact ⟨himp h, himp fun handle newer hmem ↦ (h handle newer hmem).symm⟩

/-- Something was stored last if anything was stored. -/
theorem exists_lastStored_iff {Through : ℕ → Prop} :
    (∃ set, LastStored Through operations set) ↔
      ∃ handle set, .store handle set ∈ operations ∧ Through handle := by
  constructor
  · rintro ⟨set, before, handle, later, rfl, hthrough, -⟩
    exact ⟨handle, set, by simp, hthrough⟩
  · induction operations using List.reverseRecOn with
    | nil => rintro ⟨handle, set, hmem, -⟩; cases hmem
    | append_singleton operations operation ih =>
      rintro ⟨handle, set, hmem, hthrough⟩
      by_cases hnew : ∃ via newer, operation = .store via newer ∧ Through via
      · obtain ⟨via, newer, heq, hvia⟩ := hnew
        exact ⟨newer, lastStored_concat_iff.2 (.inl ⟨via, heq, hvia⟩)⟩
      · have hold : .store handle set ∈ operations := by
          rcases List.mem_append.1 hmem with hold | heq
          · exact hold
          · exact absurd ⟨handle, set, (List.mem_singleton.1 heq).symm, hthrough⟩ hnew
        obtain ⟨last, hlast⟩ := ih ⟨handle, set, hold, hthrough⟩
        refine ⟨last, lastStored_concat_iff.2 (.inr ⟨fun via newer heq hvia ↦ ?_, hlast⟩)⟩
        exact hnew ⟨via, newer, heq, hvia⟩

/-! ### Valid histories -/

theorem Valid.size_after (h : Valid operations) :
    (after operations).handles.size = handleCount operations := by
  induction h with
  | nil => rfl
  | @concat operations operation hvalid hhandle ih =>
    rw [after_concat, handleCount_concat]
    cases operation with
    | create =>
      rw [perform, size_create, ih]
      rfl
    | clone handle =>
      rw [perform, size_clone (ih ▸ hhandle handle rfl), ih]
      rfl
    | store handle set =>
      rw [perform, size_store, ih]
      rfl

theorem Valid.store_lt (h : Valid operations) (hmem : .store handle set ∈ operations) :
    handle < handleCount operations := by
  induction h with
  | nil => cases hmem
  | @concat operations operation hvalid hhandle ih =>
    rw [handleCount_concat]
    rcases List.mem_append.1 hmem with hold | heq
    · exact Nat.lt_add_right _ (ih hold)
    · obtain rfl := List.mem_singleton.1 heq
      exact Nat.lt_add_right _ (hhandle handle rfl)

theorem Valid.cloned_lt (h : Valid operations) (hcloned : Cloned operations i j) :
    i < handleCount operations ∧ j < handleCount operations := by
  induction h with
  | nil => exact absurd hcloned not_cloned_nil
  | @concat operations operation hvalid hhandle ih =>
    rw [handleCount_concat]
    rcases cloned_concat_iff.1 hcloned with hold | ⟨rfl, rfl⟩
    · exact ⟨Nat.lt_add_right _ (ih hold).1, Nat.lt_add_right _ (ih hold).2⟩
    · exact ⟨Nat.lt_add_right _ (hhandle i rfl), Nat.lt_succ_self _⟩

/-- A handle refers to the same cell for ever. -/
theorem Valid.cell?_perform (h : Valid operations)
    (hhandle : ∀ handle, operation.handle? = some handle → handle < handleCount operations)
    (hi : i < handleCount operations) :
    ((after operations).perform operation).cell? i = (after operations).cell? i := by
  rw [← h.size_after] at hi
  cases operation with
  | create => rw [perform, cell?_create, if_neg (Nat.ne_of_lt hi)]
  | clone handle =>
    rw [perform, cell?_clone (h.size_after ▸ hhandle handle rfl), if_neg (Nat.ne_of_lt hi)]
  | store handle set => exact cell?_store ..

/-! ### Families and cells -/

theorem Valid.cell?_of_cloned (h : Valid operations) (hcloned : Cloned operations i j) :
    (after operations).cell? i = (after operations).cell? j := by
  induction h with
  | nil => exact absurd hcloned not_cloned_nil
  | @concat operations operation hvalid hhandle ih =>
    rw [after_concat]
    rcases cloned_concat_iff.1 hcloned with hold | ⟨rfl, rfl⟩
    · obtain ⟨hi, hj⟩ := hvalid.cloned_lt hold
      rw [hvalid.cell?_perform hhandle hi, hvalid.cell?_perform hhandle hj, ih hold]
    · have hi := hhandle i rfl
      rw [hvalid.cell?_perform hhandle hi, perform, cell?_clone (hvalid.size_after ▸ hi),
        if_pos hvalid.size_after.symm]

theorem Valid.cell?_of_kin (h : Valid operations) (hkin : Kin operations i j) :
    (after operations).cell? i = (after operations).cell? j := by
  induction hkin with
  | rel i j hcloned => exact h.cell?_of_cloned hcloned
  | refl i => rfl
  | symm i j _ ih => exact ih.symm
  | trans i j k _ _ ih ih' => exact ih.trans ih'

/-- After a clone every handle is connected to one that was there before and has its cell. -/
theorem Valid.exists_origin (h : Valid operations) (hhandle : handle < handleCount operations)
    (hi : i < handleCount operations + 1) :
    ∃ origin < handleCount operations, Kin (operations ++ [.clone handle]) origin i ∧
      ((after operations).clone handle).cell? i = (after operations).cell? origin := by
  have hsize := h.size_after
  rcases Nat.lt_succ_iff_lt_or_eq.1 hi with hold | rfl
  · refine ⟨i, hold, .refl i, ?_⟩
    rw [cell?_clone (hsize ▸ hhandle), if_neg (Nat.ne_of_lt (hsize ▸ hold))]
  · refine ⟨handle, hhandle, .rel _ _ (cloned_concat_iff.2 (.inr ⟨rfl, rfl⟩)), ?_⟩
    rw [cell?_clone (hsize ▸ hhandle), if_pos hsize.symm]

/-- A new cell is the cell of no handle that was there before. -/
theorem cell?_create_ne (hold : i < caches.handles.size) :
    caches.create.cell? i ≠ caches.create.cell? caches.handles.size := by
  rw [cell?_create, cell?_create, if_neg (Nat.ne_of_lt hold), if_pos rfl]
  intro hcell
  exact Nat.lt_irrefl _ (lt_size_of_cell? hcell)

/-- Handles that have the same cell are of one family. -/
theorem Valid.kin_of_cell? (h : Valid operations) (hi : i < handleCount operations)
    (hj : j < handleCount operations)
    (hcell : (after operations).cell? i = (after operations).cell? j) : Kin operations i j := by
  induction h generalizing i j with
  | nil => cases hi
  | @concat operations operation hvalid hhandle ih =>
    rw [handleCount_concat] at hi hj
    rw [after_concat] at hcell
    cases operation with
    | create =>
      have hsize := hvalid.size_after
      rcases Nat.lt_succ_iff_lt_or_eq.1 hi with hi | rfl <;>
        rcases Nat.lt_succ_iff_lt_or_eq.1 hj with hj | rfl
      · rw [hvalid.cell?_perform hhandle hi, hvalid.cell?_perform hhandle hj] at hcell
        exact (ih hi hj hcell).concat _
      · rw [← hsize] at hi hcell
        exact absurd hcell (cell?_create_ne hi)
      · rw [← hsize] at hj hcell
        exact absurd hcell.symm (cell?_create_ne hj)
      · exact .refl _
    | clone handle =>
      obtain ⟨origin, horigin, hkin, hsame⟩ := hvalid.exists_origin (hhandle handle rfl) hi
      obtain ⟨origin', horigin', hkin', hsame'⟩ := hvalid.exists_origin (hhandle handle rfl) hj
      rw [perform, hsame, hsame'] at hcell
      have hbetween := (ih horigin horigin' hcell).concat (.clone handle)
      exact (hkin.symm.trans _ _ _ hbetween).trans _ _ _ hkin'
    | store handle set =>
      rw [perform, cell?_store, cell?_store] at hcell
      exact (ih hi hj hcell).concat _

theorem Valid.kin_iff (h : Valid operations) (hi : i < handleCount operations)
    (hj : j < handleCount operations) :
    Kin operations i j ↔ (after operations).cell? i = (after operations).cell? j :=
  ⟨h.cell?_of_kin, h.kin_of_cell? hi hj⟩

/-! ### What is seen -/

/-- A cell holds what was stored last through the handles that refer to it. -/
theorem Valid.content?_eq_some_iff (h : Valid operations) (cell : ℕ) (set : MeasurementSet) :
    (after operations).content? cell = some set ↔
      LastStored (fun handle ↦ (after operations).cell? handle = some cell) operations set := by
  induction h generalizing set with
  | nil =>
    constructor
    · intro hcontent
      cases hcontent
    · rintro ⟨before, handle, later, heq, -⟩
      simp at heq
  | @concat operations operation hvalid hhandle ih =>
    have hsame : ∀ handle newer, .store handle newer ∈ operations →
        ((after (operations ++ [operation])).cell? handle = some cell ↔
          (after operations).cell? handle = some cell) := by
      intro handle newer hmem
      rw [after_concat, hvalid.cell?_perform hhandle (hvalid.store_lt hmem)]
    rw [lastStored_concat_iff, lastStored_congr hsame, ← ih, after_concat]
    cases operation with
    | create => simp [perform, content?_create]
    | clone handle => simp [perform, content?_clone]
    | store handle newer =>
      simp only [perform, content?_store, cell?_store]
      by_cases hcell : (after operations).cell? handle = some cell <;> simp [hcell]

theorem Valid.get?_eq_some_iff (h : Valid operations) (hhandle : handle < handleCount operations) :
    (after operations).get? handle = some set ↔
      LastStored (Kin operations handle) operations set := by
  obtain ⟨cell, hcell⟩ := exists_cell? (h.size_after.symm ▸ hhandle)
  rw [get?_eq_bind, hcell, Option.bind_some, h.content?_eq_some_iff]
  apply lastStored_congr
  intro other newer hmem
  rw [h.kin_iff hhandle (h.store_lt hmem), hcell, eq_comm]

/-- A handle sees what was stored last through its family, and nothing as long as nothing was. What
is stored through a handle of another family changes nothing for it. -/
theorem shared_by_family (h : Valid operations) :
    (after operations).views = (List.range (handleCount operations)).map (after operations).get? ∧
      ∀ handle < handleCount operations,
        (∀ set, (after operations).get? handle = some set ↔
          LastStored (Kin operations handle) operations set) ∧
        ((after operations).get? handle = none ↔
          ∀ other set, .store other set ∈ operations → ¬Kin operations handle other) ∧
        ∀ other < handleCount operations, ¬Kin operations handle other →
          ∀ set, (after (operations ++ [.store other set])).get? handle =
            (after operations).get? handle := by
  rw [views_eq_map, h.size_after]
  refine ⟨rfl, fun handle hhandle ↦ ⟨fun set ↦ h.get?_eq_some_iff hhandle, ?_, ?_⟩⟩
  · have hstored : (∃ set, LastStored (Kin operations handle) operations set) ↔
        ∃ other set, .store other set ∈ operations ∧ Kin operations handle other :=
      exists_lastStored_iff
    simp only [← h.get?_eq_some_iff hhandle, ← Option.isSome_iff_exists] at hstored
    rw [← Option.not_isSome_iff_eq_none, hstored]
    simp only [not_exists, not_and]
  · intro other hother hkin set
    rw [h.kin_iff hhandle hother] at hkin
    rw [after_concat]
    exact get?_store_of_ne hkin set

/-- Two caches, and a store through a clone of the first handle between two clones. -/
def twoFamilies : List Operation :=
  [.create, .create, .clone 0, .store 2 (.ofList [(0, [7])]), .clone 0]

theorem valid_twoFamilies : Valid twoFamilies := by
  have hvalid : Valid ([] ++ [.create] ++ [.create] ++ [.clone 0] ++
      [.store 2 (.ofList [(0, [7])])] ++ [.clone 0]) := by
    refine .concat (.concat (.concat (.concat (.concat .nil ?_) ?_) ?_) ?_) ?_
    all_goals
      rintro handle h
      cases h
    all_goals decide
  exact hvalid

theorem lastStored_twoFamilies :
    LastStored (Kin twoFamilies 3) twoFamilies (.ofList [(0, [7])]) := by
  have hthird : Cloned twoFamilies 0 3 :=
    ⟨[.create, .create, .clone 0, .store 2 (.ofList [(0, [7])])], [], rfl, rfl⟩
  have hsecond : Cloned twoFamilies 0 2 :=
    ⟨[.create, .create], [.store 2 (.ofList [(0, [7])]), .clone 0], rfl, rfl⟩
  refine ⟨[.create, .create, .clone 0], 2, [.clone 0], rfl, ?_, by simp⟩
  exact (Relation.EqvGen.rel _ _ hthird).symm.trans _ _ _ (.rel _ _ hsecond)

/-- The clone that is made after the store sees it, and the other cache does not. -/
theorem shared_by_family_twoFamilies :
    Valid twoFamilies ∧ (after twoFamilies).get? 3 = some (.ofList [(0, [7])]) ∧
      ∀ other set, .store other set ∈ twoFamilies → ¬Kin twoFamilies 1 other := by
  obtain ⟨-, hseen⟩ := shared_by_family valid_twoFamilies
  obtain ⟨hlast, -⟩ := hseen 3 (by decide)
  obtain ⟨-, hnothing, -⟩ := hseen 1 (by decide)
  have hfirst : (after twoFamilies).get? 1 = none := by decide +kernel
  exact ⟨valid_twoFamilies, (hlast _).2 lastStored_twoFamilies, hnothing.1 hfirst⟩

end AttestedUplink.MeasurementCaches
