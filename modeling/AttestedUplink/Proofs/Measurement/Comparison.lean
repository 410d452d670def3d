import AttestedUplink.Measurement.Set
import Mathlib.Data.List.Destutter
import Mathlib.Data.List.Induction
import Mathlib.Data.List.Sort

/-!
# Comparing measurement sets

Two sets are compared in two ways: by their sizes and the values of one of them, and by the list of
the registers in which they differ. Both are put down to the view `MeasurementSet.get?`.
-/

namespace AttestedUplink.MeasurementSet

variable {a b : MeasurementSet} {index : Nat}

/-! ### The view -/

theorem lookup_eq_some_iff_mem {entries : List (Nat × Bytes)} {value : Bytes}
    (h : (entries.map Prod.fst).Pairwise (· < ·)) :
    entries.lookup index = some value ↔ (index, value) ∈ entries := by
  induction entries with
  | nil => simp
  | cons entry rest ih =>
    obtain ⟨i, v⟩ := entry
    simp only [List.map_cons, List.pairwise_cons] at h
    by_cases hi : index = i
    · subst hi
      have hrest : (index, value) ∉ rest := fun hmem ↦
        Nat.lt_irrefl index (h.1 index (List.mem_map.2 ⟨_, hmem, rfl⟩))
      simp [hrest, eq_comm]
    · simp [List.lookup_cons, beq_false_of_ne hi, hi, ih h.2]

theorem get?_eq_some_iff {value : Bytes} : a.get? index = some value ↔ (index, value) ∈ a.entries :=
  lookup_eq_some_iff_mem a.ascending

theorem mem_indices_iff : index ∈ a.indices ↔ a.get? index ≠ none := by
  simp only [indices, List.mem_map, Option.ne_none_iff_exists', get?_eq_some_iff]
  constructor
  · rintro ⟨⟨i, value⟩, hmem, rfl⟩
    exact ⟨value, hmem⟩
  · rintro ⟨value, hmem⟩
    exact ⟨(index, value), hmem, rfl⟩

theorem nodup_indices (a : MeasurementSet) : a.indices.Nodup :=
  a.ascending.imp Nat.ne_of_lt

/-- A set is given by its indices and the view. -/
theorem entries_eq_map (a : MeasurementSet) :
    a.entries = a.indices.map fun index ↦ (index, (a.get? index).getD []) := by
  rw [indices, List.map_map]
  refine (List.map_id _).symm.trans (List.map_congr_left ?_)
  rintro ⟨index, value⟩ hmem
  simp only [id_eq, Function.comp_apply, get?_eq_some_iff.2 hmem, Option.getD_some]

theorem ext_get? (h : ∀ index, a.get? index = b.get? index) : a = b := by
  have hindices : a.indices = b.indices := by
    have hmem (index : Nat) : index ∈ a.indices ↔ index ∈ b.indices := by
      rw [mem_indices_iff, mem_indices_iff, h index]
    exact List.Pairwise.eq_of_mem_iff a.ascending b.ascending hmem
  have hentries : a.entries = b.entries := by
    rw [entries_eq_map a, entries_eq_map b, hindices]
    simp only [h]
  cases a
  cases b
  cases hentries
  rfl

/-! ### Sets from lists -/

/-- The value that a list gives last for a register. -/
def Latest (entries : List (Nat × Bytes)) (index : Nat) (value : Bytes) : Prop :=
  ∃ before after, entries = before ++ (index, value) :: after ∧ index ∉ after.map Prod.fst

theorem latest_concat_iff {entries : List (Nat × Bytes)} {i : Nat} {v value : Bytes} :
    Latest (entries ++ [(i, v)]) index value ↔
      if index = i then v = value else Latest entries index value := by
  constructor
  · rintro ⟨before, after, hentries, hafter⟩
    rcases List.eq_nil_or_concat' after with rfl | ⟨after, last, rfl⟩
    · obtain ⟨-, hlast⟩ := List.append_inj' hentries rfl
      cases hlast
      rw [if_pos rfl]
    · rw [← List.cons_append, ← List.append_assoc] at hentries
      obtain ⟨rfl, hlast⟩ := List.append_inj' hentries rfl
      cases hlast
      rw [List.map_append, List.mem_append, not_or, List.map_singleton,
        List.mem_singleton] at hafter
      rw [if_neg hafter.2]
      exact ⟨before, after, rfl, hafter.1⟩
  · split
    · rename_i hindex
      rintro rfl
      exact ⟨entries, [], by rw [hindex], List.not_mem_nil⟩
    · rename_i hindex
      rintro ⟨before, after, rfl, hafter⟩
      refine ⟨before, after ++ [(i, v)], by simp, ?_⟩
      rw [List.map_append, List.mem_append, not_or]
      exact ⟨hafter, by simpa using hindex⟩

theorem ofList_concat (entries : List (Nat × Bytes)) (i : Nat) (value : Bytes) :
    ofList (entries ++ [(i, value)]) = (ofList entries).insert i value :=
  List.foldl_append

theorem get?_ofList_eq_some_iff {entries : List (Nat × Bytes)} {value : Bytes} :
    (ofList entries).get? index = some value ↔ Latest entries index value := by
  induction entries using List.reverseRecOn with
  | nil =>
    constructor
    · nofun
    · rintro ⟨before, after, hentries, -⟩
      simp at hentries
  | append_singleton entries entry ih =>
    obtain ⟨i, v⟩ := entry
    rw [ofList_concat, get?_insert, latest_concat_iff, ← ih]
    split
    · exact Option.some_inj
    · rfl

theorem latest_entries_iff {value : Bytes} :
    Latest a.entries index value ↔ (index, value) ∈ a.entries := by
  constructor
  · rintro ⟨before, after, hentries, -⟩
    rw [hentries]
    exact List.mem_append_right before List.mem_cons_self
  · intro hmem
    obtain ⟨before, after, hentries⟩ := List.append_of_mem hmem
    refine ⟨before, after, hentries, fun hafter ↦ ?_⟩
    have hnodup := a.nodup_indices
    rw [indices, hentries, List.map_append, List.map_cons] at hnodup
    exact (List.nodup_cons.1 hnodup.of_append_right).1 hafter

theorem get?_eq_get?_iff :
    a.get? index = b.get? index ↔ ∀ value, a.get? index = some value ↔ b.get? index = some value :=
  Option.ext_iff

/-- A set is the set that its own list gives. -/
theorem ofList_entries (a : MeasurementSet) : ofList a.entries = a := by
  refine ext_get? fun index ↦ get?_eq_get?_iff.2 fun value ↦ ?_
  rw [get?_ofList_eq_some_iff, latest_entries_iff, get?_eq_some_iff]

/-! ### Agreement -/

theorem agrees_eq_true_iff : a.agrees b = true ↔ ∀ index, a.get? index = b.get? index := by
  simp only [agrees, Bool.and_eq_true, decide_eq_true_eq, List.all_eq_true]
  constructor
  · rintro ⟨hsize, hvalues⟩
    have hsubset : a.indices ⊆ b.indices := by
      intro index hindex
      obtain ⟨⟨i, value⟩, hmem, rfl⟩ := List.mem_map.1 hindex
      rw [mem_indices_iff, hvalues _ hmem]
      exact Option.some_ne_none value
    have hlength : b.indices.length ≤ a.indices.length := by
      simp only [indices, List.length_map]
      exact hsize.ge
    -- as many indices, all of them among those of the other set: they are the same
    have hperm := (List.subperm_of_subset a.nodup_indices hsubset).perm_of_length_le hlength
    intro index
    cases hvalue : a.get? index with
    | some value => exact (hvalues _ (get?_eq_some_iff.1 hvalue)).symm
    | none =>
      have hnot : index ∉ b.indices := fun hmem ↦
        mem_indices_iff.1 (hperm.mem_iff.2 hmem) hvalue
      exact (not_not.1 (mt mem_indices_iff.2 hnot)).symm
  · intro h
    obtain rfl := ext_get? h
    exact ⟨rfl, fun ⟨index, value⟩ hmem ↦ get?_eq_some_iff.2 hmem⟩

/-! ### Differences -/

theorem mem_mergeIndices {is js : List Nat} :
    index ∈ mergeIndices is js ↔ index ∈ is ∨ index ∈ js := by
  fun_induction mergeIndices is js with
  | case1 js => simp
  | case2 is => simp
  | case3 i is j js hlt ih => simp only [List.mem_cons, ih, or_assoc]
  | case4 i is j js hle hlt ih => simp only [List.mem_cons, ih, or_left_comm]
  | case5 i is j js hle hge ih =>
    obtain rfl : i = j := by omega
    simp only [List.mem_cons, ih]
    tauto

theorem ascending_mergeIndices {is js : List Nat} (his : is.Pairwise (· < ·))
    (hjs : js.Pairwise (· < ·)) : (mergeIndices is js).Pairwise (· < ·) := by
  fun_induction mergeIndices is js with
  | case1 js => exact hjs
  | case2 is => exact his
  | case3 i is j js hlt ih =>
    refine List.pairwise_cons.2 ⟨fun k hk ↦ ?_, ih his.of_cons hjs⟩
    rcases mem_mergeIndices.1 hk with hk | hk
    · exact List.rel_of_pairwise_cons his hk
    · rcases List.mem_cons.1 hk with rfl | hk
      · exact hlt
      · exact hlt.trans (List.rel_of_pairwise_cons hjs hk)
  | case4 i is j js hle hlt ih =>
    refine List.pairwise_cons.2 ⟨fun k hk ↦ ?_, ih his hjs.of_cons⟩
    rcases mem_mergeIndices.1 hk with hk | hk
    · rcases List.mem_cons.1 hk with rfl | hk
      · exact hlt
      · exact hlt.trans (List.rel_of_pairwise_cons his hk)
    · exact List.rel_of_pairwise_cons hjs hk
  | case5 i is j js hle hge ih =>
    refine List.pairwise_cons.2 ⟨fun k hk ↦ ?_, ih his.of_cons hjs.of_cons⟩
    rcases mem_mergeIndices.1 hk with hk | hk
    · exact List.rel_of_pairwise_cons his hk
    · have hjk := List.rel_of_pairwise_cons hjs hk
      omega

theorem mem_differing_iff : index ∈ a.differing b ↔ a.get? index ≠ b.get? index := by
  simp only [differing, List.mem_filter, mem_mergeIndices, mem_indices_iff, decide_eq_true_eq,
    and_iff_right_iff_imp]
  intro hne
  by_contra hnone
  simp only [not_or, not_not] at hnone
  exact hne (hnone.1.trans hnone.2.symm)

theorem ascending_differing (a b : MeasurementSet) : (a.differing b).Pairwise (· < ·) :=
  (ascending_mergeIndices a.ascending b.ascending).filter _

theorem differing_eq_nil_iff : a.differing b = [] ↔ ∀ index, a.get? index = b.get? index := by
  simp only [List.eq_nil_iff_forall_not_mem, mem_differing_iff, not_not]

/-- No other ascending list has the same registers. -/
theorem differing_eq_iff {differing : List Nat} :
    a.differing b = differing ↔ differing.Pairwise (· < ·) ∧
      ∀ index, index ∈ differing ↔ a.get? index ≠ b.get? index := by
  constructor
  · rintro rfl
    exact ⟨ascending_differing a b, fun _ ↦ mem_differing_iff⟩
  · rintro ⟨hascending, hmem⟩
    refine (ascending_differing a b).eq_of_mem_iff hascending fun index ↦ ?_
    rw [mem_differing_iff, hmem]

/-! ### The two ways together -/

/-- The registers of one set and then of the other in which the sets differ, sorted, and those that
stand next to themselves named once. -/
def gathered (a b : MeasurementSet) : List Nat :=
  ((a.indices ++ b.indices).filter fun i ↦ a.get? i ≠ b.get? i).mergeSort.destutter (· ≠ ·)

theorem ascending_dedup {is : List Nat} (h : is.Pairwise (· ≤ ·)) :
    is.dedup.Pairwise (· < ·) := by
  have hle : is.dedup.Pairwise (· ≤ ·) := h.sublist is.dedup_sublist
  have hne : is.dedup.Pairwise (· ≠ ·) := is.nodup_dedup
  exact (hle.and hne).imp fun hij ↦ Nat.lt_of_le_of_ne hij.1 hij.2

theorem differing_eq_gathered (a b : MeasurementSet) : a.differing b = a.gathered b := by
  rw [differing_eq_iff, gathered, (List.pairwise_mergeSort' (· ≤ ·) _).destutter_eq_dedup]
  constructor
  · apply ascending_dedup
    exact List.pairwise_mergeSort' (· ≤ ·) _
  · intro index
    rw [List.mem_dedup, List.mem_mergeSort, List.mem_filter, List.mem_append, decide_eq_true_eq]
    apply and_iff_right_of_imp
    intro hdiffer
    rw [← mem_mergeIndices]
    exact List.mem_of_mem_filter (mem_differing_iff.2 hdiffer)

theorem differing_comm (a b : MeasurementSet) : a.differing b = b.differing a := by
  rw [differing_eq_iff]
  exact ⟨ascending_differing b a, fun index ↦ mem_differing_iff.trans ne_comm⟩

/-- Sets agree in size and in the values of one of them exactly if they are the same, and exactly if
there is no register in which they differ; the registers in which they differ are named in order and
once, whichever set comes first. Of sets that are given as lists the last value of each register
counts. -/
theorem comparison_laws :
    Equivalence (fun a b : MeasurementSet ↦ a.agrees b = true) ∧
    (∀ a b : MeasurementSet,
      (a.agrees b = true ↔ ∀ index, a.get? index = b.get? index) ∧
      (a.agrees b = true ↔ a = b) ∧
      (a.differing b).Pairwise (· < ·) ∧
      (∀ index, index ∈ a.differing b ↔ a.get? index ≠ b.get? index) ∧
      a.differing b = a.gathered b ∧
      a.differing b = b.differing a ∧
      (a.differing b = [] ↔ a.agrees b = true)) ∧
    (∀ xs ys : List (Nat × Bytes),
      ((ofList xs).agrees (ofList ys) = true ↔
        ∀ index value, Latest xs index value ↔ Latest ys index value) ∧
      ∀ index, index ∈ (ofList xs).differing (ofList ys) ↔
        ¬∀ value, Latest xs index value ↔ Latest ys index value) := by
  have hsame (a b : MeasurementSet) : a.agrees b = true ↔ a = b := by
    rw [agrees_eq_true_iff]
    exact ⟨ext_get?, fun h index ↦ congrArg (get? · index) h⟩
  refine ⟨?_, ?_, ?_⟩
  · simp only [hsame]
    exact eq_equivalence
  · intro a b
    refine ⟨agrees_eq_true_iff, hsame a b, ascending_differing a b, fun _ ↦ mem_differing_iff,
      differing_eq_gathered a b, differing_comm a b, ?_⟩
    rw [differing_eq_nil_iff, agrees_eq_true_iff]
  · intro xs ys
    simp only [agrees_eq_true_iff, mem_differing_iff, ne_eq, get?_eq_get?_iff,
      get?_ofList_eq_some_iff, implies_true, and_self]

end AttestedUplink.MeasurementSet
