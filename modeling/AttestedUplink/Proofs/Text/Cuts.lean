import AttestedUplink.Text.Reading
import Mathlib.Data.List.Basic
import Mathlib.Data.List.Forall2

/-!
# Where texts are cut

A cut takes out its separator and loses nothing else. A text is cut at a character exactly where the
character does not occur before, or, from the other end, where it does not occur after. Cut at every
occurrence, it falls into parts without the character that give it back when they are put together.
-/

namespace AttestedUplink.Split

variable {sep : Char} {pattern before after cs : List Char} {parts : List (List Char)}

theorem cutFrom_cons_of_ne {c : Char} (hne : c ≠ sep) (passed : List Char) :
    cutFrom (sep :: pattern) passed (c :: cs) = cutFrom (sep :: pattern) (c :: passed) cs := by
  have hprefix : (sep :: pattern).isPrefixOf (c :: cs) = false := by
    simp [List.isPrefixOf, hne.symm]
  rw [cutFrom, hprefix]
  exact if_neg Bool.false_ne_true

/-- Characters with which the pattern does not start are passed. -/
theorem cutFrom_append (h : sep ∉ before) (passed : List Char) :
    cutFrom (sep :: pattern) passed (before ++ cs) =
      cutFrom (sep :: pattern) (before.reverse ++ passed) cs := by
  induction before generalizing passed with
  | nil => rfl
  | cons c before ih =>
    obtain ⟨hne, hrest⟩ := List.ne_and_not_mem_of_not_mem_cons h
    rw [List.cons_append, cutFrom_cons_of_ne hne.symm, ih hrest, List.reverse_cons,
      List.append_assoc]
    rfl

theorem first?_append (h : sep ∉ before) (after : List Char) :
    first? (sep :: pattern) (before ++ sep :: pattern ++ after) = some (before, after) := by
  have hprefix : (sep :: pattern).isPrefixOf (sep :: (pattern ++ after)) = true := by
    rw [List.isPrefixOf_iff_prefix]
    exact List.prefix_append (sep :: pattern) after
  rw [first?, List.append_assoc, cutFrom_append h, List.cons_append, cutFrom, if_pos hprefix]
  simp

theorem eq_append_of_cutFrom {passed : List Char}
    (h : cutFrom pattern passed cs = some (before, after)) :
    passed.reverse ++ cs = before ++ pattern ++ after := by
  fun_induction cutFrom pattern passed cs with
  | case1 passed hempty =>
    cases h
    rw [List.isEmpty_iff.1 hempty, List.append_nil, List.append_nil]
  | case2 => cases h
  | case3 passed c cs hprefix =>
    cases h
    obtain ⟨rest, hrest⟩ := List.isPrefixOf_iff_prefix.1 hprefix
    rw [← hrest, List.drop_left, List.append_assoc]
  | case4 passed c cs hprefix ih =>
    rw [← ih h, List.reverse_cons, List.append_assoc, List.singleton_append]

theorem eq_append_of_first? (h : first? pattern cs = some (before, after)) :
    cs = before ++ pattern ++ after :=
  eq_append_of_cutFrom h

/-! ### Cuts at a character -/

theorem first?_append_cons (h : sep ∉ before) (after : List Char) :
    first? [sep] (before ++ sep :: after) = some (before, after) := by
  have hcut : first? [sep] (before ++ [sep] ++ after) = some (before, after) :=
    first?_append h after
  rwa [List.append_assoc, List.singleton_append] at hcut

theorem first?_eq_none_iff : first? [sep] cs = none ↔ sep ∉ cs := by
  constructor
  · intro h hmem
    obtain ⟨before, after, rfl, hbefore⟩ := List.eq_append_cons_of_mem hmem
    rw [first?_append_cons hbefore after] at h
    cases h
  · intro h
    have hpassed : cutFrom [sep] [] (cs ++ []) = cutFrom [sep] (cs.reverse ++ []) [] :=
      cutFrom_append h []
    rw [List.append_nil] at hpassed
    exact hpassed

theorem first?_eq_some_iff :
    first? [sep] cs = some (before, after) ↔ cs = before ++ sep :: after ∧ sep ∉ before := by
  constructor
  · intro h
    have hmem : sep ∈ cs := by
      by_contra hmem
      rw [first?_eq_none_iff.2 hmem] at h
      cases h
    obtain ⟨front, rest, rfl, hfront⟩ := List.eq_append_cons_of_mem hmem
    rw [first?_append_cons hfront rest] at h
    cases h
    exact ⟨rfl, hfront⟩
  · rintro ⟨rfl, hbefore⟩
    exact first?_append_cons hbefore after

theorem last?_eq_some_iff :
    last? sep cs = some (before, after) ↔ cs = before ++ sep :: after ∧ sep ∉ after := by
  rw [last?, Option.map_eq_some_iff]
  constructor
  · rintro ⟨⟨front, rest⟩, hcut, heq⟩
    obtain ⟨hreverse, hfront⟩ := first?_eq_some_iff.1 hcut
    cases heq
    refine ⟨?_, List.mem_reverse.not.2 hfront⟩
    rw [← List.reverse_reverse cs, hreverse]
    simp
  · rintro ⟨rfl, hafter⟩
    refine ⟨(after.reverse, before.reverse), first?_eq_some_iff.2 ⟨?_, ?_⟩, ?_⟩
    · simp
    · exact List.mem_reverse.not.2 hafter
    · simp

/-! ### Cuts at every occurrence -/

theorem all_cons (sep c : Char) (cs : List Char) :
    all sep (c :: cs) =
      if c = sep then [] :: all sep cs else (all sep cs).modifyHead (c :: ·) := by
  simp only [all, List.splitOn_cons_eq_if_modifyHead, beq_iff_eq]

theorem not_mem_of_mem_all {part : List Char} (h : part ∈ all sep cs) : sep ∉ part := by
  induction cs generalizing part with
  | nil =>
    rw [all, List.splitOn_nil, List.mem_singleton] at h
    rw [h]
    exact List.not_mem_nil
  | cons c cs ih =>
    rw [all_cons] at h
    split at h
    · rcases List.mem_cons.1 h with rfl | hrest
      · exact List.not_mem_nil
      · exact ih hrest
    · rename_i hne
      have hcut : all sep cs ≠ [] := List.splitOn_ne_nil sep cs
      obtain ⟨first, rest, hall⟩ := List.exists_cons_of_ne_nil hcut
      rw [hall] at ih
      rw [hall, List.modifyHead_cons] at h
      rcases List.mem_cons.1 h with rfl | hrest
      · exact List.not_mem_cons_of_ne_of_not_mem (Ne.symm hne) (ih List.mem_cons_self)
      · exact ih (List.mem_cons_of_mem first hrest)

/-- The parts are those that hold no separator and make up the text with separators between them. -/
theorem all_eq_iff (hne : parts ≠ []) :
    all sep cs = parts ↔ cs = [sep].intercalate parts ∧ ∀ part ∈ parts, sep ∉ part := by
  constructor
  · rintro rfl
    exact ⟨(List.intercalate_splitOn sep).symm, fun _ ↦ not_mem_of_mem_all⟩
  · rintro ⟨rfl, hparts⟩
    exact List.splitOn_intercalate sep hparts hne

/-! ### Parts that are for something -/

section

variable {α : Type} {For : List Char → α → Prop} {values : List α} {c : Char}

theorem forall_not_mem_part (hfree : ∀ part value, For part value → c ∉ part)
    (hparts : List.Forall₂ For parts values) : ∀ part ∈ parts, c ∉ part :=
  ((List.forall₂_and_left parts values).1
    (hparts.imp fun part value h ↦ ⟨hfree part value h, h⟩)).1

/-- If no part can hold the separator, the parts are found by cutting. -/
theorem exists_parts_iff (hfree : ∀ part value, For part value → sep ∉ part) (hne : values ≠ []) :
    (∃ parts, cs = [sep].intercalate parts ∧ List.Forall₂ For parts values) ↔
      List.Forall₂ For (all sep cs) values := by
  constructor
  · rintro ⟨parts, hcs, hparts⟩
    have hnil : parts ≠ [] := by
      rintro rfl
      exact hne (List.forall₂_nil_left_iff.1 hparts)
    rwa [(all_eq_iff hnil).2 ⟨hcs, forall_not_mem_part hfree hparts⟩]
  · intro h
    exact ⟨all sep cs, (List.intercalate_splitOn sep).symm, h⟩

end

/-! ### Putting parts together -/

theorem not_mem_intercalate_iff {c : Char} (hne : c ≠ sep) :
    c ∉ [sep].intercalate parts ↔ ∀ part ∈ parts, c ∉ part := by
  induction parts with
  | nil => simp
  | cons part parts ih =>
    cases parts with
    | nil => simp
    | cons next parts =>
      simp only [List.intercalate_cons_cons, List.mem_append, List.mem_singleton, not_or, ih,
        List.forall_mem_cons, hne, not_false_eq_true, and_true]

theorem map_intercalate (f : Char → Char) (sep : Char) (parts : List (List Char)) :
    ([sep].intercalate parts).map f = [f sep].intercalate (parts.map (List.map f)) := by
  induction parts with
  | nil => rfl
  | cons part parts ih =>
    cases parts with
    | nil => simp
    | cons next parts =>
      simp only [List.intercalate_cons_cons, List.map_append, ih, List.map_cons, List.map_nil]

/-- A change of characters that neither makes nor hides a separator leaves the cuts where they
are. -/
theorem all_map {f : Char → Char} (hf : ∀ c, f c = sep ↔ c = sep) (cs : List Char) :
    all sep (cs.map f) = (all sep cs).map (List.map f) := by
  have hne : (all sep cs).map (List.map f) ≠ [] :=
    mt List.map_eq_nil_iff.1 (List.splitOn_ne_nil sep cs)
  have htext : cs = [sep].intercalate (all sep cs) := (List.intercalate_splitOn sep).symm
  rw [all_eq_iff hne]
  constructor
  · nth_rewrite 1 [htext]
    rw [map_intercalate, (hf sep).2 rfl]
  · intro part hpart hmem
    obtain ⟨before, hbefore, rfl⟩ := List.mem_map.1 hpart
    obtain ⟨c, hc, hsep⟩ := List.mem_map.1 hmem
    rw [hf] at hsep
    exact not_mem_of_mem_all hbefore (hsep ▸ hc)

end AttestedUplink.Split
