import AttestedUplink.Text.Reading

namespace AttestedUplink

/-!
# Measurements

The platform measures the software of an enclave into numbered registers. A measurement set gives
the value of every register that has one. It is kept as an ascending list, so that two sets with
the same values are equal, and `MeasurementSet.get?` is the view in which all operations are stated.
-/

/-- The values of registers by ascending number. -/
structure MeasurementSet where
  entries : List (Nat × Bytes)
  ascending : (entries.map Prod.fst).Pairwise (· < ·)
  deriving DecidableEq

namespace MeasurementSet

/-- Puts a value into an ascending list, in place of an earlier value of the same register. -/
def place (index : Nat) (value : Bytes) : List (Nat × Bytes) → List (Nat × Bytes)
  | [] => [(index, value)]
  | (i, v) :: rest =>
    if index < i then (index, value) :: (i, v) :: rest
    else if index = i then (index, value) :: rest
    else (i, v) :: place index value rest

theorem mem_map_place {index j : Nat} {value : Bytes} {entries : List (Nat × Bytes)} :
    j ∈ (place index value entries).map Prod.fst ↔ j = index ∨ j ∈ entries.map Prod.fst := by
  induction entries with
  | nil => simp [place]
  | cons e rest ih =>
    obtain ⟨i, v⟩ := e
    simp only [place]
    split
    · simp
    · split
      · rename_i h
        simp [h]
      · simp only [List.map_cons, List.mem_cons, ih, or_left_comm]

theorem ascending_place {index : Nat} {value : Bytes} {entries : List (Nat × Bytes)}
    (h : (entries.map Prod.fst).Pairwise (· < ·)) :
    ((place index value entries).map Prod.fst).Pairwise (· < ·) := by
  induction entries with
  | nil => simp [place]
  | cons e rest ih =>
    obtain ⟨i, v⟩ := e
    simp only [List.map_cons, List.pairwise_cons] at h
    simp only [place]
    split
    · rename_i hlt
      simp only [List.map_cons, List.pairwise_cons]
      refine ⟨fun j hj => ?_, h⟩
      rcases List.mem_cons.1 hj with rfl | hj
      · exact hlt
      · exact Nat.lt_trans hlt (h.1 j hj)
    · split
      · rename_i heq
        subst heq
        simpa using h
      · simp only [List.map_cons, List.pairwise_cons]
        refine ⟨fun j hj => ?_, ih h.2⟩
        rcases mem_map_place.1 hj with rfl | hj
        · omega
        · exact h.1 j hj

theorem lookup_place {index j : Nat} {value : Bytes} {entries : List (Nat × Bytes)}
    (h : (entries.map Prod.fst).Pairwise (· < ·)) :
    (place index value entries).lookup j = if j = index then some value else entries.lookup j := by
  induction entries with
  | nil =>
    by_cases hj : j = index
    · simp [place, hj]
    · simp [place, List.lookup_cons, hj, beq_false_of_ne hj]
  | cons e rest ih =>
    obtain ⟨i, v⟩ := e
    simp only [List.map_cons, List.pairwise_cons] at h
    simp only [place]
    by_cases hj : j = index
    · subst hj
      split
      · simp
      · split
        · simp
        · rename_i hne
          simp [List.lookup_cons, beq_false_of_ne hne, ih h.2]
    · split
      · simp [List.lookup_cons, beq_false_of_ne hj]
      · split
        · rename_i heq
          subst heq
          simp [List.lookup_cons, beq_false_of_ne hj]
        · simp [List.lookup_cons, ih h.2, hj]

def empty : MeasurementSet := ⟨[], by simp⟩

def insert (set : MeasurementSet) (index : Nat) (value : Bytes) : MeasurementSet :=
  ⟨place index value set.entries, ascending_place set.ascending⟩

/-- The set that a list of values gives; of two values of one register the later counts. -/
def ofList (entries : List (Nat × Bytes)) : MeasurementSet :=
  entries.foldl (fun set e => set.insert e.1 e.2) empty

def get? (set : MeasurementSet) (index : Nat) : Option Bytes := set.entries.lookup index

@[simp] theorem get?_empty (index : Nat) : empty.get? index = none := rfl

theorem get?_insert (set : MeasurementSet) (index j : Nat) (value : Bytes) :
    (set.insert index value).get? j = if j = index then some value else set.get? j :=
  lookup_place set.ascending

def indices (set : MeasurementSet) : List Nat := set.entries.map Prod.fst

def size (set : MeasurementSet) : Nat := set.entries.length

def isEmpty (set : MeasurementSet) : Bool := set.entries.isEmpty

/-- Whether two sets agree: they have as many values, and the second has every value of the
first. -/
def agrees (a b : MeasurementSet) : Bool :=
  a.size = b.size && a.entries.all fun e => b.get? e.1 = some e.2

def mergeIndices : List Nat → List Nat → List Nat
  | [], js => js
  | is, [] => is
  | i :: is, j :: js =>
    if i < j then i :: mergeIndices is (j :: js)
    else if j < i then j :: mergeIndices (i :: is) js
    else i :: mergeIndices is js
  termination_by is js => is.length + js.length

/-- The registers whose values differ or that only one of the sets has, in ascending order. -/
def differing (a b : MeasurementSet) : List Nat :=
  (mergeIndices a.indices b.indices).filter fun i => a.get? i ≠ b.get? i

def hexEntries (set : MeasurementSet) : List (Nat × String) :=
  set.entries.map fun e => (e.1, Hex.encode e.2)

end MeasurementSet

end AttestedUplink
