import AttestedUplink.Measurement.Set

namespace AttestedUplink

/-!
# Shared measurement caches

A cache keeps the measurements that were verified last. Any number of handles may share one cache:
whatever is stored through one of them is seen through all. A `MeasurementCaches` holds every cache
and every handle that was ever made.
-/

/-- Caches and the handles that refer to them. -/
structure MeasurementCaches where
  cells : Array (Option MeasurementSet)
  handles : Array (Fin cells.size)

namespace MeasurementCaches

def empty : MeasurementCaches := ⟨#[], #[]⟩

def create (caches : MeasurementCaches) : MeasurementCaches :=
  { cells := caches.cells.push none
    handles := (caches.handles.map fun cell =>
      (cell.castLE (by simp) : Fin (caches.cells.push none).size)).push
        ⟨caches.cells.size, by simp⟩ }

def clone (caches : MeasurementCaches) (handle : Nat) : MeasurementCaches :=
  match caches.handles[handle]? with
  | some cell => { caches with handles := caches.handles.push cell }
  | none => caches

def store (caches : MeasurementCaches) (handle : Nat) (set : MeasurementSet) : MeasurementCaches :=
  match caches.handles[handle]? with
  | some cell =>
    { cells := caches.cells.set cell (some set)
      handles := caches.handles.map fun other => other.cast (by simp) }
  | none => caches

def get? (caches : MeasurementCaches) (handle : Nat) : Option MeasurementSet :=
  match caches.handles[handle]? with
  | some cell => caches.cells[cell]
  | none => none

def views (caches : MeasurementCaches) : List (Option MeasurementSet) :=
  caches.handles.toList.map fun cell => caches.cells[cell]

@[simp] theorem get?_empty (handle : Nat) : empty.get? handle = none := rfl

inductive Operation
  | create
  | clone (handle : Nat)
  | store (handle : Nat) (set : MeasurementSet)

def perform (caches : MeasurementCaches) : Operation → MeasurementCaches
  | .create => caches.create
  | .clone handle => caches.clone handle
  | .store handle set => caches.store handle set

end MeasurementCaches

end AttestedUplink
