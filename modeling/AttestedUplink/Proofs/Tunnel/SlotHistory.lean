import AttestedUplink.ErrorSlot
import Mathlib.Data.List.Basic
import Mathlib.Data.List.Induction

/-!
# The error slot over time

Everybody who holds an error slot reports to the same place, so what is done with it is one sequence
of operations, whoever does them and however they come to be interleaved. An observer notes which
reports took the slot and which faults were taken from it. The ones are the others, in the same
order, but for one report that may still be waiting.
-/

namespace AttestedUplink.ErrorSlot

/-- A slot, the reports that took it, and the faults that were taken from it. -/
structure Record where
  slot : ErrorSlot := {}
  accepted : List Fault := []
  returned : List Fault := []

namespace Record

/-- What an operation and the reply to it tell. -/
def note (record : Record) : Operation → Reply → Record
  | .report fault, .tookSlot true => { record with accepted := record.accepted ++ [fault] }
  | .take, .taken (some fault) => { record with returned := record.returned ++ [fault] }
  | _, _ => record

def follow (record : Record) (operation : Operation) : Record :=
  let (reply, slot) := record.slot.perform operation
  { record.note operation reply with slot }

/-- What is waiting is the report that took the slot last and was not taken from it. It is lost when
nobody looks at the slot any more. -/
structure Kept (record : Record) (waiting : Option Fault) : Prop where
  order : record.accepted = record.returned ++ waiting.toList
  waits : record.slot.isOpen = true → record.slot.pending = waiting
  lost : record.slot.isOpen = false → record.slot.pending = none

end Record

/-- The record of a new slot after some operations. -/
def history (operations : List Operation) : Record := operations.foldl Record.follow {}

/-- The reply to an operation after others. -/
def reply (operations : List Operation) (operation : Operation) : Reply :=
  ((history operations).slot.perform operation).1

variable {slot : ErrorSlot} {record : Record} {operations : List Operation} {fault : Fault}
  {waiting : Option Fault}

theorem isFree_iff : slot.isFree = true ↔ slot.isOpen = true ∧ slot.pending = none := by
  rw [isFree, Bool.and_eq_true, Option.isNone_iff_eq_none]

theorem report_of_isFree (h : slot.isFree = true) :
    slot.report fault = (true, { slot with pending := some fault }) :=
  if_pos h

theorem report_of_not_isFree (h : slot.isFree = false) : slot.report fault = (false, slot) :=
  if_neg (ne_true_of_eq_false h)

theorem history_concat (operations : List Operation) (operation : Operation) :
    history (operations ++ [operation]) =
      (history operations).follow operation :=
  List.foldl_concat ..

/-! ### One operation -/

namespace Record

theorem follow_of_rejected (h : record.slot.isFree = false) :
    record.follow (.report fault) = record := by
  simp only [follow, perform, report_of_not_isFree h, note]

theorem Kept.start : Kept {} none := ⟨rfl, fun _ ↦ rfl, fun _ ↦ rfl⟩

/-- A report that takes the slot finds nothing waiting. -/
theorem Kept.report (h : record.Kept waiting) (fault : Fault) :
    ∃ waiting', (record.follow (.report fault)).Kept waiting' := by
  cases hfree : record.slot.isFree with
  | false =>
    rw [follow_of_rejected hfree]
    exact ⟨waiting, h⟩
  | true =>
    obtain ⟨hopen, hpending⟩ := isFree_iff.1 hfree
    have hwaiting : waiting = none := (h.waits hopen).symm.trans hpending
    refine ⟨some fault, ?_⟩
    simp only [follow, perform, report_of_isFree hfree, note]
    refine ⟨?_, fun _ ↦ rfl, fun hshut ↦ ?_⟩
    · change record.accepted ++ [fault] = record.returned ++ [fault]
      rw [h.order, hwaiting, Option.toList_none, List.append_nil]
    · exact absurd (hopen.symm.trans hshut) Bool.noConfusion

/-- A fault that is taken was waiting, and was the last to take the slot. -/
theorem Kept.take (h : record.Kept waiting) :
    ∃ waiting', (record.follow .take).Kept waiting' := by
  cases hpending : record.slot.pending with
  | none =>
    refine ⟨waiting, ?_⟩
    simp only [follow, perform, ErrorSlot.take, hpending, note]
    refine ⟨h.order, fun hopen ↦ ?_, fun _ ↦ rfl⟩
    exact hpending.symm.trans (h.waits hopen)
  | some fault =>
    refine ⟨none, ?_⟩
    have hopen : record.slot.isOpen = true := by
      by_contra hshut
      rw [h.lost (eq_false_of_ne_true hshut)] at hpending
      cases hpending
    have hwaiting : waiting = some fault := (h.waits hopen).symm.trans hpending
    simp only [follow, perform, ErrorSlot.take, hpending, note]
    refine ⟨?_, fun _ ↦ rfl, fun _ ↦ rfl⟩
    change record.accepted = record.returned ++ [fault] ++ []
    rw [h.order, hwaiting, Option.toList_some, List.append_nil]

theorem Kept.close (h : record.Kept waiting) : (record.follow .close).Kept waiting :=
  ⟨h.order, nofun, fun _ ↦ rfl⟩

/-- What one operation preserves. -/
theorem Kept.follow (h : record.Kept waiting) (operation : Operation) :
    ∃ waiting', (record.follow operation).Kept waiting' := by
  cases operation with
  | report fault => exact h.report fault
  | take => exact h.take
  | close => exact ⟨waiting, h.close⟩

theorem isOpen_follow (record : Record) (operation : Operation) :
    (record.follow operation).slot.isOpen = true ↔
      record.slot.isOpen = true ∧ operation ≠ .close := by
  cases operation with
  | report fault => simp [Record.follow, perform]
  | take => simp [Record.follow, perform, ErrorSlot.take]
  | close => simp [Record.follow, perform, ErrorSlot.close]

end Record

/-! ### Any operations -/

theorem exists_kept (operations : List Operation) :
    ∃ waiting, (history operations).Kept waiting := by
  induction operations using List.reverseRecOn with
  | nil => exact ⟨none, .start⟩
  | append_singleton operations operation ih =>
    obtain ⟨waiting, hkept⟩ := ih
    rw [history_concat]
    exact hkept.follow operation

theorem isOpen_history_iff (operations : List Operation) :
    (history operations).slot.isOpen = true ↔ .close ∉ operations := by
  induction operations using List.reverseRecOn with
  | nil => simp [history]
  | append_singleton operations operation ih =>
    rw [history_concat, Record.isOpen_follow, ih, List.mem_append, List.mem_singleton, not_or,
      ne_comm]

theorem reply_report (operations : List Operation) (fault : Fault) :
    reply operations (.report fault) = .tookSlot (history operations).slot.isFree :=
  congrArg Reply.tookSlot (report_fst ..)

theorem reply_take (operations : List Operation) :
    reply operations .take = .taken (history operations).slot.pending :=
  rfl

theorem isFree_history_iff (operations : List Operation) :
    (history operations).slot.isFree = true ↔
      .close ∉ operations ∧ (history operations).accepted = (history operations).returned := by
  obtain ⟨waiting, hkept⟩ := exists_kept operations
  rw [isFree_iff, isOpen_history_iff]
  refine and_congr_right fun hclose ↦ ?_
  rw [hkept.waits ((isOpen_history_iff operations).2 hclose), hkept.order,
    List.append_right_eq_self, Option.toList_eq_nil_iff]

/-- A report that is dropped leaves no trace. -/
theorem history_of_dropped (h : reply operations (.report fault) = .tookSlot false)
    (later : List Operation) :
    history (operations ++ .report fault :: later) = history (operations ++ later) := by
  rw [reply_report, Reply.tookSlot.injEq] at h
  calc
    history (operations ++ .report fault :: later) =
        later.foldl Record.follow ((history operations).follow (.report fault)) :=
      List.foldl_append
    _ = later.foldl Record.follow (history operations) := by
      rw [Record.follow_of_rejected h]
    _ = history (operations ++ later) := List.foldl_append.symm

/-- How a slot fares under operations. These being arbitrary, all of it holds at every moment of a
longer history. -/
structure Orderly (operations : List Operation) : Prop where
  /-- A report takes the slot exactly if somebody looks at it and all that took it was taken. -/
  report : ∀ fault, reply operations (.report fault) = .tookSlot (decide (.close ∉ operations ∧
    (history operations).accepted = (history operations).returned))
  /-- What took the slot is taken from it, each once and in order; only the last may be waiting. -/
  order : ∃ waiting : Option Fault,
    (history operations).accepted = (history operations).returned ++ waiting.toList ∧
      (.close ∉ operations → reply operations .take = .taken waiting)
  /-- Nothing that happens later is different for a report that is dropped. -/
  dropped : ∀ fault, reply operations (.report fault) = .tookSlot false → ∀ later operation,
    reply (operations ++ .report fault :: later) operation = reply (operations ++ later) operation
  closed : .close ∈ operations →
    (∀ fault, reply operations (.report fault) = .tookSlot false) ∧
      reply operations .take = .taken none

/-- No fault that took the slot is lost or given out twice while somebody looks at it, and no report
that finds it taken changes anything. -/
theorem reports_orderly (operations : List Operation) : Orderly operations := by
  obtain ⟨waiting, hkept⟩ := exists_kept operations
  exact
    { report := by
        intro fault
        rw [reply_report, Reply.tookSlot.injEq, Bool.eq_iff_iff, decide_eq_true_iff]
        exact isFree_history_iff operations
      order := by
        refine ⟨waiting, hkept.order, fun hclose ↦ ?_⟩
        rw [reply_take, hkept.waits ((isOpen_history_iff operations).2 hclose)]
      dropped := by
        intro fault hdropped later operation
        rw [reply, reply, history_of_dropped hdropped]
      closed := by
        intro hclose
        have hshut : (history operations).slot.isOpen = false :=
          eq_false_of_ne_true fun hopen ↦ (isOpen_history_iff operations).1 hopen hclose
        refine ⟨fun fault ↦ ?_, ?_⟩
        · rw [reply_report, isFree, hshut, Bool.false_and]
        · rw [reply_take, hkept.lost hshut] }

end AttestedUplink.ErrorSlot
