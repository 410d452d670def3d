import AttestedUplink.Fault

namespace AttestedUplink

/-!
# The error slot

The two forwarding loops of a session share one place for an error. The first report takes it; a
later one is dropped, so that a loop never waits and never replaces what was reported before.
-/

/-- A place for one fault, and whether somebody still looks at it. -/
structure ErrorSlot where
  pending : Option Fault := none
  isOpen : Bool := true
  deriving DecidableEq

namespace ErrorSlot

def isFree (slot : ErrorSlot) : Bool := slot.isOpen && slot.pending.isNone

/-- Reports a fault: the answer says whether it took the slot. -/
def report (slot : ErrorSlot) (fault : Fault) : Bool × ErrorSlot :=
  if slot.isFree then (true, { slot with pending := some fault }) else (false, slot)

def take (slot : ErrorSlot) : Option Fault × ErrorSlot :=
  (slot.pending, { slot with pending := none })

/-- Nobody looks at the slot any more; what was in it is lost. -/
def close (_ : ErrorSlot) : ErrorSlot := ⟨none, false⟩

@[simp] theorem report_fst (slot : ErrorSlot) (fault : Fault) :
    (slot.report fault).1 = slot.isFree := by
  unfold report
  split <;> simp_all

@[simp] theorem isOpen_report (slot : ErrorSlot) (fault : Fault) :
    (slot.report fault).2.isOpen = slot.isOpen := by
  unfold report
  split <;> rfl

inductive Operation
  | report (fault : Fault)
  | take
  | close
  deriving DecidableEq

inductive Reply
  | tookSlot (took : Bool)
  | taken (fault : Option Fault)
  | closed
  deriving DecidableEq

def perform (slot : ErrorSlot) : Operation → Reply × ErrorSlot
  | .report fault =>
    let (took, slot) := slot.report fault
    (.tookSlot took, slot)
  | .take =>
    let (fault, slot) := slot.take
    (.taken fault, slot)
  | .close => (.closed, slot.close)

end ErrorSlot

end AttestedUplink
