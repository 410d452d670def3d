import AttestedUplink.Handshake

namespace AttestedUplink

/-!
# Writing to a stream

A stream takes what it is offered in as many portions as it likes, and may fail at any of them or at
the flush that follows the last one. A writer is what is left to do; each answer of the stream moves
it on.
-/

inductive StreamAnswer
  /-- The stream took so many of the octets that it was offered. -/
  | took (count : Nat)
  | writeFailed (text : String)
  | flushed
  | flushFailed (text : String)
  deriving Repr, DecidableEq

inductive StreamWriter
  | sending (pending : Bytes)
  | flushing
  deriving Repr, DecidableEq

namespace StreamWriter

inductive Failure
  | tookNothing
  | write (text : String)
  | flush (text : String)
  deriving Repr, DecidableEq

inductive Outcome
  | writing (writer : StreamWriter)
  | done
  | failed (failure : Failure)
  deriving Repr, DecidableEq

def start (octets : Bytes) : StreamWriter := if octets = [] then .flushing else .sending octets

/-- Moves a writer on by an answer: the octets that the stream took, and what is left. An answer to
what was not asked changes nothing. -/
def step (writer : StreamWriter) (answer : StreamAnswer) : Bytes × Outcome :=
  match writer, answer with
  | .sending _, .took 0 => ([], .failed .tookNothing)
  | .sending pending, .took count => (pending.take count, .writing (start (pending.drop count)))
  | .sending _, .writeFailed text => ([], .failed (.write text))
  | .flushing, .flushed => ([], .done)
  | .flushing, .flushFailed text => ([], .failed (.flush text))
  | _, _ => ([], .writing writer)

def pending : StreamWriter → Bytes
  | .sending pending => pending
  | .flushing => []

@[simp] theorem pending_start (octets : Bytes) : (start octets).pending = octets := by
  unfold start
  split <;> simp_all [pending]

/-- What is taken comes off the front of what is pending. -/
theorem step_writing {writer next : StreamWriter} {answer : StreamAnswer} {taken : Bytes}
    (h : writer.step answer = (taken, .writing next)) : taken ++ next.pending = writer.pending := by
  unfold step at h
  split at h <;> simp only [Prod.mk.injEq, Outcome.writing.injEq, reduceCtorEq, and_false] at h <;>
    obtain ⟨rfl, rfl⟩ := h
  · rw [pending_start]
    exact List.take_append_drop ..
  · rfl

/-- A writer is done only when nothing is pending. -/
theorem step_done {writer : StreamWriter} {answer : StreamAnswer} {taken : Bytes}
    (h : writer.step answer = (taken, .done)) : taken = [] ∧ writer.pending = [] := by
  unfold step at h
  split at h <;> simp_all [pending]

theorem step_failed {writer : StreamWriter} {answer : StreamAnswer} {taken : Bytes}
    {failure : Failure} (h : writer.step answer = (taken, .failed failure)) : taken = [] := by
  unfold step at h
  split at h <;> simp_all

end StreamWriter

namespace Handshake

def writeFault : StreamWriter.Failure → Fault
  | .tookNothing => ⟨.transport, "Failed to send handshake to host: write zero"⟩
  | .write text => ⟨.transport, s!"Failed to send handshake to host: {text}"⟩
  | .flush text => ⟨.transport, s!"Failed to flush handshake: {text}"⟩

def writer (endpoint : Endpoint) : Except Fault StreamWriter :=
  match head endpoint with
  | .ok octets => .ok (.start octets)
  | .error defect => .error defect.toFault

end Handshake

end AttestedUplink
