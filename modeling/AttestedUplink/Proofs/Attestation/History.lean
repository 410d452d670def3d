import AttestedUplink.Proofs.Attestation.CrossCheck
import Mathlib.Data.List.Induction

/-!
# What an attestor does to its state

Whatever operations an attestor performs, it does nothing to its state but ask its source, and the
only answers that may change the cache are those to the inquiries for documents of the own enclave.
A history is put down to the list of its inquiries, which no remote document has a part in.
-/

namespace AttestedUplink.Attestor

/-- An operation with the random octets from which it draws nonces. -/
structure Task where
  operation : Operation
  supply : Nat → UInt8

/-- The state after some tasks. -/
def serve (attestor : Attestor) (state : State) : List Task → State
  | [] => state
  | task :: tasks => attestor.serve (attestor.perform task.supply task.operation state).2 tasks

/-- What the source is asked for: a document of the own enclave, which is to be verified against the
nonce and to give the own measurements, or any other. -/
inductive Inquiry
  | own (nonce : Bytes)
  | other (request : DocumentRequest)

def Inquiry.request : Inquiry → DocumentRequest
  | .own nonce => { nonce := some nonce }
  | .other request => request

/-- What a task asks for after `asked` other requests. -/
def Task.inquiries (attestor : Attestor) (asked : Nat) (task : Task) : List Inquiry :=
  match task.operation with
  | .request request => [.other request]
  | .verifyLocal nonce => [.own nonce]
  | .crossCheck nonce _ _ _ => [.own nonce]
  | .verifyRemote _ _ _ => []
  | .selfCheck nonceLen | .startupCheck nonceLen =>
    let remote : DocumentRequest := { nonce := some (Nonce.draw task.supply nonceLen nonceLen) }
    match attestor.source asked remote with
    | .ok _ => [.other remote, .own (Nonce.draw task.supply 0 nonceLen)]
    | .error _ => [.other remote]

/-- What some tasks ask for, one after the other. -/
def inquiries (attestor : Attestor) (asked : Nat) : List Task → List Inquiry
  | [] => []
  | task :: tasks =>
    let first := task.inquiries attestor asked
    first ++ attestor.inquiries (asked + first.length) tasks

/-- The inquiry at a position brought up a document of the own enclave. -/
def Verified (attestor : Attestor) (asked : Nat) (inquiries : List Inquiry) (position : Nat)
    (document : Document) : Prop :=
  ∃ nonce, inquiries[position]? = some (.own nonce) ∧
    attestor.OwnDocument (asked + position) nonce document

variable {attestor : Attestor} {asked : Nat} {state : State}

/-! ### One inquiry -/

/-- The state after an inquiry. -/
def State.after (attestor : Attestor) (state : State) (inquiry : Inquiry) : State where
  requests := state.requests ++ [inquiry.request]
  cache :=
    match inquiry with
    | .own nonce =>
      match attestor.ownMeasurements state.requests.length nonce with
      | .ok own => some own
      | .error _ => state.cache
    | .other _ => state.cache

theorem verifyLocal_snd (nonce : Bytes) :
    (attestor.verifyLocal nonce state).2 = state.after attestor (.own nonce) := by
  rw [verifyLocal_eq]
  rfl

theorem crossCheck_snd (localNonce remoteDocument remoteNonce : Bytes) (now : Instant) :
    (attestor.crossCheck localNonce remoteDocument remoteNonce now state).2 =
      state.after attestor (.own localNonce) := by
  rw [crossCheck_eq]
  exact verifyLocal_snd localNonce

/-- A self check asks for the document in the remote part, and only if it gets one for its own. -/
theorem selfCheck_snd (supply : Nat → UInt8) (nonceLen : Nat) :
    (attestor.selfCheck supply nonceLen state).2 =
      (Task.inquiries attestor state.requests.length ⟨.selfCheck nonceLen, supply⟩).foldl
        (State.after attestor) state := by
  simp only [selfCheck, Task.inquiries, bind, StateT.bind, request, DocumentRequest.withNonce]
  cases attestor.source state.requests.length _ with
  | error cause => rfl
  | ok remote => exact crossCheck_snd ..

/-- What one operation does to the state. -/
theorem perform_snd (task : Task) :
    (attestor.perform task.supply task.operation state).2 =
      (task.inquiries attestor state.requests.length).foldl (State.after attestor) state := by
  obtain ⟨operation, supply⟩ := task
  cases operation with
  | request request => rfl
  | verifyLocal nonce => exact verifyLocal_snd nonce
  | verifyRemote raw nonce now => rfl
  | crossCheck localNonce remoteDocument remoteNonce now => exact crossCheck_snd ..
  | selfCheck nonceLen => exact selfCheck_snd supply nonceLen
  | startupCheck nonceLen => exact selfCheck_snd supply nonceLen

/-! ### A history -/

theorem requests_foldl (inquiries : List Inquiry) (state : State) :
    (inquiries.foldl (State.after attestor) state).requests =
      state.requests ++ inquiries.map Inquiry.request := by
  induction inquiries generalizing state with
  | nil => exact (List.append_nil _).symm
  | cons inquiry inquiries ih =>
    rw [List.foldl_cons, ih, List.map_cons, List.append_cons]
    rfl

theorem serve_eq (tasks : List Task) (state : State) :
    attestor.serve state tasks =
      (attestor.inquiries state.requests.length tasks).foldl (State.after attestor) state := by
  induction tasks generalizing state with
  | nil => rfl
  | cons task tasks ih =>
    rw [serve, ih, perform_snd, requests_foldl, inquiries, List.foldl_append, List.length_append,
      List.length_map]

theorem verified_concat_iff {inquiries : List Inquiry} {inquiry : Inquiry} {position : Nat}
    {document : Document} :
    attestor.Verified asked (inquiries ++ [inquiry]) position document ↔
      attestor.Verified asked inquiries position document ∨
        position = inquiries.length ∧ ∃ nonce, inquiry = .own nonce ∧
          attestor.OwnDocument (asked + inquiries.length) nonce document := by
  rcases Nat.lt_trichotomy position inquiries.length with hlt | rfl | hgt
  · simp [Verified, List.getElem?_append_left hlt, hlt.ne]
  · simp [Verified]
  · have hnone : (inquiries ++ [inquiry])[position]? = none := by
      rw [List.getElem?_eq_none_iff, List.length_append, List.length_singleton]
      exact hgt
    simp [Verified, hnone, List.getElem?_eq_none hgt.le, hgt.ne']

/-- The cache holds the measurements of the latest own document, or what it held before if there is
none. -/
def Keeps (attestor : Attestor) (asked : Nat) (inquiries : List Inquiry)
    (initial cache : Option MeasurementSet) : Prop :=
  (∃ position document, attestor.Verified asked inquiries position document ∧
      (∀ later other, position < later → ¬ attestor.Verified asked inquiries later other) ∧
      cache = some document.measurements) ∨
    (∀ position document, ¬ attestor.Verified asked inquiries position document) ∧ cache = initial

theorem keeps_concat_of_verified {inquiries : List Inquiry} {nonce : Bytes} {document : Document}
    (initial : Option MeasurementSet)
    (hown : attestor.OwnDocument (asked + inquiries.length) nonce document) :
    attestor.Keeps asked (inquiries ++ [.own nonce]) initial (some document.measurements) := by
  refine .inl ⟨inquiries.length, document, ?_, ?_, rfl⟩
  · exact verified_concat_iff.2 (.inr ⟨rfl, nonce, rfl, hown⟩)
  · intro later other hlater hverified
    obtain ⟨nonce', hinquiry, -⟩ := hverified
    rw [List.getElem?_eq_none] at hinquiry
    · cases hinquiry
    · rw [List.length_append, List.length_singleton]
      exact hlater

theorem keeps_concat_of_not {inquiries : List Inquiry} {inquiry : Inquiry}
    {initial cache : Option MeasurementSet}
    (hnone : ∀ nonce document, inquiry = .own nonce →
      ¬ attestor.OwnDocument (asked + inquiries.length) nonce document)
    (hkeeps : attestor.Keeps asked inquiries initial cache) :
    attestor.Keeps asked (inquiries ++ [inquiry]) initial cache := by
  have hsame (position : Nat) (document : Document) :
      attestor.Verified asked (inquiries ++ [inquiry]) position document ↔
        attestor.Verified asked inquiries position document := by
    rw [verified_concat_iff, or_iff_left]
    rintro ⟨-, nonce, hinquiry, hown⟩
    exact hnone nonce document hinquiry hown
  simpa only [Keeps, hsame] using hkeeps

/-- What one inquiry preserves. -/
theorem Keeps.after {inquiries : List Inquiry} {initial : Option MeasurementSet}
    (hkeeps : attestor.Keeps asked inquiries initial state.cache)
    (hasked : state.requests.length = asked + inquiries.length) (inquiry : Inquiry) :
    attestor.Keeps asked (inquiries ++ [inquiry]) initial (state.after attestor inquiry).cache := by
  cases inquiry with
  | other request => exact keeps_concat_of_not nofun hkeeps
  | own nonce =>
    cases hmeasured : attestor.ownMeasurements state.requests.length nonce with
    | ok own =>
      obtain ⟨document, hown, rfl⟩ := ownMeasurements_eq_ok_iff.1 hmeasured
      simp only [State.after, hmeasured]
      exact keeps_concat_of_verified initial (hasked ▸ hown)
    | error cause =>
      simp only [State.after, hmeasured]
      refine keeps_concat_of_not ?_ hkeeps
      rintro _ document ⟨⟩ hown
      rw [← hasked] at hown
      rw [ownMeasurements_eq_ok_iff.2 ⟨document, hown, rfl⟩] at hmeasured
      cases hmeasured

theorem keeps_foldl (inquiries : List Inquiry) (state : State) :
    attestor.Keeps state.requests.length inquiries state.cache
      (inquiries.foldl (State.after attestor) state).cache := by
  induction inquiries using List.reverseRecOn with
  | nil => exact .inr ⟨fun position document ⟨nonce, hnone, _⟩ ↦ by simp at hnone, rfl⟩
  | append_singleton inquiries inquiry ih =>
    rw [List.foldl_append]
    refine ih.after ?_ inquiry
    rw [requests_foldl, List.length_append, List.length_map]

/-! ### What others have no part in -/

def Operation.drawsNonces : Operation → Bool
  | .selfCheck _ | .startupCheck _ => true
  | _ => false

/-- An operation without the part that comes from others: a remote document with its nonce and the
time at which it is looked at. -/
def Operation.ownPart : Operation → Option Operation
  | .crossCheck localNonce _ _ _ => some (.verifyLocal localNonce)
  | .verifyRemote _ _ _ => none
  | operation => some operation

/-- What an operation without nonces of its own asks for. -/
def Operation.inquiry : Operation → Option Inquiry
  | .request wanted => some (.other wanted)
  | .verifyLocal nonce => some (.own nonce)
  | _ => none

theorem inquiries_eq_filterMap {tasks : List Task}
    (hdraws : ∀ task ∈ tasks, task.operation.drawsNonces = false) :
    attestor.inquiries asked tasks =
      ((tasks.map Task.operation).filterMap Operation.ownPart).filterMap Operation.inquiry := by
  induction tasks generalizing asked with
  | nil => rfl
  | cons task tasks ih =>
    obtain ⟨hfirst, hrest⟩ := List.forall_mem_cons.1 hdraws
    rw [inquiries, ih hrest, List.map_cons]
    obtain ⟨operation, supply⟩ := task
    cases operation with
    | selfCheck | startupCheck => cases hfirst
    | request | verifyLocal | verifyRemote | crossCheck => rfl

/-- What there is to say of the tasks that an attestor has performed from a state on. Since the
tasks are arbitrary, it holds after each of them. -/
structure History (attestor : Attestor) (state : State) (tasks : List Task) : Prop where
  requests : (attestor.serve state tasks).requests =
    state.requests ++ (attestor.inquiries state.requests.length tasks).map Inquiry.request
  cache : attestor.Keeps state.requests.length (attestor.inquiries state.requests.length tasks)
    state.cache (attestor.serve state tasks).cache
  /-- Two histories that differ only in what came from others leave the same requests and the same
  cache. -/
  secluded : ∀ others : List Task, (∀ task ∈ tasks ++ others, task.operation.drawsNonces = false) →
    (tasks.map Task.operation).filterMap Operation.ownPart =
      (others.map Task.operation).filterMap Operation.ownPart →
        attestor.serve state tasks = attestor.serve state others

theorem serve_history (attestor : Attestor) (state : State) (tasks : List Task) :
    attestor.History state tasks where
  requests := by
    rw [serve_eq, requests_foldl]
  cache := by
    rw [serve_eq]
    exact keeps_foldl _ state
  secluded := by
    intro others hdraws hsame
    obtain ⟨htasks, hothers⟩ := List.forall_mem_append.1 hdraws
    rw [serve_eq, serve_eq, inquiries_eq_filterMap htasks, inquiries_eq_filterMap hothers, hsame]

end AttestedUplink.Attestor
