import AttestedUplink.Attestation.Attestor
import AttestedUplink.Proofs.Checks
import AttestedUplink.Proofs.Measurement.Comparison

/-!
# What a cross check decides

The stages of a cross check come in a fixed order: the own document is asked for, verified and
compared with its nonce; the remote one is verified; then its nonce and its measurements are looked
at. The first stage that fails decides, and `Verdict` says for each outcome what has to hold for it.
-/

namespace AttestedUplink

open Checks

theorem Document.isFresh_eq_true_iff {document : Document} {expected : Bytes} :
    document.isFresh expected = true ↔ document.nonce = some expected :=
  decide_eq_true_iff

namespace Attestor

variable {attestor : Attestor} {asked : Nat} {nonce : Bytes}

/-! ### The own document -/

/-- A document of the own enclave that holds up: it was given for a request that carries the nonce
and nothing else, it verifies at the system clock, and it is bound to the nonce. Before the request
the source was asked for `asked` documents. -/
def OwnDocument (attestor : Attestor) (asked : Nat) (nonce : Bytes) (document : Document) : Prop :=
  ∃ raw, attestor.source asked { nonce := some nonce } = .ok raw ∧
    attestor.verifier raw (attestor.clock.reading (asked + 1)) = .ok document ∧
      document.nonce = some nonce

/-- Why there is no such document. -/
inductive OwnFailure (attestor : Attestor) (asked : Nat) (nonce : Bytes) : Fault → Prop
  | request {cause : Fault}
    (hrequest : attestor.source asked { nonce := some nonce } = .error cause) :
    OwnFailure attestor asked nonce cause
  | verification {raw : Bytes} {cause : Fault}
    (hrequest : attestor.source asked { nonce := some nonce } = .ok raw)
    (hverify : attestor.verifier raw (attestor.clock.reading (asked + 1)) = .error cause) :
    OwnFailure attestor asked nonce cause
  | unbound {raw : Bytes} {document : Document}
    (hrequest : attestor.source asked { nonce := some nonce } = .ok raw)
    (hverify : attestor.verifier raw (attestor.clock.reading (asked + 1)) = .ok document)
    (hnonce : document.nonce ≠ some nonce) :
    OwnFailure attestor asked nonce
      ⟨.malformedDocument, "local document is not bound to the requested nonce"⟩

/-- The measurements that a local verification comes to. -/
def ownMeasurements (attestor : Attestor) (asked : Nat) (nonce : Bytes) :
    Except Fault MeasurementSet := do
  let raw ← attestor.source asked (.withNonce nonce)
  attestor.checkLocal nonce raw (attestor.clock.reading (asked + 1))

theorem checkLocal_eq_ok_iff {raw : Bytes} {now : Instant} {own : MeasurementSet} :
    attestor.checkLocal nonce raw now = .ok own ↔ ∃ document,
      attestor.verifier raw now = .ok document ∧ document.nonce = some nonce ∧
        document.measurements = own := by
  simp only [checkLocal, bind_eq_ok_iff, ← Document.isFresh_eq_true_iff]
  refine exists_congr fun document ↦ and_congr_right fun _ ↦ ?_
  split
  · rename_i hfresh
    simp only [pure_eq_ok_iff, hfresh, true_and]
  · rename_i hstale
    simp only [throw_ne_ok, hstale, Bool.false_eq_true, false_and]

theorem checkLocal_eq_error_iff {raw : Bytes} {now : Instant} {cause : Fault} :
    attestor.checkLocal nonce raw now = .error cause ↔
      attestor.verifier raw now = .error cause ∨ ∃ document,
        attestor.verifier raw now = .ok document ∧ document.nonce ≠ some nonce ∧
          cause = unboundLocal := by
  cases hverify : attestor.verifier raw now with
  | error fault => simp [checkLocal, hverify, bind, Except.bind]
  | ok document =>
    by_cases hnonce : document.nonce = some nonce
    · have hfresh := Document.isFresh_eq_true_iff.2 hnonce
      simp [checkLocal, hverify, hfresh, hnonce, bind, Except.bind, pure, Except.pure]
    · have hstale := mt Document.isFresh_eq_true_iff.1 hnonce
      simp [checkLocal, hverify, hstale, hnonce, bind, Except.bind, throw, throwThe,
        MonadExceptOf.throw, eq_comm]

theorem ownMeasurements_eq_ok_iff {own : MeasurementSet} :
    attestor.ownMeasurements asked nonce = .ok own ↔ ∃ document,
      attestor.OwnDocument asked nonce document ∧ document.measurements = own := by
  simp only [ownMeasurements, bind_eq_ok_iff, checkLocal_eq_ok_iff]
  constructor
  · rintro ⟨raw, hrequest, document, hverify, hnonce, hown⟩
    exact ⟨document, ⟨raw, hrequest, hverify, hnonce⟩, hown⟩
  · rintro ⟨document, ⟨raw, hrequest, hverify, hnonce⟩, hown⟩
    exact ⟨raw, hrequest, document, hverify, hnonce, hown⟩

theorem ownMeasurements_eq_error_iff {cause : Fault} :
    attestor.ownMeasurements asked nonce = .error cause ↔
      attestor.OwnFailure asked nonce cause := by
  constructor
  · intro h
    cases hrequest : attestor.source asked (.withNonce nonce) with
    | error fault =>
      simp only [ownMeasurements, hrequest] at h
      cases h
      exact .request hrequest
    | ok raw =>
      simp only [ownMeasurements, hrequest] at h
      rcases checkLocal_eq_error_iff.1 h with hverify | ⟨document, hverify, hnonce, rfl⟩
      · exact .verification hrequest hverify
      · exact .unbound hrequest hverify hnonce
  · rintro (⟨hrequest⟩ | ⟨hrequest, hverify⟩ | ⟨hrequest, hverify, hnonce⟩)
    · rw [ownMeasurements, DocumentRequest.withNonce, hrequest]
      rfl
    · rw [ownMeasurements, DocumentRequest.withNonce, hrequest]
      exact checkLocal_eq_error_iff.2 (.inl hverify)
    · rw [ownMeasurements, DocumentRequest.withNonce, hrequest]
      exact checkLocal_eq_error_iff.2 (.inr ⟨_, hverify, hnonce, rfl⟩)

/-- A local verification asks once, and keeps the measurements if it comes to some. -/
theorem verifyLocal_eq (nonce : Bytes) (state : State) :
    attestor.verifyLocal nonce state =
      (attestor.ownMeasurements state.requests.length nonce,
        { requests := state.requests ++ [.withNonce nonce]
          cache :=
            match attestor.ownMeasurements state.requests.length nonce with
            | .ok own => some own
            | .error _ => state.cache }) := by
  cases hrequest : attestor.source state.requests.length (.withNonce nonce) with
  | error fault =>
    simp only [verifyLocal, request, ownMeasurements, hrequest, bind, StateT.bind, Except.bind]
    rfl
  | ok raw =>
    have hasked : (state.requests ++ [DocumentRequest.withNonce nonce]).length =
        state.requests.length + 1 :=
      List.length_append
    simp only [verifyLocal, request, ownMeasurements, hrequest, bind, StateT.bind, Except.bind,
      Attestor.now, hasked]
    cases attestor.checkLocal nonce raw (attestor.clock.reading (state.requests.length + 1)) <;> rfl

/-! ### The verdict -/

variable {localNonce remoteDocument remoteNonce : Bytes} {now : Instant}

/-- What has to hold for each outcome of a cross check before which the source was asked for `asked`
documents. -/
inductive Verdict (attestor : Attestor) (asked : Nat)
    (localNonce remoteDocument remoteNonce : Bytes) (now : Instant) : CrossCheck → Prop
  | localFailed {cause : Fault} (hown : attestor.OwnFailure asked localNonce cause) :
    Verdict attestor asked localNonce remoteDocument remoteNonce now (.localFailed cause)
  | remoteFailed {own : Document} {cause : Fault}
    (hown : attestor.OwnDocument asked localNonce own)
    (hremote : attestor.verifier remoteDocument now = .error cause) :
    Verdict attestor asked localNonce remoteDocument remoteNonce now (.remoteFailed cause)
  | nonceMismatch {own remote : Document}
    (hown : attestor.OwnDocument asked localNonce own)
    (hremote : attestor.verifier remoteDocument now = .ok remote)
    (hnonce : remote.nonce ≠ some remoteNonce) :
    Verdict attestor asked localNonce remoteDocument remoteNonce now .nonceMismatch
  | measurementMismatch {own remote : Document} {differing : List Nat}
    (hown : attestor.OwnDocument asked localNonce own)
    (hremote : attestor.verifier remoteDocument now = .ok remote)
    (hnonce : remote.nonce = some remoteNonce)
    (hdiffer : differing ≠ []) (hascending : differing.Pairwise (· < ·))
    (hmem : ∀ index, index ∈ differing ↔
      own.measurements.get? index ≠ remote.measurements.get? index) :
    Verdict attestor asked localNonce remoteDocument remoteNonce now
      (.measurementMismatch differing)
  | trusted {own remote : Document}
    (hown : attestor.OwnDocument asked localNonce own)
    (hremote : attestor.verifier remoteDocument now = .ok remote)
    (hnonce : remote.nonce = some remoteNonce)
    (hsame : ∀ index, own.measurements.get? index = remote.measurements.get? index) :
    Verdict attestor asked localNonce remoteDocument remoteNonce now (.trusted own.measurements)

/-- What is made of a remote document once there are own measurements. -/
def judge (attestor : Attestor) (own : MeasurementSet) (remoteDocument remoteNonce : Bytes)
    (now : Instant) : CrossCheck :=
  match attestor.verifyRemote remoteDocument remoteNonce now with
  | .error cause => .remoteFailed cause
  | .ok (remote, fresh) => conclude own remote fresh

/-- A cross check does to the state what its local verification does. -/
theorem crossCheck_eq (localNonce remoteDocument remoteNonce : Bytes) (now : Instant)
    (state : State) :
    attestor.crossCheck localNonce remoteDocument remoteNonce now state =
      (match attestor.ownMeasurements state.requests.length localNonce with
        | .error cause => .localFailed cause
        | .ok own => attestor.judge own remoteDocument remoteNonce now,
        (attestor.verifyLocal localNonce state).2) := by
  simp only [crossCheck, bind, StateT.bind, verifyLocal_eq, judge]
  cases attestor.ownMeasurements state.requests.length localNonce with
  | error cause => rfl
  | ok own => cases attestor.verifyRemote remoteDocument remoteNonce now <;> rfl

theorem judge_of_error {own : MeasurementSet} {cause : Fault}
    (hremote : attestor.verifier remoteDocument now = .error cause) :
    attestor.judge own remoteDocument remoteNonce now = .remoteFailed cause := by
  simp [judge, verifyRemote, hremote, bind, Except.bind]

theorem judge_of_ok {own : MeasurementSet} {remote : Document}
    (hremote : attestor.verifier remoteDocument now = .ok remote) :
    attestor.judge own remoteDocument remoteNonce now =
      conclude own remote.measurements (remote.isFresh remoteNonce) := by
  simp [judge, verifyRemote, hremote, bind, Except.bind, pure, Except.pure]

theorem conclude_of_stale {own remote : MeasurementSet} :
    conclude own remote false = .nonceMismatch :=
  rfl

theorem conclude_of_agrees {own remote : MeasurementSet}
    (hsame : ∀ index, own.get? index = remote.get? index) :
    conclude own remote true = .trusted own := by
  simp [conclude, MeasurementSet.agrees_eq_true_iff.2 hsame]

theorem conclude_of_differing {own remote : MeasurementSet} (hdiffer : own.differing remote ≠ []) :
    conclude own remote true = .measurementMismatch (own.differing remote) := by
  have hdisagree : own.agrees remote ≠ true := by
    rwa [ne_eq, MeasurementSet.agrees_eq_true_iff, ← MeasurementSet.differing_eq_nil_iff]
  simp [conclude, hdisagree]

/-- The outcome of a cross check is borne out. -/
theorem verdict_crossCheck (attestor : Attestor) (state : State)
    (localNonce remoteDocument remoteNonce : Bytes) (now : Instant) :
    attestor.Verdict state.requests.length localNonce remoteDocument remoteNonce now
      (attestor.crossCheck localNonce remoteDocument remoteNonce now state).1 := by
  rw [crossCheck_eq]
  cases hmeasured : attestor.ownMeasurements state.requests.length localNonce with
  | error cause => exact .localFailed (ownMeasurements_eq_error_iff.1 hmeasured)
  | ok measurements =>
    obtain ⟨own, hown, rfl⟩ := ownMeasurements_eq_ok_iff.1 hmeasured
    cases hremote : attestor.verifier remoteDocument now with
    | error cause =>
      simp only [judge_of_error hremote]
      exact .remoteFailed hown hremote
    | ok remote =>
      simp only [judge_of_ok hremote]
      cases hfresh : remote.isFresh remoteNonce with
      | false =>
        have hnonce : remote.nonce ≠ some remoteNonce := fun h ↦ by
          rw [Document.isFresh_eq_true_iff.2 h] at hfresh
          cases hfresh
        exact .nonceMismatch hown hremote hnonce
      | true =>
        have hnonce := Document.isFresh_eq_true_iff.1 hfresh
        by_cases hdiffer : own.measurements.differing remote.measurements = []
        · have hsame := MeasurementSet.differing_eq_nil_iff.1 hdiffer
          rw [conclude_of_agrees hsame]
          exact .trusted hown hremote hnonce hsame
        · rw [conclude_of_differing hdiffer]
          exact .measurementMismatch hown hremote hnonce hdiffer
            (MeasurementSet.ascending_differing _ _) fun _ ↦ MeasurementSet.mem_differing_iff

/-- No other outcome is borne out. -/
theorem Verdict.eq_crossCheck {state : State} {outcome : CrossCheck}
    (h : attestor.Verdict state.requests.length localNonce remoteDocument remoteNonce now outcome) :
    (attestor.crossCheck localNonce remoteDocument remoteNonce now state).1 = outcome := by
  rw [crossCheck_eq]
  cases h with
  | localFailed hown => simp only [ownMeasurements_eq_error_iff.2 hown]
  | remoteFailed hown hremote =>
    simp only [ownMeasurements_eq_ok_iff.2 ⟨_, hown, rfl⟩, judge_of_error hremote]
  | nonceMismatch hown hremote hnonce =>
    have hstale := Bool.eq_false_iff.2 (mt Document.isFresh_eq_true_iff.1 hnonce)
    simp only [ownMeasurements_eq_ok_iff.2 ⟨_, hown, rfl⟩, judge_of_ok hremote, hstale]
    exact conclude_of_stale
  | measurementMismatch hown hremote hnonce hdiffer hascending hmem =>
    have hfresh := Document.isFresh_eq_true_iff.2 hnonce
    obtain rfl := MeasurementSet.differing_eq_iff.2 ⟨hascending, hmem⟩
    simp only [ownMeasurements_eq_ok_iff.2 ⟨_, hown, rfl⟩, judge_of_ok hremote, hfresh]
    exact conclude_of_differing hdiffer
  | trusted hown hremote hnonce hsame =>
    have hfresh := Document.isFresh_eq_true_iff.2 hnonce
    simp only [ownMeasurements_eq_ok_iff.2 ⟨_, hown, rfl⟩, judge_of_ok hremote, hfresh]
    exact conclude_of_agrees hsame

theorem verdict_trusted_iff {measurements : MeasurementSet} :
    attestor.Verdict asked localNonce remoteDocument remoteNonce now (.trusted measurements) ↔
      ∃ own remote, attestor.OwnDocument asked localNonce own ∧
        attestor.verifier remoteDocument now = .ok remote ∧ remote.nonce = some remoteNonce ∧
        (∀ index, own.measurements.get? index = remote.measurements.get? index) ∧
        own.measurements = measurements := by
  constructor
  · rintro ⟨⟩
    rename_i own remote hown hremote hnonce hsame
    exact ⟨own, remote, hown, hremote, hnonce, hsame, rfl⟩
  · rintro ⟨own, remote, hown, hremote, hnonce, hsame, rfl⟩
    exact .trusted hown hremote hnonce hsame

theorem isTrusted_eq_true_iff {outcome : CrossCheck} :
    outcome.isTrusted = true ↔ ∃ measurements, outcome = .trusted measurements := by
  cases outcome <;> simp [CrossCheck.isTrusted]

/-- A cross check comes to the one outcome that is borne out, and trusts the other side exactly if
both documents are verified and bound to their nonces and all registers are the same. -/
theorem crossCheck_verdict (attestor : Attestor) (state : State)
    (localNonce remoteDocument remoteNonce : Bytes) (now : Instant) :
    (∀ outcome, (attestor.crossCheck localNonce remoteDocument remoteNonce now state).1 = outcome ↔
      attestor.Verdict state.requests.length localNonce remoteDocument remoteNonce now outcome) ∧
    ((attestor.crossCheck localNonce remoteDocument remoteNonce now state).1.isTrusted = true ↔
      ∃ own remote, attestor.OwnDocument state.requests.length localNonce own ∧
        attestor.verifier remoteDocument now = .ok remote ∧ remote.nonce = some remoteNonce ∧
        ∀ index, own.measurements.get? index = remote.measurements.get? index) := by
  have hiff (outcome : CrossCheck) :
      (attestor.crossCheck localNonce remoteDocument remoteNonce now state).1 = outcome ↔
        attestor.Verdict state.requests.length localNonce remoteDocument remoteNonce now
          outcome := by
    refine ⟨?_, Verdict.eq_crossCheck⟩
    rintro rfl
    exact verdict_crossCheck ..
  refine ⟨hiff, ?_⟩
  simp only [isTrusted_eq_true_iff, hiff, verdict_trusted_iff]
  constructor
  · rintro ⟨measurements, own, remote, hown, hremote, hnonce, hsame, -⟩
    exact ⟨own, remote, hown, hremote, hnonce, hsame⟩
  · rintro ⟨own, remote, hown, hremote, hnonce, hsame⟩
    exact ⟨own.measurements, own, remote, hown, hremote, hnonce, hsame, rfl⟩

end Attestor

end AttestedUplink
