import AttestedUplink.Proofs.Attestation.History

/-!
# What a startup check concludes

At the start an enclave checks itself against a second document of its own. The document that plays
the remote part is asked for first and verified last, and a lack of the attestation interface may
show at any of the four steps. It is the only fault that is passed over.
-/

namespace AttestedUplink.Attestor

variable {attestor : Attestor} {asked : Nat} {localNonce remoteNonce : Bytes}

/-- The two documents of a self check that comes through, before which the source was asked for
`asked` documents: each is verified and bound to its nonce, and they measure the same. -/
structure Confirmed (attestor : Attestor) (asked : Nat) (localNonce remoteNonce : Bytes)
    (own remote : Document) : Prop where
  localBound : attestor.OwnDocument (asked + 1) localNonce own
  remoteBound : attestor.OwnDocument asked remoteNonce remote
  same : own.measurements = remote.measurements

/-- The first step of a self check that fails, by its fault. -/
inductive FirstFailure (attestor : Attestor) (asked : Nat) (localNonce remoteNonce : Bytes) :
    Fault → Prop
  | remoteRequest {cause : Fault}
    (hremote : attestor.source asked { nonce := some remoteNonce } = .error cause) :
    FirstFailure attestor asked localNonce remoteNonce cause
  | localRequest {remoteRaw : Bytes} {cause : Fault}
    (hremote : attestor.source asked { nonce := some remoteNonce } = .ok remoteRaw)
    (hlocal : attestor.source (asked + 1) { nonce := some localNonce } = .error cause) :
    FirstFailure attestor asked localNonce remoteNonce cause
  | localVerification {remoteRaw localRaw : Bytes} {cause : Fault}
    (hremote : attestor.source asked { nonce := some remoteNonce } = .ok remoteRaw)
    (hlocal : attestor.source (asked + 1) { nonce := some localNonce } = .ok localRaw)
    (hverify : attestor.verifier localRaw (attestor.clock.reading (asked + 2)) = .error cause) :
    FirstFailure attestor asked localNonce remoteNonce cause
  | remoteVerification {remoteRaw : Bytes} {own : Document} {cause : Fault}
    (hremote : attestor.source asked { nonce := some remoteNonce } = .ok remoteRaw)
    (hown : attestor.OwnDocument (asked + 1) localNonce own)
    (hverify : attestor.verifier remoteRaw (attestor.clock.reading (asked + 1)) = .error cause) :
    FirstFailure attestor asked localNonce remoteNonce cause

/-- What makes a self check fail at the start. -/
inductive Setback (attestor : Attestor) (asked : Nat) (localNonce remoteNonce : Bytes) : Prop
  | fault {cause : Fault}
    (hfirst : attestor.FirstFailure asked localNonce remoteNonce cause)
    (hkind : cause.kind ≠ .attestationUnavailable)
  | unbound {remoteRaw localRaw : Bytes} {own : Document}
    (hremote : attestor.source asked { nonce := some remoteNonce } = .ok remoteRaw)
    (hlocal : attestor.source (asked + 1) { nonce := some localNonce } = .ok localRaw)
    (hverify : attestor.verifier localRaw (attestor.clock.reading (asked + 2)) = .ok own)
    (hnonce : own.nonce ≠ some localNonce)
  | nonceMismatch {remoteRaw : Bytes} {own remote : Document}
    (hremote : attestor.source asked { nonce := some remoteNonce } = .ok remoteRaw)
    (hown : attestor.OwnDocument (asked + 1) localNonce own)
    (hverify : attestor.verifier remoteRaw (attestor.clock.reading (asked + 1)) = .ok remote)
    (hnonce : remote.nonce ≠ some remoteNonce)
  | measurementMismatch {own remote : Document}
    (hown : attestor.OwnDocument (asked + 1) localNonce own)
    (hremote : attestor.OwnDocument asked remoteNonce remote)
    (hdiffer : own.measurements ≠ remote.measurements)

/-! ### The self check -/

/-- A self check with given nonces. -/
def selfCheckWith (attestor : Attestor) (localNonce remoteNonce : Bytes) :
    StateM State CrossCheck := do
  match ← attestor.request (.withNonce remoteNonce) with
  | .error cause => return .remoteFailed cause
  | .ok remote => attestor.crossCheck localNonce remote remoteNonce (← attestor.now)

variable {state : State}

theorem startupCheck_eq (supply : Nat → UInt8) (nonceLen : Nat) (state : State) :
    attestor.startupCheck supply nonceLen state =
      ((attestor.selfCheckWith (Nonce.draw supply 0 nonceLen) (Nonce.draw supply nonceLen nonceLen)
          state).1.atStartup,
        (attestor.selfCheckWith (Nonce.draw supply 0 nonceLen) (Nonce.draw supply nonceLen nonceLen)
          state).2) :=
  rfl

theorem selfCheckWith_of_error {cause : Fault}
    (hremote : attestor.source state.requests.length { nonce := some remoteNonce } = .error cause) :
    (attestor.selfCheckWith localNonce remoteNonce state).1 = .remoteFailed cause := by
  simp only [selfCheckWith, request, DocumentRequest.withNonce, bind, StateT.bind, hremote]
  rfl

/-- Once the source gave the document in the remote part, a self check is a cross check with it. -/
theorem selfCheckWith_of_ok {remoteRaw : Bytes}
    (hremote : attestor.source state.requests.length { nonce := some remoteNonce } =
      .ok remoteRaw) :
    attestor.selfCheckWith localNonce remoteNonce state =
      attestor.crossCheck localNonce remoteRaw remoteNonce
        (attestor.clock.reading (state.requests.length + 1))
        (state.after attestor (.other { nonce := some remoteNonce })) := by
  have hasked : (state.requests ++ [{ nonce := some remoteNonce : DocumentRequest }]).length =
      state.requests.length + 1 :=
    List.length_append
  simp only [selfCheckWith, request, DocumentRequest.withNonce, bind, StateT.bind, hremote,
    Attestor.now, hasked]
  rfl

theorem length_requests_after (inquiry : Inquiry) :
    (state.after attestor inquiry).requests.length = state.requests.length + 1 :=
  List.length_append

/-- What a cross check with that document comes to, the self check comes to. -/
theorem selfCheckWith_of_verdict {remoteRaw : Bytes} {outcome : CrossCheck}
    (hremote : attestor.source state.requests.length { nonce := some remoteNonce } = .ok remoteRaw)
    (hverdict : attestor.Verdict (state.requests.length + 1) localNonce remoteRaw remoteNonce
      (attestor.clock.reading (state.requests.length + 1)) outcome) :
    (attestor.selfCheckWith localNonce remoteNonce state).1 = outcome := by
  rw [selfCheckWith_of_ok hremote]
  apply Verdict.eq_crossCheck
  rwa [length_requests_after]

theorem Confirmed.trusted {own remote : Document}
    (h : attestor.Confirmed state.requests.length localNonce remoteNonce own remote) :
    (attestor.selfCheckWith localNonce remoteNonce state).1 = .trusted own.measurements := by
  obtain ⟨remoteRaw, hremote, hverify, hnonce⟩ := h.remoteBound
  apply selfCheckWith_of_verdict hremote
  apply Verdict.trusted h.localBound hverify hnonce
  intro index
  rw [h.same]

theorem Confirmed.cache {own remote : Document}
    (h : attestor.Confirmed state.requests.length localNonce remoteNonce own remote) :
    (attestor.selfCheckWith localNonce remoteNonce state).2.cache = some own.measurements := by
  obtain ⟨remoteRaw, hremote, -⟩ := h.remoteBound
  have hown : attestor.ownMeasurements (state.requests.length + 1) localNonce =
      .ok own.measurements :=
    ownMeasurements_eq_ok_iff.2 ⟨own, h.localBound, rfl⟩
  rw [selfCheckWith_of_ok hremote, crossCheck_snd]
  simp only [State.after, List.length_append, List.length_singleton, hown]

/-- The outcome of a self check tells its first failure. -/
theorem FirstFailure.outcome {cause : Fault}
    (h : attestor.FirstFailure state.requests.length localNonce remoteNonce cause) :
    (attestor.selfCheckWith localNonce remoteNonce state).1 = .localFailed cause ∨
      (attestor.selfCheckWith localNonce remoteNonce state).1 = .remoteFailed cause := by
  cases h with
  | remoteRequest hremote => exact .inr (selfCheckWith_of_error hremote)
  | localRequest hremote hlocal =>
    exact .inl (selfCheckWith_of_verdict hremote (.localFailed (.request hlocal)))
  | localVerification hremote hlocal hverify =>
    exact .inl (selfCheckWith_of_verdict hremote (.localFailed (.verification hlocal hverify)))
  | remoteVerification hremote hown hverify =>
    exact .inr (selfCheckWith_of_verdict hremote (.remoteFailed hown hverify))

theorem FirstFailure.atStartup {cause : Fault}
    (h : attestor.FirstFailure state.requests.length localNonce remoteNonce cause) :
    (attestor.selfCheckWith localNonce remoteNonce state).1.atStartup =
      if cause.kind = .attestationUnavailable then .skipped else .failed := by
  rcases h.outcome with houtcome | houtcome <;> rw [houtcome] <;> rfl

theorem Setback.atStartup (h : attestor.Setback state.requests.length localNonce remoteNonce) :
    (attestor.selfCheckWith localNonce remoteNonce state).1.atStartup = .failed := by
  cases h with
  | fault hfirst hkind => rw [hfirst.atStartup, if_neg hkind]
  | unbound hremote hlocal hverify hnonce =>
    rw [selfCheckWith_of_verdict hremote (.localFailed (.unbound hlocal hverify hnonce))]
    rfl
  | nonceMismatch hremote hown hverify hnonce =>
    rw [selfCheckWith_of_verdict hremote (.nonceMismatch hown hverify hnonce)]
    rfl
  | measurementMismatch hown hremote hdiffer =>
    rename_i own remote
    obtain ⟨remoteRaw, hremote, hverify, hnonce⟩ := hremote
    have hsome : own.measurements.differing remote.measurements ≠ [] := by
      rw [ne_eq, MeasurementSet.differing_eq_nil_iff]
      exact fun hsame ↦ hdiffer (MeasurementSet.ext_get? hsame)
    rw [selfCheckWith_of_verdict hremote (.measurementMismatch hown hverify hnonce hsome
      (MeasurementSet.ascending_differing _ _) fun _ ↦ MeasurementSet.mem_differing_iff)]
    rfl

/-! ### The conclusion -/

theorem FirstFailure.skipped_or_setback {cause : Fault}
    (h : attestor.FirstFailure asked localNonce remoteNonce cause) :
    (∃ cause, attestor.FirstFailure asked localNonce remoteNonce cause ∧
        cause.kind = .attestationUnavailable) ∨
      attestor.Setback asked localNonce remoteNonce := by
  by_cases hkind : cause.kind = .attestationUnavailable
  · exact .inl ⟨cause, h, hkind⟩
  · exact .inr (.fault h hkind)

/-- One of the three conclusions is borne out. -/
theorem confirmed_or_skipped_or_setback (attestor : Attestor) (state : State)
    (localNonce remoteNonce : Bytes) :
    (∃ own remote,
        attestor.Confirmed state.requests.length localNonce remoteNonce own remote) ∨
      (∃ cause, attestor.FirstFailure state.requests.length localNonce remoteNonce cause ∧
        cause.kind = .attestationUnavailable) ∨
      attestor.Setback state.requests.length localNonce remoteNonce := by
  cases hremote : attestor.source state.requests.length { nonce := some remoteNonce } with
  | error cause => exact .inr (FirstFailure.remoteRequest hremote).skipped_or_setback
  | ok remoteRaw =>
    have hborne := verdict_crossCheck attestor
      (state.after attestor (.other { nonce := some remoteNonce })) localNonce remoteRaw
      remoteNonce (attestor.clock.reading (state.requests.length + 1))
    rw [length_requests_after] at hborne
    generalize (attestor.crossCheck _ _ _ _ _).1 = outcome at hborne
    cases hborne with
    | localFailed hown =>
      cases hown with
      | request hlocal => exact .inr (FirstFailure.localRequest hremote hlocal).skipped_or_setback
      | verification hlocal hverify =>
        exact .inr (FirstFailure.localVerification hremote hlocal hverify).skipped_or_setback
      | unbound hlocal hverify hnonce => exact .inr (.inr (.unbound hremote hlocal hverify hnonce))
    | remoteFailed hown hverify =>
      exact .inr (FirstFailure.remoteVerification hremote hown hverify).skipped_or_setback
    | nonceMismatch hown hverify hnonce =>
      exact .inr (.inr (.nonceMismatch hremote hown hverify hnonce))
    | measurementMismatch hown hverify hnonce hsome hascending hmem =>
      refine .inr (.inr (.measurementMismatch hown ⟨remoteRaw, hremote, hverify, hnonce⟩ ?_))
      obtain ⟨index, hindex⟩ := List.exists_mem_of_ne_nil _ hsome
      intro hsame
      apply (hmem index).1 hindex
      rw [hsame]
    | trusted hown hverify hnonce hsame =>
      exact .inl ⟨_, _, hown, ⟨remoteRaw, hremote, hverify, hnonce⟩, MeasurementSet.ext_get? hsame⟩

/-- A startup check is verified exactly if both documents come through and measure the same, and the
cache then holds what they measure; it is skipped exactly if the first step that fails lacks the
attestation interface; it fails because of any other fault, a document that is not bound to its
nonce, or measurements that differ. -/
theorem startupCheck_conclusion (attestor : Attestor) (supply : Nat → UInt8) (nonceLen : Nat)
    (state : State) :
    let asked := state.requests.length
    let localNonce := Nonce.draw supply 0 nonceLen
    let remoteNonce := Nonce.draw supply nonceLen nonceLen
    ((attestor.startupCheck supply nonceLen state).1 = .verified ↔
      ∃ own remote, attestor.Confirmed asked localNonce remoteNonce own remote) ∧
    (∀ own remote, attestor.Confirmed asked localNonce remoteNonce own remote →
      (attestor.startupCheck supply nonceLen state).2.cache = some own.measurements) ∧
    ((attestor.startupCheck supply nonceLen state).1 = .skipped ↔
      ∃ cause, attestor.FirstFailure asked localNonce remoteNonce cause ∧
        cause.kind = .attestationUnavailable) ∧
    ((attestor.startupCheck supply nonceLen state).1 = .failed ↔
      attestor.Setback asked localNonce remoteNonce) := by
  intro asked localNonce remoteNonce
  rw [startupCheck_eq]
  generalize houtcome : (attestor.selfCheckWith _ _ state).1.atStartup = outcome
  have hverified {own remote : Document}
      (h : attestor.Confirmed asked localNonce remoteNonce own remote) : outcome = .verified := by
    rw [← houtcome, h.trusted]
    rfl
  have hskipped {cause : Fault} (h : attestor.FirstFailure asked localNonce remoteNonce cause)
      (hkind : cause.kind = .attestationUnavailable) : outcome = .skipped := by
    rw [← houtcome, h.atStartup, if_pos hkind]
  have hfailed (h : attestor.Setback asked localNonce remoteNonce) : outcome = .failed := by
    rw [← houtcome, h.atStartup]
  have hcases := confirmed_or_skipped_or_setback attestor state localNonce remoteNonce
  -- the three values differ, so the case that is borne out is the one that the value names
  refine ⟨⟨?_, ?_⟩, ?_, ⟨?_, ?_⟩, ?_, hfailed⟩
  · rintro rfl
    rcases hcases with hconfirmed | ⟨cause, h, hkind⟩ | h
    · exact hconfirmed
    · cases hskipped h hkind
    · cases hfailed h
  · rintro ⟨own, remote, h⟩
    exact hverified h
  · intro own remote h
    exact h.cache
  · rintro rfl
    rcases hcases with ⟨own, remote, h⟩ | hskip | h
    · cases hverified h
    · exact hskip
    · cases hfailed h
  · rintro ⟨cause, h, hkind⟩
    exact hskipped h hkind
  · rintro rfl
    rcases hcases with ⟨own, remote, h⟩ | ⟨cause, h, hkind⟩ | h
    · cases hverified h
    · cases hskipped h hkind
    · exact h

end AttestedUplink.Attestor
