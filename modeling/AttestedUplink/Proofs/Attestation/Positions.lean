import AttestedUplink.Proofs.Attestation.Precedence

/-!
# Verification by positions

The certificates of a bundle can also be reached by their positions, and the seconds be counted in
words of 64 bits. Neither is guarded at the place: what is out of range there is an outcome of its
own here, next to the refusals. That the outcome never comes is owed to the checks on the shape of
the document, which stand before everything that looks at a certificate.
-/

namespace AttestedUplink

open Checks

/-- A moment as a clock gives it: the whole second since the epoch as a signed word, and how much of
that second has passed. -/
structure ClockTime where
  second : Int64
  nanos : Nat
  nanos_lt : nanos < Instant.nanosPerSecond

namespace ClockTime

def toInstant (now : ClockTime) : Instant := .of now.second.toInt now.nanos

/-- The whole seconds since the epoch as an unsigned word, unless the moment lies before it. -/
def elapsed? (now : ClockTime) : Option UInt64 :=
  if now.second < 0 then none else some now.second.toUInt64

end ClockTime

namespace Verifier

/-- What is done without a guard and would not end well. -/
inductive Trap
  | position (position length : Nat)
  | difference (minuend subtrahend : Nat)
  | conversion (seconds : UInt64)
  deriving Repr, DecidableEq

/-- How verification by positions can end without a document. -/
inductive Halt
  | trapped (trap : Trap)
  | refused (rejection : Rejection)
  deriving Repr, DecidableEq

namespace Positions

def entry {α : Type} (list : List α) (position : Nat) : Except Halt α :=
  match list[position]? with
  | some value => .ok value
  | none => .error (.trapped (.position position list.length))

def difference (minuend subtrahend : Nat) : Except Halt Nat :=
  if subtrahend ≤ minuend then .ok (minuend - subtrahend)
  else .error (.trapped (.difference minuend subtrahend))

/-- The same number as a signed word. -/
def toSigned (seconds : UInt64) : Except Halt Int64 :=
  if seconds.toInt64.toInt = seconds.toNat then .ok seconds.toInt64
  else .error (.trapped (.conversion seconds))

def refusing {α : Type} (check : Except Rejection α) : Except Halt α := check.mapError .refused

/-- The seconds with which the windows are compared. -/
def seconds (now : ClockTime) : Except Halt Int64 :=
  match now.elapsed? with
  | some elapsed => toSigned elapsed
  | none => .error (.refused .clockBeforeEpoch)

def checkRoot (root : Fingerprint) (bundle : List Bytes) : Except Halt Unit := do
  let der ← entry bundle 0
  if sha256 der = root.bytes then return else throw (.refused .untrustedRoot)

/-- Checks the certificate at a position under the key of the one before it. -/
def checkLink (bundle : List Certificate) (position : Nat) : Except Halt Unit := do
  let certificate ← entry bundle position
  let issuer ← entry bundle (← difference position 1)
  refusing (checkSignature (.bundle position) issuer.key certificate)

/-- Checks the signing certificate under the last key of a bundle. -/
def checkLast (bundle : List Certificate) (signing : Certificate) : Except Halt Unit := do
  let issuer ← entry bundle (← difference bundle.length 1)
  refusing (checkSignature .signing issuer.key signing)

def checkChain (bundle : List Certificate) (signing : Certificate) : Except Halt Unit := do
  let root ← entry bundle 0
  refusing (checkSignature (.bundle 0) root.key root)
  forM (List.range' 1 (bundle.length - 1)) (checkLink bundle)
  checkLast bundle signing

def checkCertificates (root : Fingerprint) (document : Document) (now : ClockTime) :
    Except Halt PublicKeyInfo := do
  let signing ← refusing (readCertificate .signing document.certificate)
  let bundle ← refusing (readBundle 0 document.cabundle)
  let seconds ← seconds now
  refusing (checkWindows seconds.toInt (bundle ++ [signing]))
  checkRoot root document.cabundle
  checkChain bundle signing
  return signing.key

def verify (root : Fingerprint) (input : Bytes) (now : ClockTime) : Except Halt Document := do
  let (envelope, document) ← refusing (open? input)
  let key ← checkCertificates root document now
  if signs key envelope then return document else throw (.refused .documentSignature)

variable {root : Fingerprint} {now : ClockTime}

theorem refusing_bind {α β : Type} (check : Except Rejection α) (next : α → Except Rejection β) :
    refusing (check >>= next) = refusing check >>= fun value ↦ refusing (next value) := by
  cases check <;> rfl

/-! ### Positions in range -/

theorem entry_append {α : Type} (before after : List α) (value : α) :
    entry (before ++ value :: after) before.length = .ok value := by
  simp [entry]

theorem difference_succ (n : Nat) : difference (n + 1) 1 = .ok n := by
  simp [difference]

theorem checkLink_append (before after : List Certificate) (issuer certificate : Certificate) :
    checkLink (before ++ issuer :: certificate :: after) (before.length + 1) =
      refusing (checkSignature (.bundle (before.length + 1)) issuer.key certificate) := by
  have hentry := entry_append (before ++ [issuer]) after certificate
  rw [List.append_assoc, List.singleton_append, List.length_append, List.length_singleton] at hentry
  rw [checkLink, hentry, difference_succ]
  simp only [bind, Except.bind, entry_append]

theorem checkLast_append (before : List Certificate) (issuer signing : Certificate) :
    checkLast (before ++ [issuer]) signing =
      refusing (checkSignature .signing issuer.key signing) := by
  rw [checkLast, List.length_append, List.length_singleton, difference_succ]
  simp only [bind, Except.bind, entry_append]

/-- From a position on that has a certificate before it. -/
theorem refusing_checkChain (signing issuer : Certificate) (before rest : List Certificate) :
    refusing (Verifier.checkChain signing (before.length + 1) issuer.key rest) = (do
      forM (List.range' (before.length + 1) rest.length) (checkLink (before ++ issuer :: rest))
      checkLast (before ++ issuer :: rest) signing) := by
  induction rest generalizing before issuer with
  | nil =>
    rw [checkLast_append]
    rfl
  | cons certificate rest ih =>
    have hrest := ih certificate (before ++ [issuer])
    rw [List.append_assoc, List.singleton_append, List.length_append,
      List.length_singleton] at hrest
    rw [Verifier.checkChain, refusing_bind, List.length_cons, List.range'_succ, List.forM_cons,
      checkLink_append, bind_assoc, hrest]

theorem checkChain_eq (first signing : Certificate) (rest : List Certificate) :
    checkChain (first :: rest) signing =
      refusing (Verifier.checkChain signing 0 first.key (first :: rest)) := by
  have hrest := refusing_checkChain signing first [] rest
  rw [Verifier.checkChain, refusing_bind]
  rw [List.nil_append, List.length_nil, Nat.zero_add] at hrest
  rw [Nat.zero_add, hrest]
  rfl

/-! ### Words in range -/

theorem toSigned_toUInt64 {second : Int64} (h : 0 ≤ second) :
    toSigned second.toUInt64 = .ok second := by
  have hsame : second.toUInt64.toInt64.toInt = second.toUInt64.toNat := by
    rw [Int64.toInt64_toUInt64, Int64.toNat_toUInt64_of_le h, Int64.toInt_eq_toNatClampNeg h]
  rw [toSigned, if_pos hsame, Int64.toInt64_toUInt64]

theorem seconds?_of_neg (h : now.second < 0) : now.toInstant.seconds? = none := by
  have hnanos := now.nanos_lt
  have hsign : now.second.toInt < 0 := Int64.lt_iff_toInt_lt.1 h
  apply seconds?_eq_none
  simp only [ClockTime.toInstant, Instant.of, Instant.nanosPerSecond] at hnanos ⊢
  omega

theorem seconds?_of_nonneg (h : 0 ≤ now.second) :
    now.toInstant.seconds? = some now.second.toInt.toNat := by
  have hnanos := now.nanos_lt
  have hsign : 0 ≤ now.second.toInt := Int64.le_iff_toInt_le.1 h
  rw [Instant.seconds?_eq_some_iff]
  simp only [ClockTime.toInstant, Instant.of, Instant.nanosPerSecond] at hnanos ⊢
  omega

theorem seconds_of_neg (h : now.second < 0) :
    seconds now = .error (.refused .clockBeforeEpoch) := by
  rw [seconds, ClockTime.elapsed?, if_pos h]

theorem seconds_of_nonneg (h : 0 ≤ now.second) : seconds now = .ok now.second := by
  rw [seconds, ClockTime.elapsed?, if_neg (Int64.not_lt.2 h)]
  exact toSigned_toUInt64 h

/-! ### The whole of verification -/

theorem checkRoot_eq (der : Bytes) (rest : List Bytes) :
    checkRoot root (der :: rest) = refusing (Verifier.checkRoot root (der :: rest)) := by
  have hentry : entry (der :: rest) 0 = .ok der := rfl
  rw [checkRoot, Verifier.checkRoot, hentry]
  by_cases hroot : sha256 der = root.bytes
  · simp only [bind, Except.bind, hroot, if_true, List.head?_cons, Option.map_some]
    rfl
  · simp only [bind, Except.bind, hroot, if_false, List.head?_cons, Option.map_some,
      Option.some.injEq]
    rfl

/-- Once the certificates are read, all positions are in range if there is a bundle. -/
theorem checkCertificates_eq {document : Document} (hsome : document.cabundle ≠ []) :
    checkCertificates root document now =
      refusing (Verifier.checkCertificates root document now.toInstant) := by
  obtain ⟨der, ders, hders⟩ := List.exists_cons_of_ne_nil hsome
  simp only [checkCertificates, Verifier.checkCertificates, refusing_bind, hders]
  cases readCertificate .signing document.certificate with
  | error rejection => rfl
  | ok signing =>
    cases hread : readBundle 0 (der :: ders) with
    | error rejection => rfl
    | ok bundle =>
      by_cases hsign : now.second < 0
      · rw [seconds_of_neg hsign, seconds?_of_neg hsign]
        rfl
      · have hle : 0 ≤ now.second := Int64.not_lt.1 hsign
        have htoNat : (now.second.toInt.toNat : Int) = now.second.toInt :=
          Int.toNat_of_nonneg (Int64.le_iff_toInt_le.1 hle)
        obtain ⟨first, rest, -, -, rfl⟩ :=
          List.forall₂_cons_left_iff.1 (readBundle_eq_ok_iff.1 hread)
        rw [seconds_of_nonneg hle, seconds?_of_nonneg hle]
        change (do
            refusing (checkWindows now.second.toInt (first :: rest ++ [signing]))
            checkRoot root (der :: ders)
            checkChain (first :: rest) signing
            pure signing.key) =
          refusing (do
            checkWindows now.second.toInt.toNat (first :: rest ++ [signing])
            Verifier.checkRoot root (der :: ders)
            Verifier.checkChain signing 0 first.key (first :: rest)
            pure signing.key)
        rw [htoNat, checkRoot_eq, checkChain_eq]
        simp only [refusing_bind]
        rfl

/-- By positions and in words, verification comes to what it comes to without them. -/
theorem verify_eq (root : Fingerprint) (input : Bytes) (now : ClockTime) :
    verify root input now = refusing (Verifier.verify root input now.toInstant) := by
  rw [verify, Verifier.verify, refusing_bind]
  cases hopen : open? input with
  | error rejection => rfl
  | ok opened =>
    obtain ⟨envelope, document⟩ := opened
    have hsome : document.cabundle ≠ [] := (open?_eq_ok_iff.1 hopen).2.2.2.cabundle
    simp only [bind, Except.bind, refusing, Except.mapError]
    rw [checkCertificates_eq hsome]
    cases Verifier.checkCertificates root document now.toInstant with
    | error rejection => rfl
    | ok key =>
      by_cases hsigns : signs key envelope = true
      · simp only [refusing, Except.mapError, hsigns, if_true]
        rfl
      · simp only [refusing, Except.mapError, hsigns, if_false, Bool.false_eq_true]
        rfl

end Positions

/-- Whatever is verified, at whatever time a clock can show, every position is in range, no
difference falls below zero and the seconds are the same number as a signed word; and a document
that is accepted is well formed. -/
theorem verify_in_range (root : Fingerprint) (input : Bytes) :
    (∀ now : ClockTime, Positions.verify root input now =
      (verify root input now.toInstant).mapError .refused) ∧
    (∀ (now : ClockTime) (trap : Trap), Positions.verify root input now ≠ .error (.trapped trap)) ∧
    (∀ (now : Instant) (document : Document), verify root input now = .ok document →
      document.WellFormed) := by
  refine ⟨Positions.verify_eq root input, ?_, ?_⟩
  · intro now trap h
    rw [Positions.verify_eq] at h
    obtain ⟨rejection, -, hsame⟩ := mapError_eq_error_iff.1 h
    cases hsame
  · intro now document h
    obtain ⟨envelope, key, hopen, -, -⟩ := verify_eq_ok_iff.1 h
    exact (open?_eq_ok_iff.1 hopen).2.2.2

end Verifier

end AttestedUplink
