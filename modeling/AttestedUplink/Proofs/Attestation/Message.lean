import AttestedUplink.Proofs.Attestation.Acceptance
import AttestedUplink.Proofs.Cbor.Writing

/-!
# Ways to spell a message

The same three byte strings can be sent in many ways: with or without the tag, with heads of any
width, with any unprotected header, and with anything behind the message. Verification cannot tell
these ways apart, and it opens nothing else.
-/

namespace AttestedUplink

open Checks

namespace Envelope

/-- The octets of a message without its tag: an array of four items of closed length. The
unprotected header is any map that can be read two levels below the outermost. -/
inductive Bare (envelope : Envelope) : Bytes → Prop
  | mk {outer first unprotected second third : Bytes}
    {entries : List (Cbor.Value × Cbor.Value)}
    (houter : Cbor.HeadOf 4 4 outer)
    (hprotected : Cbor.HeadOf 2 envelope.protectedHeader.length first)
    (hunprotected :
      Cbor.Value.read (Cbor.maxNesting - 2) unprotected = some (.map entries, []))
    (hpayload : Cbor.HeadOf 2 envelope.payload.length second)
    (hsignature : Cbor.HeadOf 2 envelope.signature.length third) :
    Bare envelope (outer ++ (first ++ (envelope.protectedHeader ++ (unprotected ++
      (second ++ (envelope.payload ++ (third ++ envelope.signature)))))))

/-- The octets of a message, which may stand under one tag. -/
inductive Spelled (envelope : Envelope) : Bytes → Prop
  | bare {message : Bytes} (h : Bare envelope message) : Spelled envelope message
  | tagged {head message : Bytes} (hhead : Cbor.HeadOf 6 18 head) (h : Bare envelope message) :
    Spelled envelope (head ++ message)

/-- A message with the shortest heads and no tag. -/
def write (envelope : Envelope) (unprotected : Bytes) : Bytes :=
  Cbor.writeHead 4 4 ++ (Cbor.writeHead 2 envelope.protectedHeader.length ++
    (envelope.protectedHeader ++ (unprotected ++ (Cbor.writeHead 2 envelope.payload.length ++
      (envelope.payload ++ (Cbor.writeHead 2 envelope.signature.length ++ envelope.signature))))))

/-- Values that are no message. -/
inductive Misshapen : Cbor.Value → Prop
  | otherTag {number : Nat} {value : Cbor.Value} (h : number ≠ 18) : Misshapen (.tag number value)
  | tagTwice {value : Cbor.Value} : Misshapen (.tag 18 (.tag 18 value))
  | count {items : List Cbor.Value} (h : items.length ≠ 4) : Misshapen (.array items)
  | protectedHeader {header unprotected payload signature : Cbor.Value}
    (h : ∀ octets, header ≠ .bytes octets) :
    Misshapen (.array [header, unprotected, payload, signature])
  | unprotected {header unprotected payload signature : Cbor.Value}
    (h : ∀ entries, unprotected ≠ .map entries) :
    Misshapen (.array [header, unprotected, payload, signature])
  | payload {header unprotected payload signature : Cbor.Value}
    (h : ∀ octets, payload ≠ .bytes octets) :
    Misshapen (.array [header, unprotected, payload, signature])
  | signature {header unprotected payload signature : Cbor.Value}
    (h : ∀ octets, signature ≠ .bytes octets) :
    Misshapen (.array [header, unprotected, payload, signature])
  | tagged {items : List Cbor.Value} (h : Misshapen (.array items)) :
    Misshapen (.tag 18 (.array items))

variable {envelope : Envelope} {input message : Bytes}

/-! ### Reading a message -/

/-- A message is read below at least one level. -/
theorem Bare.read (h : Bare envelope message) {levels : Nat}
    (hlevels : Cbor.maxNesting - 2 ≤ levels) (rest : Bytes) : ∃ entries,
      Cbor.Value.read (levels + 1) (message ++ rest) = some (envelope.message entries, rest) := by
  obtain ⟨houter, hprotected, hunprotected, hpayload, hsignature⟩ := h
  rename_i outer first unprotected second third entries
  refine ⟨entries, ?_⟩
  simp only [List.append_assoc]
  have hhead := houter.read_append (by decide) (first ++ (envelope.protectedHeader ++
    (unprotected ++ (second ++ (envelope.payload ++ (third ++ (envelope.signature ++ rest)))))))
  have hmap (more : Bytes) :
      Cbor.Value.read levels (unprotected ++ more) = some (.map entries, more) :=
    Cbor.Value.read_append hlevels hunprotected more
  rw [Cbor.Value.read_array hhead]
  simp only [Cbor.readMany, Cbor.readCounted, hprotected.read_bytes, hmap, hpayload.read_bytes,
    hsignature.read_bytes, Option.map_some]
  rfl

theorem Spelled.decode_append (h : Spelled envelope message) (trailing : Bytes) :
    decode (message ++ trailing) = .ok envelope := by
  rw [decode_eq_ok_iff]
  cases h with
  | bare h =>
    have hlevels : Cbor.maxNesting - 2 ≤ Cbor.maxNesting - 1 := by decide
    obtain ⟨entries, hread⟩ := h.read hlevels trailing
    have hmessage : Cbor.Value.read Cbor.maxNesting (message ++ trailing) =
        some (envelope.message entries, trailing) := hread
    exact ⟨entries, Or.inl (by rw [Cbor.Value.decode, hmessage, Option.map_some])⟩
  | @tagged head message hhead h =>
    obtain ⟨entries, hread⟩ := h.read (Nat.le_refl _) trailing
    have htag : Cbor.Head.read (head ++ (message ++ trailing)) =
        some (.tag 18, message ++ trailing) := hhead.read_append (by decide) _
    have hmessage : Cbor.Value.read (Cbor.maxNesting - 2 + 2) (head ++ message ++ trailing) =
        some (.tag 18 (envelope.message entries), trailing) := by
      rw [List.append_assoc, Cbor.Value.read_tag htag rfl, hread, Option.map_some]
    have hlevels : Cbor.maxNesting = Cbor.maxNesting - 2 + 2 := rfl
    exact ⟨entries, Or.inr (by rw [Cbor.Value.decode, hlevels, hmessage, Option.map_some])⟩

/-- The shortest heads spell a message whose byte strings are not too long for any head. -/
theorem bare_write {unprotected : Bytes} {entries : List (Cbor.Value × Cbor.Value)}
    (hunprotected : Cbor.Value.read (Cbor.maxNesting - 2) unprotected = some (.map entries, []))
    (hprotected : envelope.protectedHeader.length < Bytes.capacity 8)
    (hpayload : envelope.payload.length < Bytes.capacity 8)
    (hsignature : envelope.signature.length < Bytes.capacity 8) :
    Bare envelope (envelope.write unprotected) :=
  .mk (Cbor.headOf_writeHead (by decide)) (Cbor.headOf_writeHead hprotected) hunprotected
    (Cbor.headOf_writeHead hpayload) (Cbor.headOf_writeHead hsignature)

/-! ### Everything else -/

theorem Misshapen.ofValue_ne_ok {value : Cbor.Value} (h : Misshapen value) (envelope : Envelope) :
    ofValue value ≠ .ok envelope := by
  have harray {items : List Cbor.Value} (h : Misshapen (.array items))
      (entries : List (Cbor.Value × Cbor.Value)) : .array items ≠ envelope.message entries := by
    intro heq
    obtain rfl := Cbor.Value.array.inj heq
    cases h with
    | count h => exact h rfl
    | protectedHeader h => exact h _ rfl
    | unprotected h => exact h _ rfl
    | payload h => exact h _ rfl
    | signature h => exact h _ rfl
  rw [ne_eq, ofValue_eq_ok_iff]
  rintro ⟨entries, hbare | htagged⟩
  · subst hbare
    exact harray h entries rfl
  · subst htagged
    cases h with
    | otherTag h => exact h rfl
    | tagged h => exact harray h entries rfl

end Envelope

namespace Verifier

/-- Of a message only what it is decoded to is looked at. -/
theorem verify_eq_of_decode_eq {first second : Bytes}
    (h : Envelope.decode first = Envelope.decode second) (root : Fingerprint) (now : Instant) :
    verify root first now = verify root second now := by
  simp only [verify, open?, h]

theorem verify_of_decode_eq_error {input : Bytes} {defect : Envelope.Defect}
    (h : Envelope.decode input = .error defect) (root : Fingerprint) (now : Instant) :
    verify root input now = .error (.envelope defect) := by
  simp only [verify, open?, h]
  rfl

end Verifier

/-- A message is decoded to the three byte strings that it spells, in whichever way it spells them
and whatever follows, so that all of its spellings are verified with the same result. Decoding
succeeds on nothing but a message or a message under one tag; the rest is malformed. -/
theorem Envelope.decode_spelled (envelope : Envelope) :
    (∀ message, Spelled envelope message → ∀ trailing,
      decode (message ++ trailing) = .ok envelope) ∧
    (∀ first second, Spelled envelope first → Spelled envelope second →
      ∀ trailing trailing' root now,
        Verifier.verify root (first ++ trailing) now =
          Verifier.verify root (second ++ trailing') now) ∧
    (∀ unprotected entries,
      Cbor.Value.read (Cbor.maxNesting - 2) unprotected = some (.map entries, []) →
      envelope.protectedHeader.length < Bytes.capacity 8 →
      envelope.payload.length < Bytes.capacity 8 → envelope.signature.length < Bytes.capacity 8 →
      Bare envelope (envelope.write unprotected)) ∧
    (∀ input, decode input = .ok envelope ↔ ∃ unprotected,
      Cbor.Value.decode input = some (envelope.message unprotected) ∨
        Cbor.Value.decode input = some (.tag 18 (envelope.message unprotected))) ∧
    (∀ input, (Cbor.Value.decode input = none ∨
        ∃ value, Cbor.Value.decode input = some value ∧ Misshapen value) →
      ¬∃ envelope, decode input = .ok envelope) ∧
    (∀ input, (¬∃ envelope, decode input = .ok envelope) → ∃ rejection : Rejection,
      rejection.toFault.kind = .malformedDocument ∧
        ∀ root now, Verifier.verify root input now = .error rejection) := by
  refine ⟨?_, ?_, ?_, ?_, ?_, ?_⟩
  · intro message hmessage trailing
    exact hmessage.decode_append trailing
  · intro first second hfirst hsecond trailing trailing' root now
    have hsame : decode (first ++ trailing) = decode (second ++ trailing') :=
      (hfirst.decode_append trailing).trans (hsecond.decode_append trailing').symm
    exact Verifier.verify_eq_of_decode_eq hsame root now
  · intro unprotected entries hunprotected hprotected hpayload hsignature
    exact bare_write hunprotected hprotected hpayload hsignature
  · intro input
    exact decode_eq_ok_iff
  · rintro input (hnone | ⟨value, hvalue, hmisshapen⟩) ⟨other, hdecode⟩
    · rw [decode, hnone] at hdecode
      cases hdecode
    · rw [decode, hvalue] at hdecode
      exact hmisshapen.ofValue_ne_ok other hdecode
  · intro input hrefused
    obtain ⟨defect, hdecode⟩ := exists_eq_error_iff.2 fun other h ↦ hrefused ⟨other, h⟩
    exact ⟨.envelope defect, rfl, Verifier.verify_of_decode_eq_error hdecode⟩

end AttestedUplink
