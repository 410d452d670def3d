import AttestedUplink.Attestation.Envelope
import AttestedUplink.Proofs.Cbor.Writing

/-!
# What a signature covers

The octets that are signed are the written form of one value, and a written value is read back from
its octets whatever follows them. So the octets settle where the header ends and the payload begins:
no other pair of byte strings has the same.
-/

namespace AttestedUplink.Envelope

open Cbor

variable {envelope other : Envelope}

theorem plain_signedValue (envelope : Envelope) (levels : Nat) :
    Value.Plain (levels + 1) envelope.signedValue := by
  refine .array fun item hitem ↦ ?_
  simp only [List.mem_cons, List.not_mem_nil, or_false] at hitem
  rcases hitem with rfl | rfl | rfl | rfl
  · exact .text _
  · exact .bytes _
  · exact .bytes _
  · exact .bytes _

/-- The signed structure is read back from the signed octets, whatever follows them. -/
theorem read_signedBytes_append (hfits : envelope.signedBytes.length < Bytes.capacity 8)
    (rest : Bytes) :
    Value.read maxNesting (envelope.signedBytes ++ rest) = some (envelope.signedValue, rest) :=
  (envelope.plain_signedValue 255).read_write hfits rest

theorem signedValue_eq_iff :
    other.signedValue = envelope.signedValue ↔
      other.protectedHeader = envelope.protectedHeader ∧ other.payload = envelope.payload := by
  simp [signedValue]

theorem signedValue_eq_of_signedBytes_eq
    (hfits : envelope.signedBytes.length < Bytes.capacity 8)
    (h : other.signedBytes = envelope.signedBytes) : other.signedValue = envelope.signedValue := by
  have hread := read_signedBytes_append hfits []
  -- Nothing is asked of the length of the other message, for it has the same octets.
  have hother := read_signedBytes_append (h ▸ hfits) []
  rw [h, hread] at hother
  exact (congrArg Prod.fst (Option.some.inj hother)).symm

/-- As long as the signed octets can be counted in a word of 64 bits, they are read as exactly the
signed structure with nothing left over, and they are those of another message exactly if it has the
same header and the same payload, whatever its signature. -/
theorem signedBytes_binding (hfits : envelope.signedBytes.length < Bytes.capacity 8) :
    Value.read maxNesting envelope.signedBytes =
        some (.array [.text "Signature1", .bytes envelope.protectedHeader, .bytes [],
          .bytes envelope.payload], []) ∧
      ∀ other : Envelope, other.signedBytes = envelope.signedBytes ↔
        other.protectedHeader = envelope.protectedHeader ∧ other.payload = envelope.payload := by
  refine ⟨?_, fun other ↦ ⟨fun h ↦ ?_, fun h ↦ ?_⟩⟩
  · have hread := read_signedBytes_append hfits []
    rwa [List.append_nil] at hread
  · exact signedValue_eq_iff.1 (signedValue_eq_of_signedBytes_eq hfits h)
  · exact congrArg Value.write (signedValue_eq_iff.2 h)

/-- A header and a payload of lengths that are written in one and in two octets. -/
def twoWidths : Envelope := ⟨List.replicate 24 0xA1, List.replicate 300 0x40, [7]⟩

theorem signedBytes_binding_twoWidths :
    twoWidths.signedBytes.length < Bytes.capacity 8 ∧
      Value.read maxNesting twoWidths.signedBytes =
        some (.array [.text "Signature1", .bytes (List.replicate 24 0xA1), .bytes [],
          .bytes (List.replicate 300 0x40)], []) ∧
      ∀ signature, ({ twoWidths with signature } : Envelope).signedBytes =
        twoWidths.signedBytes := by
  have hfits : twoWidths.signedBytes.length < Bytes.capacity 8 := by decide +kernel
  obtain ⟨hread, hsame⟩ := signedBytes_binding hfits
  exact ⟨hfits, hread, fun signature ↦ (hsame _).2 ⟨rfl, rfl⟩⟩

end AttestedUplink.Envelope
