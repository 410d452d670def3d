import AttestedUplink.Proofs.Endpoint.Grammar

/-!
# Endpoints as they are shown

The parts of an endpoint are shown without any quoting, so an endpoint is read back from its text
only if no part holds the separator that ends it. Endpoints that were read are all of that kind.
-/

namespace AttestedUplink.Endpoint

open Numeral (Spells)

variable {endpoint : Endpoint}

/-- The path starts with a slash, and a host is not empty and holds none. Colons may be anywhere. -/
structure Regular (endpoint : Endpoint) : Prop where
  path : ∃ rest, endpoint.path.toList = '/' :: rest
  host : ∀ host port, endpoint.address = .tcp host port → host ≠ "" ∧ '/' ∉ host.toList

/-! ### The parts that are shown -/

namespace Address

def host : Address → String
  | .vsock cid _ => toString cid.toNat
  | .tcp host _ => host

def port : Address → ℕ
  | .vsock _ port => port.toNat
  | .tcp _ port => port.toNat

end Address

theorem authority_eq (endpoint : Endpoint) :
    endpoint.authority = endpoint.address.host ++ ":" ++ toString endpoint.address.port := by
  unfold authority Address.host Address.port
  cases endpoint.address <;> rfl

theorem toList_display (endpoint : Endpoint) :
    endpoint.display.toList = endpoint.address.scheme.toList ++ "://".toList ++
      (endpoint.address.host.toList ++ ':' :: (toString endpoint.address.port).toList ++
        endpoint.path.toList) := by
  have hdisplay : endpoint.display =
      endpoint.address.scheme ++ "://" ++ endpoint.authority ++ endpoint.path := rfl
  have hcolon : ":".toList = [':'] := rfl
  rw [hdisplay, authority_eq]
  simp only [String.toList_append, hcolon, List.append_assoc, List.nil_append,
    List.cons_append]

theorem slash_not_mem_host (h : Regular endpoint) : '/' ∉ endpoint.address.host.toList := by
  cases haddress : endpoint.address with
  | vsock cid port => exact Numeral.not_mem_toString cid.toNat rfl
  | tcp host port => exact (h.host host port haddress).2

theorem layout_display (h : Regular endpoint) :
    Layout endpoint.display.toList endpoint.address.scheme.toList endpoint.address.host.toList
      (toString endpoint.address.port).toList endpoint.path.toList where
  text := toList_display endpoint
  slash_host := slash_not_mem_host h
  slash_port := Numeral.not_mem_toString _ rfl
  colon_port := Numeral.not_mem_toString _ rfl
  tail := .inr h.path

theorem denotes_address (h : Regular endpoint) :
    Denotes endpoint.address.scheme.toList endpoint.address.host.toList
      (toString endpoint.address.port).toList endpoint.address := by
  cases haddress : endpoint.address with
  | vsock cid port =>
    have hdenotes := Denotes.vsock (Numeral.spells_toString cid.toNat)
      (Nat.le_of_lt_succ cid.toNat_lt) (Numeral.spells_toString port.toNat)
      (Nat.le_of_lt_succ port.toNat_lt)
    rwa [UInt32.ofNat_toNat, UInt32.ofNat_toNat] at hdenotes
  | tcp host port =>
    have hhost : host.toList ≠ [] := mt String.toList_eq_nil_iff.1 (h.host host port haddress).1
    have hdenotes := Denotes.tcp hhost (Numeral.spells_toString port.toNat)
      (Nat.le_of_lt_succ port.toNat_lt)
    rwa [UInt16.ofNat_toNat, String.ofList_toList] at hdenotes

theorem written_display (h : Regular endpoint) : Written endpoint.display endpoint := by
  refine ⟨_, _, _, _, layout_display h, denotes_address h, ?_⟩
  obtain ⟨rest, hpath⟩ := h.path
  rw [hpath, tailPath_cons, ← hpath, String.ofList_toList]

/-! ### The endpoints that are read -/

theorem exists_tailPath_eq {tail : List Char} (h : tail = [] ∨ ∃ rest, tail = '/' :: rest) :
    ∃ rest, (tailPath tail).toList = '/' :: rest := by
  rcases h with rfl | ⟨rest, rfl⟩
  · exact ⟨"connect".toList, by decide⟩
  · exact ⟨rest, by rw [tailPath_cons, String.toList_ofList]⟩

theorem regular_of_written {text : String} (h : Written text endpoint) : Regular endpoint := by
  obtain ⟨scheme, host, port, tail, hlayout, hdenotes, hpath⟩ := h
  constructor
  · rw [hpath]
    exact exists_tailPath_eq hlayout.tail
  · intro name number haddress
    rw [haddress] at hdenotes
    cases hdenotes with
    | tcp hhost hport hnumber =>
      rw [String.toList_ofList]
      refine ⟨fun hempty ↦ hhost ?_, hlayout.slash_host⟩
      rw [← String.toList_ofList (l := host), hempty]
      rfl

theorem parse_display_of_regular (h : Regular endpoint) :
    parse endpoint.display = .ok endpoint :=
  parse_eq_ok_iff.2 (written_display h)

theorem regular_of_parse {text : String} (h : parse text = .ok endpoint) : Regular endpoint :=
  regular_of_written (parse_eq_ok_iff.1 h)

/-- Exactly the regular endpoints are read back from their own text. Every endpoint that is read
from some text is regular, so it is read again from the text that it is shown as; and two endpoints
that were read are the same if they are shown alike. -/
theorem parse_display :
    (∀ endpoint, parse endpoint.display = .ok endpoint ↔ Regular endpoint) ∧
      (∀ text endpoint, parse text = .ok endpoint →
        Regular endpoint ∧ parse endpoint.display = .ok endpoint) ∧
      ∀ text text' endpoint endpoint', parse text = .ok endpoint → parse text' = .ok endpoint' →
        endpoint.display = endpoint'.display → endpoint = endpoint' := by
  refine ⟨fun endpoint ↦ ⟨regular_of_parse, parse_display_of_regular⟩, ?_, ?_⟩
  · intro text endpoint hparse
    have hregular := regular_of_parse hparse
    exact ⟨hregular, parse_display_of_regular hregular⟩
  · intro text text' endpoint endpoint' hparse hparse' hdisplay
    have hread := parse_display_of_regular (regular_of_parse hparse)
    have hread' := parse_display_of_regular (regular_of_parse hparse')
    rw [hdisplay, hread'] at hread
    exact (Except.ok.inj hread).symm

/-- A host with blanks, colons and letters beyond ASCII, and separators in the path. -/
theorem parse_display_separators :
    Regular ⟨.tcp "a b:ß:" 65535, "/c:1://d"⟩ ∧
      parse "tcp://a b:ß::65535/c:1://d" = .ok ⟨.tcp "a b:ß:" 65535, "/c:1://d"⟩ := by
  have hregular : Regular ⟨.tcp "a b:ß:" 65535, "/c:1://d"⟩ := by
    constructor
    · exact ⟨"c:1://d".toList, by decide⟩
    · rintro _ _ ⟨⟩
      decide
  have hread := (parse_display.1 _).2 hregular
  have hdisplay : display ⟨.tcp "a b:ß:" 65535, "/c:1://d"⟩ = "tcp://a b:ß::65535/c:1://d" := by
    decide
  rw [hdisplay] at hread
  exact ⟨hregular, hread⟩

end AttestedUplink.Endpoint
