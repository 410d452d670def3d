import AttestedUplink.Endpoint
import AttestedUplink.Proofs.Checks
import AttestedUplink.Proofs.Text.Cuts
import AttestedUplink.Proofs.Text.Numerals

/-!
# The grammar of endpoints

Reading an endpoint cuts its text three times: at the first `://`, at the first slash after that,
and at the last colon before the slash. The texts that come through are described here without any
order of cuts, by what their parts must not contain.
-/

namespace AttestedUplink.Endpoint

open Checks
open Numeral (Spells)

variable {cs scheme host port tail authority rest : List Char} {address : Address}
  {endpoint : Endpoint} {path : String}

/-- The parts of a text, with the separators between them. The tail is where the path goes. -/
structure Layout (cs scheme host port tail : List Char) : Prop where
  text : cs = scheme ++ "://".toList ++ (host ++ ':' :: port ++ tail)
  slash_host : '/' ∉ host
  slash_port : '/' ∉ port
  colon_port : ':' ∉ port
  tail : tail = [] ∨ ∃ rest, tail = '/' :: rest

/-- The address that the parts before the tail are for. -/
inductive Denotes : (scheme host port : List Char) → Address → Prop
  | vsock {host port : List Char} {cid number : ℕ} (hhost : Spells host cid)
    (hcid : cid ≤ 0xFFFFFFFF) (hport : Spells port number) (hnumber : number ≤ 0xFFFFFFFF) :
    Denotes "vsock".toList host port (.vsock (.ofNat cid) (.ofNat number))
  | tcp {host port : List Char} {number : ℕ} (hhost : host ≠ []) (hport : Spells port number)
    (hnumber : number ≤ 65535) :
    Denotes "tcp".toList host port (.tcp (String.ofList host) (.ofNat number))

/-- The path that a tail gives: itself, or the usual one if there is none. -/
def tailPath (tail : List Char) : String :=
  if tail = [] then "/connect" else String.ofList tail

/-- The text is a way to write the endpoint. -/
def Written (text : String) (endpoint : Endpoint) : Prop :=
  ∃ scheme host port tail, Layout text.toList scheme host port tail ∧
    Denotes scheme host port endpoint.address ∧ endpoint.path = tailPath tail

theorem Denotes.colon_scheme (h : Denotes scheme host port address) : ':' ∉ scheme := by
  cases h <;> decide

/-! ### The cuts -/

theorem tailPath_cons (c : Char) (rest : List Char) :
    tailPath (c :: rest) = String.ofList (c :: rest) :=
  if_neg (List.cons_ne_nil c rest)

theorem splitPath_eq_iff :
    splitPath rest = (authority, path) ↔
      ∃ tail, rest = authority ++ tail ∧ '/' ∉ authority ∧
        (tail = [] ∨ ∃ rest, tail = '/' :: rest) ∧ path = tailPath tail := by
  unfold splitPath
  constructor
  · intro h
    split at h
    · rename_i front after hcut
      obtain ⟨rfl, hfront⟩ := Split.first?_eq_some_iff.1 hcut
      cases h
      exact ⟨_, rfl, hfront, .inr ⟨after, rfl⟩, (tailPath_cons ..).symm⟩
    · rename_i hcut
      cases h
      exact ⟨[], (List.append_nil _).symm, Split.first?_eq_none_iff.1 hcut, .inl rfl, rfl⟩
  · rintro ⟨tail, rfl, hslash, rfl | ⟨after, rfl⟩, rfl⟩
    · rw [List.append_nil, Split.first?_eq_none_iff.2 hslash]
      rfl
    · rw [Split.first?_eq_some_iff.2 ⟨rfl, hslash⟩, tailPath_cons]

theorem readAddress_eq_ok_iff :
    readAddress scheme host port = .ok address ↔ Denotes scheme host port address := by
  unfold readAddress
  constructor
  · intro h
    split at h
    · rename_i hscheme
      subst hscheme
      split at h
      · cases h
      · rename_i cid hcid
        split at h
        · cases h
        · rename_i number hnumber
          cases h
          obtain ⟨n, hspells, hle, rfl⟩ := Numeral.readWord32?_eq_some_iff.1 hcid
          obtain ⟨m, hspells', hle', rfl⟩ := Numeral.readWord32?_eq_some_iff.1 hnumber
          exact .vsock hspells hle hspells' hle'
    · split at h
      · rename_i hscheme
        subst hscheme
        split at h
        · cases h
        · rename_i hhost
          split at h
          · cases h
          · rename_i number hnumber
            cases h
            obtain ⟨n, hspells, hle, rfl⟩ := Numeral.readWord16?_eq_some_iff.1 hnumber
            exact .tcp (mt List.isEmpty_iff.2 hhost) hspells hle
      · cases h
  · intro h
    cases h with
    | vsock hhost hcid hport hnumber =>
      rw [if_pos rfl, Numeral.readWord32?_eq_some_iff.2 ⟨_, hhost, hcid, rfl⟩,
        Numeral.readWord32?_eq_some_iff.2 ⟨_, hport, hnumber, rfl⟩]
    | tcp hhost hport hnumber =>
      rw [if_neg (by decide), if_pos rfl, if_neg (mt List.isEmpty_iff.1 hhost),
        Numeral.readWord16?_eq_some_iff.2 ⟨_, hport, hnumber, rfl⟩]

theorem read_eq_ok_iff :
    read cs = .ok endpoint ↔
      ∃ scheme rest authority host port,
        Split.first? "://".toList cs = some (scheme, rest) ∧
          splitPath rest = (authority, endpoint.path) ∧
          Split.last? ':' authority = some (host, port) ∧
          readAddress scheme host port = .ok endpoint.address := by
  unfold read
  constructor
  · intro h
    split at h
    · cases h
    · rename_i scheme rest hscheme
      split at h
      rename_i authority path hpath
      split at h
      · cases h
      · rename_i host port hport
        cases haddress : readAddress scheme host port with
        | error defect =>
          rw [haddress] at h
          cases h
        | ok address =>
          rw [haddress] at h
          cases h
          exact ⟨scheme, rest, authority, host, port, hscheme, hpath, hport, haddress⟩
  · rintro ⟨scheme, rest, authority, host, port, hscheme, hpath, hport, haddress⟩
    simp only [hscheme, hpath, hport, haddress]
    rfl

/-! ### The texts that are read -/

theorem written_iff_read (text : String) :
    Written text endpoint ↔ read text.toList = .ok endpoint := by
  rw [read_eq_ok_iff]
  constructor
  · rintro ⟨scheme, host, port, tail, hlayout, hdenotes, hpath⟩
    have hslash : '/' ∉ host ++ ':' :: port := by
      simp [hlayout.slash_host, hlayout.slash_port]
    refine ⟨scheme, host ++ ':' :: port ++ tail, host ++ ':' :: port, host, port, ?_, ?_, ?_, ?_⟩
    · rw [hlayout.text]
      exact Split.first?_append hdenotes.colon_scheme _
    · exact splitPath_eq_iff.2 ⟨tail, rfl, hslash, hlayout.tail, hpath⟩
    · exact Split.last?_eq_some_iff.2 ⟨rfl, hlayout.colon_port⟩
    · exact readAddress_eq_ok_iff.2 hdenotes
  · rintro ⟨scheme, rest, authority, host, port, hscheme, hsplit, hport, haddress⟩
    obtain ⟨tail, rfl, hslash, htail, hpath⟩ := splitPath_eq_iff.1 hsplit
    obtain ⟨rfl, hcolon⟩ := Split.last?_eq_some_iff.1 hport
    have htext := Split.eq_append_of_first? hscheme
    simp only [List.mem_append, List.mem_cons, not_or] at hslash
    refine ⟨scheme, host, port, tail, ?_, readAddress_eq_ok_iff.1 haddress, hpath⟩
    exact ⟨htext, hslash.1, hslash.2.2, hcolon, htail⟩

theorem parse_eq_ok_iff {text : String} : parse text = .ok endpoint ↔ Written text endpoint := by
  rw [written_iff_read, parse, mapError_eq_ok_iff]

/-- A text is read as an endpoint exactly if it is a way to write it. Of any other text it is said
that it is no endpoint, and why. -/
theorem parse_grammar (text : String) :
    (∀ endpoint, parse text = .ok endpoint ↔ Written text endpoint) ∧
      ((∀ endpoint, ¬Written text endpoint) → ∃ defect : Defect,
        parse text =
          .error ⟨.config, s!"Invalid endpoint {Quoted.text text}: {defect.reason}"⟩) := by
  refine ⟨fun _ ↦ parse_eq_ok_iff, fun hunwritten ↦ ?_⟩
  have hrefused : ∀ endpoint, parse text ≠ .ok endpoint :=
    fun endpoint hparse ↦ hunwritten endpoint (parse_eq_ok_iff.1 hparse)
  obtain ⟨cause, hcause⟩ := exists_eq_error_iff.2 hrefused
  obtain ⟨defect, -, rfl⟩ := mapError_eq_error_iff.1 hcause
  exact ⟨defect, hcause⟩

/-- Colons may stand in a host and separators in a path. A port above the bound is refused. -/
theorem parse_grammar_separators :
    Written "tcp://::1:+080/x://y:1" ⟨.tcp "::1" 80, "/x://y:1"⟩ ∧
      parse "tcp://::1:+080/x://y:1" = .ok ⟨.tcp "::1" 80, "/x://y:1"⟩ ∧
      ∃ fault, parse "vsock://3:4294967296" = .error fault ∧ fault.kind = .config := by
  have hport : Spells "+080".toList 80 := Numeral.spells_iff.2 (by decide)
  have hlayout : Layout "tcp://::1:+080/x://y:1".toList "tcp".toList "::1".toList "+080".toList
      "/x://y:1".toList :=
    ⟨by decide, by decide, by decide, by decide, .inr ⟨"x://y:1".toList, by decide⟩⟩
  have hwritten : Written "tcp://::1:+080/x://y:1" ⟨.tcp "::1" 80, "/x://y:1"⟩ :=
    ⟨_, _, _, _, hlayout, .tcp (by decide) hport (by decide), by decide⟩
  have hrefused : ∀ endpoint, ¬Written "vsock://3:4294967296" endpoint := by
    intro endpoint h
    have hbad : read "vsock://3:4294967296".toList = .error .badPort := by decide +kernel
    rw [written_iff_read, hbad] at h
    cases h
  obtain ⟨defect, hdefect⟩ := (parse_grammar _).2 hrefused
  exact ⟨hwritten, ((parse_grammar _).1 _).2 hwritten, _, hdefect, rfl⟩

end AttestedUplink.Endpoint
