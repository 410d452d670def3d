import AttestedUplink.Proofs.Handshake.Target
import AttestedUplink.Proofs.Text.Utf8

/-!
# The blank line of the opening request

The host takes what follows the first blank line for frames. A request that is sent has no blank
line but the one at its end: what it takes from the endpoint holds no carriage return.
-/

namespace AttestedUplink.Handshake

open Checks

/-- The octet of a carriage return. -/
def carriageReturn : UInt8 := 13

def lineEnd : Bytes := [carriageReturn, 10]

def blankLine : Bytes := lineEnd ++ lineEnd

/-- Lines with their ends. -/
def text (lines : List Bytes) : Bytes := lines.flatMap fun line ↦ line ++ lineEnd

/-- `rest` is what follows the first blank line, and `before` what precedes it. -/
structure CutAt (octets before rest : Bytes) : Prop where
  eq : octets = before ++ (blankLine ++ rest)
  first : ∀ before' rest', octets = before' ++ (blankLine ++ rest') →
    before.length ≤ before'.length

variable {octets before rest before' rest' line : Bytes} {lines : List Bytes}

/-- There is one way to cut. -/
theorem CutAt.unique (h : CutAt octets before rest) (h' : CutAt octets before' rest') :
    before = before' ∧ rest = rest' := by
  have hlen : before.length = before'.length :=
    Nat.le_antisymm (h.first _ _ h'.eq) (h'.first _ _ h.eq)
  obtain ⟨hbefore, hrest⟩ := List.append_inj (h.eq.symm.trans h'.eq) hlen
  exact ⟨hbefore, List.append_cancel_left hrest⟩

/-- What stands before a carriage return that follows a line goes at least to the line's end. -/
theorem append_of_carriageReturn {after after' : Bytes} (hline : carriageReturn ∉ line)
    (h : line ++ after = before ++ (carriageReturn :: after')) :
    ∃ inside, before = line ++ inside ∧ after = inside ++ (carriageReturn :: after') := by
  rcases List.append_eq_append_iff.1 h with ⟨inside, hbefore, hafter⟩ | ⟨inside, hinside, hafter⟩
  · exact ⟨inside, hbefore, hafter⟩
  · cases inside with
    | nil => exact ⟨[], by simpa using hinside.symm, by simpa using hafter.symm⟩
    | cons first inside =>
      obtain rfl := (List.cons.inj hafter).1
      exact absurd (hinside ▸ List.mem_append_right before List.mem_cons_self) hline

/-- A blank line starts no earlier than at the end of the last line. The induction is on the lines,
which a blank line has to go past one by one. -/
theorem length_text_le (hlines : ∀ line ∈ lines, line ≠ [] ∧ carriageReturn ∉ line)
    (h : text lines ++ (lineEnd ++ rest) = before ++ (blankLine ++ rest')) :
    (text lines).length ≤ before.length + lineEnd.length := by
  induction lines generalizing before with
  | nil => exact Nat.zero_le _
  | cons line lines ih =>
    obtain ⟨⟨-, hline⟩, hlines'⟩ := List.forall_mem_cons.1 hlines
    have htext : text (line :: lines) = line ++ (lineEnd ++ text lines) := by
      rw [text, List.flatMap_cons, List.append_assoc]
      rfl
    rw [htext, List.append_assoc, List.append_assoc] at h
    obtain ⟨inside, rfl, hinside⟩ : ∃ inside, before = line ++ inside ∧
        lineEnd ++ (text lines ++ (lineEnd ++ rest)) = inside ++ (blankLine ++ rest') :=
      append_of_carriageReturn hline h
    rw [htext, List.length_append, List.length_append, List.length_append]
    match inside with
    | [] =>
      -- right at the end of the line, where no other line can follow
      cases lines with
      | nil => exact Nat.le_refl _
      | cons next lines =>
        obtain ⟨hne, hnext⟩ := hlines' next List.mem_cons_self
        cases next with
        | nil => exact absurd rfl hne
        | cons b bs =>
          have hfirst : text ((b :: bs) :: lines) ++ (lineEnd ++ rest) = lineEnd ++ rest' := by
            simpa only [blankLine, List.nil_append, List.append_assoc, List.append_cancel_left_eq]
              using hinside
          have hb : b = carriageReturn := (List.cons.inj hfirst).1
          exact absurd (hb ▸ List.mem_cons_self) hnext
    | [b] =>
      have hnewline : (10 : UInt8) = carriageReturn := by
        simp only [blankLine, lineEnd, List.cons_append, List.nil_append, List.cons.injEq]
          at hinside
        exact hinside.2.1
      exact absurd hnewline (by decide)
    | b :: b' :: inside =>
      have hlater : text lines ++ (lineEnd ++ rest) = inside ++ (blankLine ++ rest') := by
        simp only [lineEnd, List.cons_append, List.nil_append, List.cons.injEq] at hinside
        exact hinside.2.2
      have hle := ih hlines' hlater
      simp only [List.length_cons, lineEnd, List.length_nil] at hle ⊢
      omega

/-- Lines that are not empty have no blank line before the one that ends them. -/
theorem cutAt_text {last : Bytes} (hlines : ∀ line ∈ lines, line ≠ [] ∧ carriageReturn ∉ line)
    (hlast : last ≠ [] ∧ carriageReturn ∉ last) (rest : Bytes) :
    CutAt (text lines ++ (last ++ (blankLine ++ rest))) (text lines ++ last) rest where
  eq := (List.append_assoc ..).symm
  first := by
    intro before' rest' h
    have hall : ∀ line ∈ lines ++ [last], line ≠ [] ∧ carriageReturn ∉ line := by
      intro line hline
      rcases List.mem_append.1 hline with hmem | hmem
      · exact hlines line hmem
      · rw [List.mem_singleton.1 hmem]
        exact hlast
    have htext : text (lines ++ [last]) ++ (lineEnd ++ rest) =
        text lines ++ (last ++ (blankLine ++ rest)) := by
      simp [text, blankLine]
    have hle := length_text_le hall (htext.trans h)
    simp only [text, List.flatMap_append, List.flatMap_singleton, List.length_append] at hle ⊢
    omega

/-! ### The request -/

theorem toNat_of_isHeaderChar {c : Char} (h : isHeaderChar c = true) :
    c.toNat = 9 ∨ 32 ≤ c.toNat := by
  simp only [isHeaderChar, Bool.or_eq_true, Bool.and_eq_true, decide_eq_true_eq] at h
  rcases h with rfl | ⟨h, -⟩
  · exact .inl rfl
  · exact .inr h

/-- The lines of a request but for the last. -/
def requestLines (target authority : String) : List Bytes :=
  [Bytes.ofText "POST " ++ (Bytes.ofText target ++ Bytes.ofText " HTTP/1.1"),
    Bytes.ofText "host: " ++ Bytes.ofText authority]

def lastLine : Bytes := Bytes.ofText "content-length: 0"

theorem ofText_headText (target authority : String) :
    Bytes.ofText (headText target authority) =
      text (requestLines target authority) ++ (lastLine ++ blankLine) := by
  have hhost : Bytes.ofText " HTTP/1.1\r\nhost: " =
      Bytes.ofText " HTTP/1.1" ++ (lineEnd ++ Bytes.ofText "host: ") := by
    simp only [Bytes.ofText_eq_flatMap]
    decide
  have hlast : Bytes.ofText "\r\ncontent-length: 0\r\n\r\n" =
      lineEnd ++ (lastLine ++ blankLine) := by
    simp only [lastLine, Bytes.ofText_eq_flatMap]
    decide
  have hhead : headText target authority =
      "POST " ++ target ++ " HTTP/1.1\r\nhost: " ++ authority ++
        "\r\ncontent-length: 0\r\n\r\n" := rfl
  simp only [hhead, Bytes.ofText_append, hhost, hlast]
  simp [text, requestLines]

theorem not_mem_ofText_of_ne {content : String} (h : ∀ c ∈ content.toList, c.toNat ≠ 13) :
    carriageReturn ∉ Bytes.ofText content :=
  Bytes.not_mem_ofText (by decide) h

theorem requestLines_spec {kept authority : String} (hkept : ∀ c ∈ kept.toList, c.toNat ≠ 13)
    (hauthority : ∀ c ∈ authority.toList, c.toNat ≠ 13) :
    ∀ line ∈ requestLines kept authority, line ≠ [] ∧ carriageReturn ∉ line := by
  have hpost : Bytes.ofText "POST " ≠ [] ∧ carriageReturn ∉ Bytes.ofText "POST " := by
    rw [Bytes.ofText_eq_flatMap]
    decide
  have hversion : carriageReturn ∉ Bytes.ofText " HTTP/1.1" := by
    rw [Bytes.ofText_eq_flatMap]
    decide
  have hhost : Bytes.ofText "host: " ≠ [] ∧ carriageReturn ∉ Bytes.ofText "host: " := by
    rw [Bytes.ofText_eq_flatMap]
    decide
  refine List.forall_mem_cons.2 ⟨⟨?_, ?_⟩, List.forall_mem_singleton.2 ⟨?_, ?_⟩⟩
  · exact List.append_ne_nil_of_left_ne_nil hpost.1 _
  · simp only [List.mem_append, not_or]
    exact ⟨hpost.2, not_mem_ofText_of_ne hkept, hversion⟩
  · exact List.append_ne_nil_of_left_ne_nil hhost.1 _
  · simp only [List.mem_append, not_or]
    exact ⟨hhost.2, not_mem_ofText_of_ne hauthority⟩

theorem lastLine_spec : lastLine ≠ [] ∧ carriageReturn ∉ lastLine := by
  rw [lastLine, Bytes.ofText_eq_flatMap]
  decide

/-- A request that is sent is cut at its end, whatever follows it. -/
theorem cutAt_head {endpoint : Endpoint} {head : Bytes} (h : Handshake.head endpoint = .ok head) :
    ∃ before, head = before ++ blankLine ∧ ∀ rest, CutAt (head ++ rest) before rest := by
  obtain ⟨kept, htarget, h⟩ := bind_eq_ok_iff.1 h
  split at h
  · rename_i hauthority
    obtain rfl := pure_eq_ok_iff.1 h
    have hlines := requestLines_spec
      (fun c hc ↦ by have := visible_of_target htarget c hc; omega)
      (fun c hc ↦ by have := toNat_of_isHeaderChar (List.all_eq_true.1 hauthority c hc); omega)
    refine ⟨text (requestLines kept endpoint.authority) ++ lastLine, ?_, fun rest ↦ ?_⟩
    · rw [ofText_headText, List.append_assoc]
    · have hcut := cutAt_text hlines lastLine_spec rest
      rw [ofText_headText, List.append_assoc, List.append_assoc]
      exact hcut
  · cases h

end AttestedUplink.Handshake
