import AttestedUplink.Proofs.Handshake.Sendable
import AttestedUplink.Tunnel.Rehearsal

/-!
# The opening request on any stream

The request is sent over a stream that may take it in portions of any sizes and fail at any of them
or at the flush. Whatever it does, it is offered nothing but the rest of one head, and neither the
host nor the path of the endpoint can add a line to that head or end it early. If no request can be
made, the stream is not touched.
-/

namespace AttestedUplink

open Checks

/-! ### Writers and streams -/

namespace StreamWriter

theorem start_eq_flushing_iff {octets : Bytes} : start octets = .flushing ↔ octets = [] := by
  unfold start
  split <;> simp_all

/-- What comes of a writer that gets some answers: the octets that the stream took, and the outcome.
After the end nothing is asked any more. -/
def run (writer : StreamWriter) : List StreamAnswer → Bytes × Outcome
  | [] => ([], .writing writer)
  | answer :: answers =>
    match writer.step answer with
    | (taken, .writing next) => (taken ++ (next.run answers).1, (next.run answers).2)
    | ended => ended

variable {writer next : StreamWriter} {answer : StreamAnswer} {answers : List StreamAnswer}
  {taken head : Bytes}

theorem run_cons_of_writing (h : writer.step answer = (taken, .writing next)) :
    writer.run (answer :: answers) = (taken ++ (next.run answers).1, (next.run answers).2) := by
  simp only [run, h]

theorem run_cons_of_ended (h : ∀ next, (writer.step answer).2 ≠ .writing next) :
    writer.run (answer :: answers) = writer.step answer := by
  rw [run]
  split
  · rename_i next hstep
    exact absurd (congrArg Prod.snd hstep) (h next)
  · rfl

theorem run_append (h : writer.run answers = (taken, .writing next)) (more : List StreamAnswer) :
    writer.run (answers ++ more) = (taken ++ (next.run more).1, (next.run more).2) := by
  induction answers generalizing writer taken with
  | nil =>
    obtain ⟨rfl, rfl⟩ : [] = taken ∧ writer = next := by simpa [run] using h
    rfl
  | cons answer answers ih =>
    rcases hstep : writer.step answer with ⟨first, later | _ | failure⟩
    · rw [run_cons_of_writing hstep, Prod.mk.injEq] at h
      obtain ⟨rfl, hlater⟩ := h
      rw [List.cons_append, run_cons_of_writing hstep, ih (Prod.ext rfl hlater), List.append_assoc]
    · rw [run_cons_of_ended (by simp [hstep]), hstep] at h
      cases h
    · rw [run_cons_of_ended (by simp [hstep]), hstep] at h
      cases h

/-- At every moment the stream has taken the front of the octets, and the rest is offered. -/
theorem run_start (answers : List StreamAnswer) (head : Bytes) :
    ∃ rest, ((start head).run answers).1 ++ rest = head ∧
      match ((start head).run answers).2 with
      | .writing next => next = start rest
      | .done => rest = []
      | .failed _ => True := by
  induction answers generalizing head with
  | nil => exact ⟨head, rfl, rfl⟩
  | cons answer answers ih =>
    rcases hstep : (start head).step answer with ⟨first, next | _ | failure⟩
    · obtain ⟨rest, hrest, houtcome⟩ := ih next.pending
      rw [← eq_start_of_step hstep] at hrest houtcome
      have hpending := step_writing hstep
      rw [pending_start] at hpending
      rw [run_cons_of_writing hstep]
      exact ⟨rest, by rw [List.append_assoc, hrest, hpending], houtcome⟩
    · obtain ⟨rfl, hpending⟩ := step_done hstep
      rw [pending_start] at hpending
      rw [run_cons_of_ended (by simp [hstep]), hstep, hpending]
      exact ⟨[], rfl, rfl⟩
    · obtain rfl := step_failed hstep
      rw [run_cons_of_ended (by simp [hstep]), hstep]
      exact ⟨head, rfl, trivial⟩

theorem run_fst_of_done (h : ((start head).run answers).2 = .done) :
    ((start head).run answers).1 = head := by
  obtain ⟨rest, hrest, houtcome⟩ := run_start answers head
  rw [h] at houtcome
  obtain rfl : rest = [] := houtcome
  rwa [List.append_nil] at hrest

/-- Some stream takes everything. -/
theorem exists_run_eq_done (head : Bytes) : ∃ answers, ((start head).run answers).2 = .done := by
  cases head with
  | nil => exact ⟨[.flushed], rfl⟩
  | cons b bs =>
    refine ⟨[.took (b :: bs).length, .flushed], ?_⟩
    simp [run, start, step]

/-- Writing ends well exactly if everything is taken and the flush that follows succeeds. -/
theorem run_eq_done_iff :
    (writer.run answers).2 = .done ↔ ∃ before after taken,
      answers = before ++ .flushed :: after ∧ writer.run before = (taken, .writing .flushing) := by
  constructor
  · intro h
    induction answers generalizing writer with
    | nil => cases h
    | cons answer answers ih =>
      rcases hstep : writer.step answer with ⟨first, next | _ | failure⟩
      · rw [run_cons_of_writing hstep] at h
        obtain ⟨before, after, taken, rfl, hbefore⟩ := ih h
        refine ⟨answer :: before, after, first ++ taken, rfl, ?_⟩
        rw [run_cons_of_writing hstep, hbefore]
      · obtain ⟨rfl, rfl⟩ : writer = .flushing ∧ answer = .flushed := by
          unfold step at hstep
          split at hstep <;> simp_all
        exact ⟨[], answers, [], rfl, rfl⟩
      · rw [run_cons_of_ended (by simp [hstep]), hstep] at h
        cases h
  · rintro ⟨before, after, taken, rfl, hbefore⟩
    rw [run_append hbefore]
    rfl

end StreamWriter

namespace Handshake

/-- What comes of sending the request: the octets that the stream took, those that it is offered
next, and the result as soon as there is one. -/
structure Exchange where
  taken : Bytes := []
  offered : Bytes := []
  result : Option (Except Fault Unit) := none

def exchange (endpoint : Endpoint) (answers : List StreamAnswer) : Exchange :=
  match writer endpoint with
  | .error cause => { result := some (.error cause) }
  | .ok writer =>
    match writer.run answers with
    | (taken, .writing next) => { taken, offered := next.pending }
    | (taken, .done) => { taken, result := some (.ok ()) }
    | (taken, .failed failure) => { taken, result := some (.error (writeFault failure)) }

/-! ### The lines of a request -/

def lineFeed : UInt8 := 10

/-- Whether a line has no octet of a line's end in it. -/
def Unbroken (line : Bytes) : Prop := carriageReturn ∉ line ∧ lineFeed ∉ line

instance (line : Bytes) : Decidable (Unbroken line) := inferInstanceAs (Decidable (_ ∧ _))

def requestLine (endpoint : Endpoint) : Bytes :=
  Bytes.ofText ("POST " ++ String.ofList (sentPath endpoint) ++ " HTTP/1.1")

def lines (endpoint : Endpoint) : List Bytes :=
  [requestLine endpoint, Bytes.ofText ("host: " ++ endpoint.authority), lastLine, []]

/-- The octets of a request: four lines, the last of them empty, that nothing of the endpoint can
break. -/
structure WellFormed (endpoint : Endpoint) (head : Bytes) : Prop where
  eq : head = Bytes.ofText ("POST " ++ String.ofList (sentPath endpoint) ++
    " HTTP/1.1\r\nhost: " ++ endpoint.authority ++ "\r\ncontent-length: 0\r\n\r\n")
  eq_text : head = text (lines endpoint)
  /-- Carriage returns and line feeds are only in the ends of the lines. -/
  unbroken : ∀ line ∈ lines endpoint, Unbroken line
  spaces : (requestLine endpoint).count 32 = 2
  ends : ∀ before after, head = before ++ (blankLine ++ after) → after = []

variable {endpoint : Endpoint} {head : Bytes} {tail : List Char}

/-- What is sent of a path that starts with a slash. -/
theorem eq_of_target (hslash : endpoint.path.toList = '/' :: tail) {kept : String}
    (h : target endpoint.path = .ok kept) : kept = String.ofList (sentPath endpoint) := by
  obtain ⟨-, hkept⟩ := (target_eq_ok_iff_of_slash hslash).1 h
  obtain ⟨heq, -⟩ := pathAndQuery_eq_ok_iff.1 hkept
  rw [sentPath, ← heq, String.ofList_toList]

theorem Unbroken.append {first second : Bytes} (hfirst : Unbroken first)
    (hsecond : Unbroken second) : Unbroken (first ++ second) := by
  simp only [Unbroken, List.mem_append, not_or]
  exact ⟨⟨hfirst.1, hsecond.1⟩, hfirst.2, hsecond.2⟩

/-- Of the characters below the blank only the tab is not a danger to lines. -/
theorem unbroken_ofText {content : String}
    (h : ∀ c ∈ content.toList, c.toNat = 9 ∨ 32 ≤ c.toNat) : Unbroken (Bytes.ofText content) := by
  have hreturn : carriageReturn.toNat = 13 := rfl
  have hfeed : lineFeed.toNat = 10 := rfl
  refine ⟨Bytes.not_mem_ofText (by decide) fun c hc ↦ ?_,
    Bytes.not_mem_ofText (by decide) fun c hc ↦ ?_⟩
  · have := h c hc
    omega
  · have := h c hc
    omega

theorem unbroken_lines (hpath : Visible (sentPath endpoint))
    (hauthority : ∀ c ∈ endpoint.authority.toList, c.toNat = 9 ∨ 32 ≤ c.toNat) :
    ∀ line ∈ lines endpoint, Unbroken line := by
  have hfixed : Unbroken (Bytes.ofText "POST ") ∧ Unbroken (Bytes.ofText " HTTP/1.1") ∧
      Unbroken (Bytes.ofText "host: ") ∧ Unbroken lastLine := by
    simp only [lastLine, Bytes.ofText_eq_flatMap]
    decide
  obtain ⟨hpost, hversion, hhost, hlast⟩ := hfixed
  have hkept : Unbroken (Bytes.ofText (String.ofList (sentPath endpoint))) := by
    refine unbroken_ofText fun c hc ↦ .inr ?_
    rw [String.toList_ofList] at hc
    exact Nat.le_of_succ_le (hpath c hc)
  have hrequest : Unbroken (requestLine endpoint) := by
    rw [requestLine, Bytes.ofText_append, Bytes.ofText_append]
    exact (hpost.append hkept).append hversion
  have hheader : Unbroken (Bytes.ofText ("host: " ++ endpoint.authority)) := by
    rw [Bytes.ofText_append]
    exact hhost.append (unbroken_ofText hauthority)
  intro line hline
  simp only [lines, List.mem_cons, List.not_mem_nil, or_false] at hline
  rcases hline with rfl | rfl | rfl | rfl
  · exact hrequest
  · exact hheader
  · exact hlast
  · exact ⟨List.not_mem_nil, List.not_mem_nil⟩

theorem count_requestLine (hpath : Visible (sentPath endpoint)) :
    (requestLine endpoint).count 32 = 2 := by
  have hspace : (32 : UInt8).toNat = 32 := rfl
  have hpost : (Bytes.ofText "POST ").count 32 = 1 := by
    rw [Bytes.ofText_eq_flatMap]
    decide
  have hversion : (Bytes.ofText " HTTP/1.1").count 32 = 1 := by
    rw [Bytes.ofText_eq_flatMap]
    decide
  have hkept : (Bytes.ofText (String.ofList (sentPath endpoint))).count 32 = 0 := by
    refine List.count_eq_zero.2 (Bytes.not_mem_ofText (by decide) fun c hc ↦ ?_)
    rw [String.toList_ofList] at hc
    have := hpath c hc
    omega
  rw [requestLine, Bytes.ofText_append, Bytes.ofText_append, List.count_append, List.count_append,
    hpost, hkept, hversion]

theorem wellFormed_of_head (hslash : endpoint.path.toList = '/' :: tail)
    (h : Handshake.head endpoint = .ok head) : WellFormed endpoint head := by
  obtain ⟨before, hbefore, hcut⟩ := cutAt_head h
  obtain ⟨kept, htarget, hrest⟩ := bind_eq_ok_iff.1 h
  split at hrest
  · rename_i hauthority
    have hhead : Bytes.ofText (headText kept endpoint.authority) = head := pure_eq_ok_iff.1 hrest
    have hkept : kept = String.ofList (sentPath endpoint) := eq_of_target hslash htarget
    have hpath : Visible (sentPath endpoint) := by
      have hvisible := visible_of_target htarget
      rw [hkept, String.toList_ofList] at hvisible
      exact hvisible
    exact
      { eq := by
          rw [← hhead, hkept]
          rfl
        eq_text := by
          rw [← hhead, ofText_headText, hkept]
          simp [text, lines, requestLines, requestLine, blankLine]
        unbroken := unbroken_lines hpath fun c hc ↦
          toNat_of_isHeaderChar (List.all_eq_true.1 hauthority c hc)
        spaces := count_requestLine hpath
        ends := by
          intro before' after hsplit
          -- The head is cut off behind its first blank line, and that is its whole length.
          have hlen := (hcut []).first before' after (by rw [List.append_nil, hsplit])
          rw [hbefore] at hsplit
          have hlens := congrArg List.length hsplit
          simp only [List.length_append] at hlens
          exact List.length_eq_zero_iff.1 (by omega) }
  · cases hrest

/-! ### The request on a stream -/

/-- What a stream makes of a request that some answers are given to. -/
structure Delivered (endpoint : Endpoint) (head : Bytes) (answers : List StreamAnswer) : Prop where
  taken : (exchange endpoint answers).taken <+: head
  offered : (exchange endpoint answers).result = none →
    (exchange endpoint answers).taken ++ (exchange endpoint answers).offered = head
  ok_iff : (exchange endpoint answers).result = some (.ok ()) ↔ ∃ before after,
    answers = before ++ .flushed :: after ∧ exchange endpoint before = { taken := head }
  error : ∀ cause, (exchange endpoint answers).result = some (.error cause) →
    cause.kind = .transport

theorem exchange_of_head (h : Handshake.head endpoint = .ok head) (answers : List StreamAnswer) :
    exchange endpoint answers =
      match (StreamWriter.start head).run answers with
      | (taken, .writing next) => { taken, offered := next.pending }
      | (taken, .done) => { taken, result := some (.ok ()) }
      | (taken, .failed failure) => { taken, result := some (.error (writeFault failure)) } := by
  simp only [exchange, writer, h]

/-- Everything is taken and nothing has failed exactly if the flush is what is asked for next. -/
theorem exchange_eq_taken_iff (h : Handshake.head endpoint = .ok head)
    {answers : List StreamAnswer} :
    exchange endpoint answers = { taken := head } ↔ ∃ taken,
      (StreamWriter.start head).run answers = (taken, .writing .flushing) := by
  obtain ⟨rest, hrest, houtcome⟩ := StreamWriter.run_start answers head
  rw [exchange_of_head h]
  rcases hrun : (StreamWriter.start head).run answers with ⟨taken, next | _ | failure⟩
  · rw [hrun] at hrest houtcome
    obtain rfl : next = .start rest := houtcome
    obtain rfl : taken ++ rest = head := hrest
    constructor
    · intro hexchange
      simp only [StreamWriter.pending_start, Exchange.mk.injEq] at hexchange
      exact ⟨taken, by rw [StreamWriter.start_eq_flushing_iff.2 hexchange.2.1]⟩
    · rintro ⟨taken', hflushing⟩
      obtain rfl : rest = [] :=
        StreamWriter.start_eq_flushing_iff.1 (StreamWriter.Outcome.writing.inj
          (congrArg Prod.snd hflushing))
      simp
  · simp
  · simp

theorem kind_writeFault (failure : StreamWriter.Failure) :
    (writeFault failure).kind = .transport := by
  cases failure <;> rfl

theorem delivered_of_head (h : Handshake.head endpoint = .ok head) (answers : List StreamAnswer) :
    Delivered endpoint head answers := by
  obtain ⟨rest, hrest, houtcome⟩ := StreamWriter.run_start answers head
  have hdone := @StreamWriter.run_eq_done_iff (.start head) answers
  have hexchange := exchange_of_head h answers
  have hok : (exchange endpoint answers).result = some (.ok ()) ↔
      ((StreamWriter.start head).run answers).2 = .done := by
    rw [hexchange]
    split <;> simp_all
  refine { taken := ?_, offered := ?_, ok_iff := ?_, error := ?_ }
  · refine ⟨rest, ?_⟩
    rw [hexchange, ← hrest]
    split <;> simp_all
  · rw [hexchange]
    split <;> simp_all
  · rw [hok, hdone]
    simp only [exchange_eq_taken_iff h, exists_and_left]
  · intro cause hcause
    rw [hexchange] at hcause
    split at hcause
    · cases hcause
    · cases hcause
    · cases hcause
      exact kind_writeFault _

/-! ### Scripted streams -/

def Exchange.fault? (outcome : Exchange) : Option Fault :=
  match outcome.result with
  | some (.error cause) => some cause
  | _ => none

theorem exists_answers_writeFrom (stream : Rehearsal.Stream) (moves : Nat) (writer : StreamWriter)
    (done : List Bytes) : ∃ answers,
      Rehearsal.writeFrom stream moves writer done =
        (done.reverse.flatten ++ (writer.run answers).1,
          match (writer.run answers).2 with
          | .writing _ => none
          | .done => some (.ok ())
          | .failed failure => some (.error failure)) := by
  induction moves generalizing stream writer done with
  | zero => exact ⟨[], by simp [Rehearsal.writeFrom, StreamWriter.run]⟩
  | succ moves ih =>
    rw [Rehearsal.writeFrom]
    split
    · exact ⟨[], by simp [StreamWriter.run]⟩
    · rename_i answer stream' _
      rcases hstep : writer.step answer with ⟨taken, next | _ | failure⟩
      -- What is done is kept backwards, and the later answers add to it.
      · obtain ⟨answers, hlater⟩ := ih stream' next (taken :: done)
        refine ⟨answer :: answers, ?_⟩
        simp only [hlater, StreamWriter.run_cons_of_writing hstep]
        simp
      · refine ⟨[answer], ?_⟩
        rw [StreamWriter.run_cons_of_ended (by simp [hstep]), hstep]
        simp
      · refine ⟨[answer], ?_⟩
        rw [StreamWriter.run_cons_of_ended (by simp [hstep]), hstep]
        simp

theorem exists_answers_rehearsal (endpoint : Endpoint) (stream : Rehearsal.Stream) :
    ∃ answers, Rehearsal.handshake endpoint stream =
      ((exchange endpoint answers).taken, (exchange endpoint answers).fault?) := by
  unfold Rehearsal.handshake
  split
  · rename_i defect hhead
    exact ⟨[], by simp only [exchange, writer, hhead, Exchange.fault?]⟩
  · rename_i head hhead
    obtain ⟨answers, hanswers⟩ :=
      exists_answers_writeFrom stream (head.length + 2) (.start head) []
    refine ⟨answers, ?_⟩
    rw [hanswers, exchange_of_head hhead]
    rcases (StreamWriter.start head).run answers with ⟨taken, next | _ | failure⟩ <;> rfl

/-- If a request can be made of an endpoint, then every stream is offered its octets and no others,
and the result is good exactly if the stream takes all of them and flushes. They are four lines that
nothing of the endpoint can break. Otherwise no stream is touched. Streams that follow a script are
among these. -/
theorem exchange_integrity {tail : List Char} (hslash : endpoint.path.toList = '/' :: tail) :
    (Sendable endpoint → ∃ head, WellFormed endpoint head ∧
        ∀ answers, Delivered endpoint head answers) ∧
      (¬Sendable endpoint → ∃ cause, cause.kind = .transport ∧
        ∀ answers, exchange endpoint answers = { result := some (.error cause) }) ∧
      ∀ stream, ∃ answers, Rehearsal.handshake endpoint stream =
        ((exchange endpoint answers).taken, (exchange endpoint answers).fault?) := by
  have hhead := exists_head_iff hslash
  refine ⟨fun hsendable ↦ ?_, fun hunsendable ↦ ?_, exists_answers_rehearsal endpoint⟩
  · obtain ⟨head, hhead⟩ := hhead.2 hsendable
    exact ⟨head, wellFormed_of_head hslash hhead, delivered_of_head hhead⟩
  · cases hresult : Handshake.head endpoint with
    | ok head => exact absurd (hhead.1 ⟨head, hresult⟩) hunsendable
    | error defect =>
      exact ⟨defect.toFault, rfl, fun answers ↦ by simp only [exchange, writer, hresult]⟩

/-- An endpoint with a tab in its host and a request behind the `#` of its path. -/
def withFragment : Endpoint := ⟨.tcp "a\tb" 80, "/x?y#\r\n\r\nPOST /z HTTP/1.1"⟩

theorem exchange_integrity_withFragment :
    withFragment.path.toList = '/' :: "x?y#\r\n\r\nPOST /z HTTP/1.1".toList ∧
      Sendable withFragment ∧ ∃ head, WellFormed withFragment head ∧
        head = Bytes.ofText "POST /x?y HTTP/1.1\r\nhost: a\tb:80\r\ncontent-length: 0\r\n\r\n" ∧
          ∀ answers, Delivered withFragment head answers := by
  have hslash : withFragment.path.toList = '/' :: "x?y#\r\n\r\nPOST /z HTTP/1.1".toList := by
    decide +kernel
  have hsendable : Sendable withFragment :=
    { short := by decide +kernel
      path := List.all_eq_true.1 (by decide +kernel)
      query := List.all_eq_true.1 (by decide +kernel)
      host := by
        rintro _ _ ⟨⟩
        exact List.all_eq_true.1 (by decide +kernel) }
  obtain ⟨head, hhead, hdelivered⟩ := (exchange_integrity hslash).1 hsendable
  refine ⟨hslash, hsendable, head, hhead, ?_, hdelivered⟩
  rw [hhead.eq]
  decide +kernel

end Handshake

end AttestedUplink
