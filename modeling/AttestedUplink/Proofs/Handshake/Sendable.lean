import AttestedUplink.Proofs.Endpoint.Display
import AttestedUplink.Proofs.Settings.Reading
import AttestedUplink.Proofs.Tunnel.Attempt
import AttestedUplink.Proofs.Tunnel.Lifecycle
import AttestedUplink.Proofs.Tunnel.Transparency

/-!
# Endpoints whose request can be sent

Reading an endpoint looks at where its parts begin and end, and making the request looks at their
characters. So there are settings that load although no request can be made of them. Which ones they
are is said here, and what the supervisor does with them: its attempts come as far as to a stream,
fail there with one and the same fault, and never end.
-/

namespace AttestedUplink

open Checks

variable {endpoint : Endpoint}

/-! ### Paths of endpoints -/

theorem Endpoint.toList_defaultPath : defaultPath.toList = '/' :: "connect".toList := by
  decide

theorem Settings.exists_path_of_load {lookup : String → Option String} {settings : Settings}
    (h : load lookup = .ok settings) :
    ∃ tail, settings.link.endpoint.path.toList = '/' :: tail := by
  obtain ⟨hreads, -⟩ := load_eq_ok_iff.1 h
  rcases field_eq_ok_iff.1 hreads.endpoint with ⟨-, hunset⟩ | ⟨text, -, hparse⟩
  · rw [hunset]
    exact ⟨_, Endpoint.toList_defaultPath⟩
  · exact (Endpoint.regular_of_parse hparse).path

/-! ### Requests that can be made -/

namespace Handshake

/-- The part of a path that is sent. -/
def sentPath (endpoint : Endpoint) : List Char := endpoint.path.toList.takeWhile (· ≠ '#')

/-- The parts of an endpoint are such that a request can be made of them. -/
structure Sendable (endpoint : Endpoint) : Prop where
  short : endpoint.path.utf8ByteSize ≤ maxTargetLen
  path : ∀ c ∈ (sentPath endpoint).takeWhile (· ≠ '?'), isPathChar c = true
  query : ∀ c ∈ (sentPath endpoint).dropWhile (· ≠ '?'), isQueryChar c = true
  host : ∀ host port, endpoint.address = .tcp host port → ∀ c ∈ host.toList, isHeaderChar c = true

theorem isHeaderChar_of_mem_toString {n : ℕ} {c : Char} (hc : c ∈ (toString n).toList) :
    isHeaderChar c = true := by
  have hdigit := Numeral.isDigit_of_mem_toString hc
  simp only [Char.isDigit, Bool.and_eq_true, decide_eq_true_eq] at hdigit
  have hblank : ' ' ≤ c := Nat.le_trans (by decide) hdigit.1
  have hdelete : c ≠ '\x7F' := by
    rintro rfl
    exact absurd hdigit.2 (by decide)
  simp [isHeaderChar, hblank, hdelete]

/-- The port of an authority has nothing that a header must not have. -/
theorem all_append_port (host : String) (port : ℕ) :
    (host ++ ":" ++ toString port).toList.all isHeaderChar = host.toList.all isHeaderChar := by
  have hcolon : ":".toList.all isHeaderChar = true := by decide
  have hport : (toString port).toList.all isHeaderChar = true :=
    List.all_eq_true.2 fun _ ↦ isHeaderChar_of_mem_toString
  rw [String.toList_append, String.toList_append, List.all_append, List.all_append, hcolon, hport,
    Bool.and_true, Bool.and_true]

/-- Of an authority only the name of a host can have what a header must not have. -/
theorem all_authority_iff :
    endpoint.authority.toList.all isHeaderChar = true ↔
      ∀ host port, endpoint.address = .tcp host port →
        ∀ c ∈ host.toList, isHeaderChar c = true := by
  rw [Endpoint.authority_eq, all_append_port, List.all_eq_true]
  cases endpoint.address with
  | vsock cid port => exact iff_of_true (fun _ ↦ isHeaderChar_of_mem_toString) nofun
  | tcp host port =>
    constructor
    · rintro hhost _ _ ⟨⟩
      exact hhost
    · intro h
      exact h host port rfl

variable {tail : List Char}

/-- Of a path that starts with a slash there is a target exactly if it is short and its characters
suit. -/
theorem exists_target_iff (hslash : endpoint.path.toList = '/' :: tail) :
    (∃ kept, target endpoint.path = .ok kept) ↔
      endpoint.path.utf8ByteSize ≤ maxTargetLen ∧
        (∀ c ∈ (sentPath endpoint).takeWhile (· ≠ '?'), isPathChar c = true) ∧
          ∀ c ∈ (sentPath endpoint).dropWhile (· ≠ '?'), isQueryChar c = true := by
  simp only [target_eq_ok_iff_of_slash hslash, exists_and_left]
  refine and_congr_right fun _ ↦ ?_
  constructor
  · rintro ⟨kept, hkept⟩
    obtain ⟨heq, hpath, hquery⟩ := pathAndQuery_eq_ok_iff.1 hkept
    rw [sentPath, ← heq]
    exact ⟨hpath, hquery⟩
  · rintro ⟨hpath, hquery⟩
    refine ⟨String.ofList (sentPath endpoint), pathAndQuery_eq_ok_iff.2 ?_⟩
    rw [String.toList_ofList]
    exact ⟨rfl, hpath, hquery⟩

/-- A request can be made of an endpoint exactly if its parts are such. -/
theorem exists_head_iff (hslash : endpoint.path.toList = '/' :: tail) :
    (∃ head, Handshake.head endpoint = .ok head) ↔ Sendable endpoint := by
  have htarget := exists_target_iff hslash
  constructor
  · rintro ⟨head, hhead⟩
    obtain ⟨kept, hkept, hrest⟩ := bind_eq_ok_iff.1 hhead
    obtain ⟨hshort, hpath, hquery⟩ := htarget.1 ⟨kept, hkept⟩
    split at hrest
    · rename_i hhost
      exact ⟨hshort, hpath, hquery, all_authority_iff.1 hhost⟩
    · cases hrest
  · intro h
    obtain ⟨kept, hkept⟩ := htarget.2 ⟨h.short, h.path, h.query⟩
    refine ⟨Bytes.ofText (headText kept endpoint.authority), bind_eq_ok_iff.2 ⟨kept, hkept, ?_⟩⟩
    rw [if_pos (all_authority_iff.2 h.host)]
    rfl

end Handshake

/-! ### Attempts without a request -/

namespace Tunnel

variable {link : LinkSettings} {state next : State} {stimulus : Stimulus} {events : List Event}
  {defect : Handshake.Defect}

/-- Whether an attempt has not got past the dial, or there is none. -/
def Phase.isEarly : Phase → Bool
  | .establishing (.greeting _) | .establishing .configuring | .establishing .linking
  | .forwarding _ => false
  | _ => true

/-- Past the dial leads only one that succeeds, of an endpoint of which a request can be made. -/
theorem Move.isEarly (hdial : stimulus = .answer (.ok ()) →
      state.phase = .establishing .dialing →
        ∀ writer, Handshake.writer link.endpoint ≠ .ok writer)
    (h : Move link state stimulus next events) (hearly : state.phase.isEarly = true) :
    next.phase.isEarly = true ∧ .forwarding ∉ statuses events := by
  cases h with
  | stop | elapse | stay => exact ⟨hearly, List.not_mem_nil⟩
  | close => exact ⟨rfl, by simp [statuses, Phase.releases]⟩
  | establish | retry => exact ⟨rfl, by decide⟩
  | finish => exact ⟨rfl, List.not_mem_nil⟩
  | progress hphase hstop hprogress =>
    rw [hphase] at hearly
    cases hprogress with
    | create | dial => exact ⟨rfl, List.not_mem_nil⟩
    | greet hwriter => exact absurd hwriter (hdial rfl hphase _)
    | write | configure | linkUp => cases hearly
  | forward hphase | uplink hphase | downlink hphase =>
    rw [hphase] at hearly
    cases hearly
  | fail hphase hfailure =>
    refine ⟨rfl, ?_⟩
    cases hfailure <;> simp [statuses, Phase.releases]

/-- Without a request no attempt gets past the dial. -/
theorem not_forwarding_of_head (hhead : Handshake.head link.endpoint = .error defect)
    (stopped : Bool) (stimuli : List Stimulus) :
    .forwarding ∉ statuses (run link stopped stimuli).2 := by
  have hmove : ∀ (state : State) (events : List Event) (stimulus : Stimulus) (next : State)
      (more : List Event), state.phase.isEarly = true ∧ .forwarding ∉ statuses events →
        Move link state stimulus next more →
          next.phase.isEarly = true ∧ .forwarding ∉ statuses (events ++ more) := by
    rintro state events stimulus next more ⟨hearly, hbefore⟩ hmove
    have hwriter (writer : StreamWriter) : Handshake.writer link.endpoint ≠ .ok writer := by
      simp [Handshake.writer, hhead]
    obtain ⟨hnext, hmore⟩ := hmove.isEarly (fun _ _ ↦ hwriter) hearly
    rw [statuses_append, List.mem_append, not_or]
    exact ⟨hnext, hbefore, hmore⟩
  have hstart : (State.start link stopped).1.phase.isEarly = true ∧
      .forwarding ∉ statuses (State.start link stopped).2 := by
    unfold State.start
    split
    · exact ⟨rfl, by simp [statuses]⟩
    · exact ⟨rfl, List.not_mem_nil⟩
  exact (State.run_preserves hmove stimuli _ _ hstart).2

/-- What a link comes to over which no request can be sent: attempts without end, all of them in
vain. -/
structure Fruitless (link : LinkSettings) (cause : Fault) : Prop where
  unsent : ∀ sizes, Handshake.send sizes link.endpoint = .error cause
  retryable : cause.isRetryable = true
  never : ∀ stopped stimuli, .forwarding ∉ statuses (run link stopped stimuli).2
  goes_on : ∀ stimuli, .stop ∉ stimuli → (run link false stimuli).1.phase.isOpen = true
  /-- Whenever a dial succeeds, the stream is given up and the same fault is warned of. -/
  again : ∀ state : State, state.phase = .establishing .dialing → state.stopped = false →
    (state.step link (.answer (.ok ()))).2 =
      [.acquired .stream, .released .stream, .released .device, .entered .failed,
        .warned cause link.backoffMs]

theorem Fruitless.of_head (hvalid : link.validate = .ok ())
    (hhead : Handshake.head link.endpoint = .error defect) : Fruitless link defect.toFault where
  unsent := fun sizes ↦ by simp only [Handshake.send, Handshake.writer, hhead]
  retryable := rfl
  never := not_forwarding_of_head hhead
  goes_on := fun stimuli hstop ↦ (Lifecycle.of_validate hvalid false stimuli).stays rfl hstop
  again := by
    intro state hphase hstop
    simp only [State.step, State.answer, hphase, hstop, State.advance, State.goto,
      Handshake.writer, hhead]
    rfl

end Tunnel

namespace Settings

open Handshake (Sendable)
open Tunnel (Fruitless)

/-- Settings that load can be used exactly if the characters and the length of their endpoint suit
a request. Then the request is sent to every stream that takes something each time; otherwise no
attempt ever succeeds, and the supervisor does not cease to make them. -/
theorem load_sendable {lookup : String → Option String} {settings : Settings}
    (hload : load lookup = .ok settings) :
    (Sendable settings.link.endpoint → ∀ sizes : ℕ → ℕ, (∀ k, 0 < sizes k) →
        ∃ sent, Handshake.send sizes settings.link.endpoint = .ok sent) ∧
      (¬Sendable settings.link.endpoint →
        ∃ defect : Handshake.Defect, Fruitless settings.link defect.toFault) := by
  obtain ⟨tail, hslash⟩ := exists_path_of_load hload
  have hhead := Handshake.exists_head_iff hslash
  constructor
  · intro hsendable sizes hsizes
    obtain ⟨head, hhead⟩ := hhead.2 hsendable
    obtain ⟨asked, hsend⟩ := Tunnel.send_of_head hsizes hhead
    exact ⟨_, hsend⟩
  · intro hunsendable
    cases hresult : Handshake.head settings.link.endpoint with
    | ok head => exact absurd (hhead.1 ⟨head, hresult⟩) hunsendable
    | error defect => exact ⟨defect, .of_head (link_validate_of_load hload) hresult⟩

/-- Only the endpoint is set, and there is a blank in its path. -/
def blankInPath (key : String) : Option String :=
  if key = "ENCLAVE_HOST_ENDPOINT" then some "vsock://3:1024/a b" else none

theorem load_blankInPath :
    load blankInPath = .ok { link := { endpoint := ⟨.vsock 3 1024, "/a b"⟩ } } := by
  decide +kernel

theorem load_sendable_blankInPath :
    load blankInPath = .ok { link := { endpoint := ⟨.vsock 3 1024, "/a b"⟩ } } ∧
      ¬Sendable ⟨.vsock 3 1024, "/a b"⟩ ∧
        ∃ defect : Handshake.Defect,
          Fruitless { endpoint := ⟨.vsock 3 1024, "/a b"⟩ } defect.toFault := by
  have hblank : ' ' ∈ (Handshake.sentPath ⟨.vsock 3 1024, "/a b"⟩).takeWhile (· ≠ '?') := by
    decide +kernel
  have hunsendable : ¬Sendable ⟨.vsock 3 1024, "/a b"⟩ :=
    fun h ↦ absurd (h.path ' ' hblank) (by decide)
  exact ⟨load_blankInPath, hunsendable, (load_sendable load_blankInPath).2 hunsendable⟩

/-- These settings load, and no stream ever gets their request. -/
theorem blankInPath_unsent :
    load blankInPath = .ok { link := { endpoint := ⟨.vsock 3 1024, "/a b"⟩ } } ∧
      ∀ sizes, Handshake.send sizes ⟨.vsock 3 1024, "/a b"⟩ =
        .error ⟨.transport, "Failed to build handshake request: invalid uri character"⟩ := by
  have hhead : Handshake.head ⟨.vsock 3 1024, "/a b"⟩ = .error .badTargetCharacter := by
    decide +kernel
  refine ⟨load_blankInPath, fun sizes ↦ ?_⟩
  rw [Handshake.send, Handshake.writer, hhead]
  rfl

end Settings

end AttestedUplink
