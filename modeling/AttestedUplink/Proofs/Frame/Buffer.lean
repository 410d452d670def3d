import AttestedUplink.Proofs.Frame.Drain

/-!
# What a buffer holds

An observer notes what goes into a buffer and which frames come out of it. Whatever is done with the
buffer, and in whatever order, it holds what went in less the frames that came out, and these are
the first of the frames that a drain of all that went in gives.
-/

namespace AttestedUplink.Frame.Codec

/-- A buffer, with what went into it and what came out of it since it was last cleared. -/
structure Account where
  buffer : Bytes := []
  appended : Bytes := []
  returned : List Bytes := []

namespace Account

/-- What an operation and the reply to it tell. -/
def note (account : Account) : Operation → Reply → Account
  | .clear, _ => { account with appended := [], returned := [] }
  | .feed octets, _ => { account with appended := account.appended ++ octets }
  | .encode frame, .done => { account with appended := account.appended ++ envelope frame }
  | _, .frame (some frame) => { account with returned := account.returned ++ [frame] }
  | _, _ => account

def follow (codec : Codec) (account : Account) (operation : Operation) : Account :=
  let (reply, buffer) := codec.perform account.buffer operation
  { account.note operation reply with buffer }

/-- Nothing is lost and nothing is made up. -/
structure Balanced (codec : Codec) (account : Account) : Prop where
  fit : ∀ frame ∈ account.returned, frame.length ≤ codec.maxLen
  eq : account.appended = wire account.returned ++ account.buffer

end Account

/-- The account of a buffer that was empty before some operations. -/
def account (codec : Codec) (operations : List Operation) : Account :=
  operations.foldl (Account.follow codec) {}

/-- The reply to an operation after others. -/
def reply (codec : Codec) (operations : List Operation) (operation : Operation) : Reply :=
  (codec.perform (codec.account operations).buffer operation).1

variable {codec : Codec} {account : Account} {buffer : Bytes}

theorem account_concat (codec : Codec) (operations : List Operation) (operation : Operation) :
    codec.account (operations ++ [operation]) =
      (codec.account operations).follow codec operation :=
  List.foldl_concat ..

theorem account_append (codec : Codec) (operations later : List Operation) :
    codec.account (operations ++ later) =
      later.foldl (Account.follow codec) (codec.account operations) :=
  List.foldl_append

/-! ### One operation -/

theorem perform_of_idle {operation : Operation}
    (h : (∃ violation, (codec.perform buffer operation).1 = .refused violation) ∨
      (codec.perform buffer operation).1 = .frame none) :
    (codec.perform buffer operation).2 = buffer := by
  have htakeOff (answer : Except Violation (Option (Bytes × Bytes)))
      (hidle : (∃ violation, (takeOff buffer answer).1 = .refused violation) ∨
        (takeOff buffer answer).1 = .frame none) : (takeOff buffer answer).2 = buffer := by
    match answer with
    | .ok (some (frame, rest)) => rcases hidle with ⟨violation, hreply⟩ | hreply <;> cases hreply
    | .ok none => rfl
    | .error violation => rfl
  cases operation with
  | encode frame =>
    cases hencode : codec.encode frame with
    | ok octets => simp [perform, hencode] at h
    | error violation => simp [perform, hencode]
  | feed octets => simp [perform] at h
  | decode => exact htakeOff _ h
  | decodeEnd => exact htakeOff _ h
  | clear => simp [perform] at h

namespace Account.Balanced

theorem encode (h : account.Balanced codec) (frame : Bytes) :
    (account.follow codec (.encode frame)).Balanced codec := by
  cases hencode : codec.encode frame with
  | error violation =>
    simp only [follow, perform, hencode]
    exact ⟨h.fit, h.eq⟩
  | ok octets =>
    obtain ⟨-, rfl⟩ := encode_eq_ok_iff.1 hencode
    simp only [follow, perform, hencode]
    refine ⟨h.fit, ?_⟩
    change account.appended ++ envelope frame =
      wire account.returned ++ (account.buffer ++ envelope frame)
    rw [h.eq, List.append_assoc]

theorem feed (h : account.Balanced codec) (octets : Bytes) :
    (account.follow codec (.feed octets)).Balanced codec where
  fit := h.fit
  eq := by
    change account.appended ++ octets = wire account.returned ++ (account.buffer ++ octets)
    rw [h.eq, List.append_assoc]

/-- A frame that is taken out was at the front of the buffer. -/
theorem take (h : account.Balanced codec) {frame rest : Bytes}
    (hdecode : codec.decode account.buffer = .ok (some (frame, rest))) :
    Balanced codec { account with returned := account.returned ++ [frame], buffer := rest } := by
  obtain ⟨hframe, hbuffer⟩ := decode_eq_some_iff.1 hdecode
  refine ⟨?_, ?_⟩
  · intro other hother
    rcases List.mem_append.1 hother with hbefore | hnew
    · exact h.fit other hbefore
    · rw [List.mem_singleton.1 hnew]
      exact hframe
  · change account.appended = wire (account.returned ++ [frame]) ++ rest
    rw [h.eq, hbuffer, wire_append, wire_cons, wire_nil, List.append_nil, List.append_assoc]

/-- Both ways of reading take no other frame than the one at the front. -/
theorem read (h : account.Balanced codec) {operation : Operation}
    (hread : operation = .decode ∨ operation = .decodeEnd)
    {answer : Except Violation (Option (Bytes × Bytes))}
    (hperform : codec.perform account.buffer operation = takeOff account.buffer answer)
    (hanswer : ∀ taken, answer = .ok (some taken) →
      codec.decode account.buffer = .ok (some taken)) :
    (account.follow codec operation).Balanced codec := by
  rw [Account.follow, hperform]
  match answer, hanswer with
  | .ok (some (frame, rest)), hanswer =>
    have htaken := h.take (hanswer _ rfl)
    rcases hread with rfl | rfl <;> exact htaken
  | .ok none, _ => rcases hread with rfl | rfl <;> exact h
  | .error violation, _ => rcases hread with rfl | rfl <;> exact h

/-- What one operation preserves. -/
theorem follow (h : account.Balanced codec) (operation : Operation) :
    (account.follow codec operation).Balanced codec := by
  cases operation with
  | encode frame => exact h.encode frame
  | feed octets => exact h.feed octets
  | decode => exact h.read (.inl rfl) rfl fun _ hdecode ↦ hdecode
  | decodeEnd => exact h.read (.inr rfl) rfl fun _ hend ↦ decodeEnd_some.1 hend
  | clear => exact ⟨List.forall_mem_nil _, rfl⟩

theorem start (codec : Codec) : Balanced codec {} := ⟨List.forall_mem_nil _, rfl⟩

end Account.Balanced

/-- A length that is refused at the front of a buffer stays there until the buffer is cleared. -/
theorem decode_follow_of_error {violation : Violation} {operation : Operation}
    (h : codec.decode account.buffer = .error violation) (hclear : operation ≠ .clear) :
    codec.decode (account.follow codec operation).buffer = .error violation := by
  cases operation with
  | encode frame =>
    cases hencode : codec.encode frame with
    | ok octets =>
      simp only [Account.follow, perform, hencode]
      exact decode_append_of_error h octets
    | error refusal =>
      simp only [Account.follow, perform, hencode]
      exact h
  | feed octets => exact decode_append_of_error h octets
  | decode =>
    simp only [Account.follow, perform, h]
    exact h
  | decodeEnd =>
    simp only [Account.follow, perform, decodeEnd_of_error h]
    exact h
  | clear => exact absurd rfl hclear

/-! ### Any operations -/

theorem balanced_account (codec : Codec) (operations : List Operation) :
    (codec.account operations).Balanced codec :=
  List.foldlRecOn operations _ (.start codec) fun _ h operation _ ↦ h.follow operation

theorem decode_account_of_error {operations later : List Operation} {violation : Violation}
    (h : codec.decode (codec.account operations).buffer = .error violation)
    (hclear : .clear ∉ later) :
    codec.decode (codec.account (operations ++ later)).buffer = .error violation := by
  rw [account_append]
  refine List.foldlRecOn
    (motive := fun account : Account ↦ codec.decode account.buffer = .error violation)
    later _ h fun account haccount operation hmem ↦ ?_
  exact decode_follow_of_error haccount fun heq ↦ hclear (heq ▸ hmem)

theorem decode_of_refused {violation : Violation}
    (h : (codec.perform buffer .decode).1 = .refused violation) :
    codec.decode buffer = .error violation := by
  match hdecode : codec.decode buffer with
  | .ok (some (frame, rest)) => simp [perform, hdecode, takeOff] at h
  | .ok none => simp [perform, hdecode, takeOff] at h
  | .error other => simpa [perform, hdecode, takeOff] using h

/-- How a buffer fares under operations. These being arbitrary, all of it holds at every moment of
a longer history. -/
structure Conserves (codec : Codec) (operations : List Operation) : Prop where
  balance : wire (codec.account operations).returned ++ (codec.account operations).buffer =
    (codec.account operations).appended
  /-- What is refused, and a look for a frame that finds none, leave the buffer as it was. -/
  untouched : ∀ operation,
    (∃ violation, codec.reply operations operation = .refused violation) ∨
        codec.reply operations operation = .frame none →
      (codec.account (operations ++ [operation])).buffer = (codec.account operations).buffer
  ahead : (codec.account operations).returned <+:
    (codec.drain (codec.account operations).appended).frames
  /-- What was refused once is refused for as long as the buffer is only added to and read. -/
  latched : ∀ violation, codec.reply operations .decode = .refused violation →
    ∀ later, .clear ∉ later →
      codec.reply (operations ++ later) .decode = .refused violation ∧
        codec.reply (operations ++ later) .decodeEnd = .refused violation

/-- Octets that go into a buffer stay in it, in their order, until they come out as frames, and the
frames that come out are those at the front of the whole. -/
theorem account_conserves (maxLen : UInt64) (operations : List Operation) :
    Conserves (ofMaxLen maxLen) operations := by
  have hbalanced := balanced_account (ofMaxLen maxLen) operations
  exact
    { balance := hbalanced.eq.symm
      untouched := by
        intro operation hidle
        rw [account_concat]
        exact perform_of_idle hidle
      ahead := by
        rw [hbalanced.eq, drain_wire_append hbalanced.fit]
        exact List.prefix_append ..
      latched := by
        intro violation hrefused later hclear
        have herror := decode_account_of_error (decode_of_refused hrefused) hclear
        refine ⟨?_, ?_⟩
        · simp only [reply, perform, herror, takeOff]
        · simp only [reply, perform, decodeEnd_of_error herror, takeOff] }

end AttestedUplink.Frame.Codec
