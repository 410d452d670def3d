import AttestedUplink.Cbor.Value

/-!
# Items with something behind them

A reader takes an item off the front of the octets that it is given. What it takes does not change
when more octets follow, nor when more levels of nesting are allowed than it needs.
-/

namespace AttestedUplink

theorem Bytes.split?_append_of_some {count : Nat} {bytes head rest : Bytes}
    (h : split? count bytes = some (head, rest)) (more : Bytes) :
    split? count (bytes ++ more) = some (head, rest ++ more) := by
  obtain ⟨hlen, rfl⟩ := split?_eq_some_iff.1 h
  exact split?_eq_some_iff.2 ⟨hlen, List.append_assoc ..⟩

namespace Cbor

variable {α β : Type} {input rest : Bytes} {head : Head}

/-! ### What a head announces -/

namespace Value

variable {levels : Nat}

theorem read_of_head_none (h : Head.read input = none) : Value.read levels input = none := by
  unfold Value.read
  simp only [h]

@[simp] theorem read_nil (levels : Nat) : Value.read levels [] = none :=
  read_of_head_none rfl

/-- How a value is read goes by its head. -/
theorem read_of_head : Head.read input = some (head, rest) →
    Value.read levels input =
      match head with
      | .unsigned n => some (.integer n, rest)
      | .negative n => some (.integer (-1 - n), rest)
      | .bytes len => (readBytes len rest).map fun (octets, rest) ↦ (.bytes octets, rest)
      | .text len => (readText len rest).map fun (content, rest) ↦ (.text content, rest)
      | .simple n => (simple? n).map (·, rest)
      | .float octets => some (.float octets, rest)
      | .stop => none
      | .array len =>
        match levels with
        | 0 => none
        | levels + 1 =>
          (readMany (Value.read levels) len rest).map fun (items, rest) ↦ (.array items, rest)
      | .map len =>
        match levels with
        | 0 => none
        | levels + 1 =>
          (readMany (readPair (Value.read levels) (Value.read levels)) len rest).map
            fun (entries, rest) ↦ (.map entries, rest)
      | .tag number =>
        match bignumHead? number rest with
        | some (len, rest) =>
          match Bytes.split? len rest with
          | none => none
          | some (octets, rest) => (bignum number octets).map (·, rest)
        | none =>
          match levels with
          | 0 => none
          | levels + 1 =>
            (Value.read levels rest).map fun (value, rest) ↦ (.tag number value, rest) := by
  intro h
  have hunfolded := Value.read.eq_def levels input
  simp only [h] at hunfolded
  exact hunfolded

theorem read_unsigned {n : Nat} (h : Head.read input = some (.unsigned n, rest)) :
    Value.read levels input = some (.integer n, rest) :=
  read_of_head h

theorem read_negative {n : Nat} (h : Head.read input = some (.negative n, rest)) :
    Value.read levels input = some (.integer (-1 - n), rest) :=
  read_of_head h

theorem read_bytes {len : Option Nat} (h : Head.read input = some (.bytes len, rest)) :
    Value.read levels input =
      (readBytes len rest).map fun (octets, rest) ↦ (.bytes octets, rest) :=
  read_of_head h

theorem read_text {len : Option Nat} (h : Head.read input = some (.text len, rest)) :
    Value.read levels input =
      (readText len rest).map fun (content, rest) ↦ (.text content, rest) :=
  read_of_head h

theorem read_simple {n : Nat} (h : Head.read input = some (.simple n, rest)) :
    Value.read levels input = (simple? n).map (·, rest) :=
  read_of_head h

theorem read_array {len : Option Nat} (h : Head.read input = some (.array len, rest)) :
    Value.read (levels + 1) input =
      (readMany (Value.read levels) len rest).map fun (items, rest) ↦ (.array items, rest) :=
  read_of_head h

theorem read_map {len : Option Nat} (h : Head.read input = some (.map len, rest)) :
    Value.read (levels + 1) input =
      (readMany (readPair (Value.read levels) (Value.read levels)) len rest).map
        fun (entries, rest) ↦ (.map entries, rest) :=
  read_of_head h

theorem read_bignum {number len : Nat} {octets : Bytes}
    (h : Head.read input = some (.tag number, rest))
    (hbignum : bignumHead? number rest = some (len, octets)) :
    Value.read levels input =
      (Bytes.split? len octets).bind fun (octets, rest) ↦ (bignum number octets).map (·, rest) := by
  simp only [read_of_head h, hbignum]
  cases Bytes.split? len octets <;> rfl

theorem read_tag {number : Nat} (h : Head.read input = some (.tag number, rest))
    (hbignum : bignumHead? number rest = none) :
    Value.read (levels + 1) input =
      (Value.read levels rest).map fun (value, rest) ↦ (.tag number value, rest) := by
  simp only [read_of_head h, hbignum]

/-- Without a level left nothing is opened. -/
theorem read_zero (h : Head.read input = some (head, rest)) (hopens : (∃ len, head = .array len) ∨
    (∃ len, head = .map len) ∨ ∃ number, head = .tag number ∧ bignumHead? number rest = none) :
    Value.read 0 input = none := by
  rcases hopens with ⟨len, rfl⟩ | ⟨len, rfl⟩ | ⟨number, rfl, hbignum⟩
  · exact read_of_head h
  · exact read_of_head h
  · simp only [read_of_head h, hbignum]

end Value

/-! ### Readers that do not look ahead -/

/-- What the first reader takes off the front of some octets is what the second takes, whatever
follows them. -/
def Extends (read wider : Bytes → Option (α × Bytes)) : Prop :=
  ∀ ⦃input : Bytes⦄ ⦃item : α⦄ ⦃rest : Bytes⦄, read input = some (item, rest) →
    ∀ more, wider (input ++ more) = some (item, rest ++ more)

variable {read wider : Bytes → Option (α × Bytes)}

theorem Extends.map {f : α → β} (hread : Extends read wider) :
    Extends (fun input ↦ (read input).map fun (item, rest) ↦ (f item, rest))
      fun input ↦ (wider input).map fun (item, rest) ↦ (f item, rest) := by
  intro input item rest h more
  obtain ⟨⟨item', tail⟩, hitem, heq⟩ := Option.map_eq_some_iff.1 h
  cases heq
  exact Option.map_eq_some_iff.2 ⟨_, hread hitem more, rfl⟩

theorem argument_read_append (low : Nat) : Extends (Argument.read low) (Argument.read low) := by
  intro input argument rest h more
  unfold Argument.read at h ⊢
  by_cases hshort : low < 24
  · rw [if_pos hshort] at h ⊢
    cases h
    rfl
  rw [if_neg hshort] at h ⊢
  by_cases hwide : low < 28
  · rw [if_pos hwide] at h ⊢
    obtain ⟨⟨octets, tail⟩, hsplit, heq⟩ := Option.map_eq_some_iff.1 h
    cases heq
    rw [Bytes.split?_append_of_some hsplit more, Option.map_some]
  rw [if_neg hwide] at h ⊢
  by_cases hopen : low = 31
  · rw [if_pos hopen] at h ⊢
    cases h
    rfl
  · rw [if_neg hopen] at h
    cases h

theorem head_read_append : Extends Head.read Head.read := by
  intro input head rest h more
  cases input with
  | nil => cases h
  | cons first input =>
    simp only [Head.read] at h
    split at h
    · cases h
    · rename_i argument tail hargument
      obtain ⟨kind, hkind, heq⟩ := Option.map_eq_some_iff.1 h
      cases heq
      rw [List.cons_append, Head.read, argument_read_append _ hargument more]
      simp only [hkind, Option.map_some]

/-- A head that is no break starts a part. -/
theorem readParts_cons {part? : Head → Option (Option Nat)} {check : Bytes → Bool} {b : UInt8}
    {bound : Bytes} {inner : Nat} {done : List Bytes} (h : Head.read input = some (head, rest))
    (hstop : head ≠ .stop) :
    readParts part? check (b :: bound) inner done input =
      (part? head).bind fun len ↦
        len.elim (readParts part? check bound (inner + 1) done rest) fun len ↦
          (Bytes.split? len rest).bind fun (part, rest) ↦
            if check part then readParts part? check bound inner (part :: done) rest else none := by
  rw [readParts, h]
  split
  · rename_i hnone
    cases hnone
  · rename_i hfound
    cases hfound
    exact absurd rfl hstop
  · rename_i hfound
    cases hfound
    cases part? head with
    | none => rfl
    | some len =>
      cases len with
      | none => rfl
      | some len =>
        simp only [Option.bind_some, Option.elim_some]
        cases Bytes.split? len rest <;> rfl

/-- The bound only has to be long enough. -/
theorem readParts_append {part? : Head → Option (Option Nat)} {check : Bytes → Bool}
    {bound longer : Bytes} {inner : Nat} {done : List Bytes} {octets : Bytes}
    (hlonger : bound.length ≤ longer.length)
    (h : readParts part? check bound inner done input = some (octets, rest)) (more : Bytes) :
    readParts part? check longer inner done (input ++ more) = some (octets, rest ++ more) := by
  induction bound generalizing longer inner done input with
  | nil => cases h
  | cons b bound ih =>
    obtain ⟨b', longer, rfl⟩ := List.exists_cons_of_length_pos (Nat.zero_lt_of_lt hlonger)
    have hshorter : bound.length ≤ longer.length := Nat.le_of_succ_le_succ hlonger
    cases hhead : Head.read input with
    | none =>
      simp only [readParts, hhead] at h
      cases h
    | some found =>
      obtain ⟨head, tail⟩ := found
      have hhead' := head_read_append hhead more
      by_cases hstop : head = .stop
      · subst hstop
        rw [readParts, hhead] at h
        rw [readParts, hhead']
        cases inner with
        | zero =>
          cases h
          rfl
        | succ inner => exact ih hshorter h
      · rw [readParts_cons hhead hstop] at h
        obtain ⟨len, hpart, h⟩ := Option.bind_eq_some_iff.1 h
        rw [readParts_cons hhead' hstop, hpart, Option.bind_some]
        cases len with
        | none => exact ih hshorter h
        | some len =>
          obtain ⟨⟨part, after⟩, hsplit, h⟩ := Option.bind_eq_some_iff.1 h
          simp only [Option.elim_some, Bytes.split?_append_of_some hsplit more, Option.bind_some]
          by_cases hcheck : check part = true
          · simp only [if_pos hcheck] at h ⊢
            exact ih hshorter h
          · simp only [if_neg hcheck] at h
            cases h

theorem readBytes_append (len : Option Nat) : Extends (readBytes len) (readBytes len) := by
  intro input octets rest h more
  cases len with
  | some len => exact Bytes.split?_append_of_some h more
  | none => exact readParts_append (by simp) h more

theorem readText_append (len : Option Nat) : Extends (readText len) (readText len) := by
  intro input content rest h more
  unfold readText at h ⊢
  obtain ⟨⟨octets, tail⟩, hoctets, htext⟩ := Option.bind_eq_some_iff.1 h
  obtain ⟨text, hutf8, heq⟩ := Option.map_eq_some_iff.1 htext
  cases heq
  cases len with
  | some len => simp [Bytes.split?_append_of_some hoctets more, hutf8]
  | none =>
    have hbound : input.length ≤ (input ++ more).length := by simp
    simp [readParts_append hbound hoctets more, hutf8]

theorem readCounted_succ (read : Bytes → Option (α × Bytes)) (count : Nat) (done : List α)
    (input : Bytes) : readCounted read (count + 1) done input =
      (read input).bind fun (item, rest) ↦ readCounted read count (item :: done) rest := by
  rw [readCounted]
  cases read input <;> rfl

theorem readCounted_append (hread : Extends read wider) {count : Nat} {done items : List α}
    (h : readCounted read count done input = some (items, rest)) (more : Bytes) :
    readCounted wider count done (input ++ more) = some (items, rest ++ more) := by
  induction count generalizing done input with
  | zero =>
    cases h
    rfl
  | succ count ih =>
    rw [readCounted_succ] at h ⊢
    obtain ⟨⟨item, tail⟩, hitem, hrest⟩ := Option.bind_eq_some_iff.1 h
    rw [hread hitem more, Option.bind_some]
    exact ih hrest

/-- What does not start with a break starts an item. -/
theorem readOpen_cons {b : UInt8} {bound : Bytes} {done : List α}
    (hbreak : input.head? ≠ some 0xFF) :
    readOpen read (b :: bound) done input =
      (read input).bind fun (item, rest) ↦ readOpen read bound (item :: done) rest := by
  have hopen : ∀ rest, input = 0xFF :: rest → False := by
    rintro rest rfl
    exact hbreak rfl
  rw [readOpen.eq_3 _ _ _ _ _ hopen]
  cases read input <;> rfl

theorem readOpen_append (hread : Extends read wider) (hnil : read [] = none)
    {bound longer : Bytes} {done items : List α} (hlonger : bound.length ≤ longer.length)
    (h : readOpen read bound done input = some (items, rest)) (more : Bytes) :
    readOpen wider longer done (input ++ more) = some (items, rest ++ more) := by
  induction bound generalizing longer done input with
  | nil => cases h
  | cons b bound ih =>
    obtain ⟨b', longer, rfl⟩ := List.exists_cons_of_length_pos (Nat.zero_lt_of_lt hlonger)
    have hshorter : bound.length ≤ longer.length := Nat.le_of_succ_le_succ hlonger
    by_cases hbreak : input.head? = some 0xFF
    · obtain ⟨tail, rfl⟩ := List.head?_eq_some_iff.1 hbreak
      cases h
      rfl
    · rw [readOpen_cons hbreak] at h
      obtain ⟨⟨item, tail⟩, hitem, hrest⟩ := Option.bind_eq_some_iff.1 h
      have hbreak' : (input ++ more).head? ≠ some 0xFF := by
        cases input with
        | nil => simp [hnil] at hitem
        | cons first input => simpa using hbreak
      rw [readOpen_cons hbreak', hread hitem more, Option.bind_some]
      exact ih hshorter hrest

theorem Extends.readMany (hread : Extends read wider) (hnil : read [] = none)
    (len : Option Nat) : Extends (readMany read len) (readMany wider len) := by
  intro input items rest h more
  cases len with
  | some count => exact readCounted_append hread h more
  | none => exact readOpen_append hread hnil (by simp) h more

theorem Extends.readPair {first first' : Bytes → Option (α × Bytes)}
    {second second' : Bytes → Option (β × Bytes)} (hfirst : Extends first first')
    (hsecond : Extends second second') :
    Extends (readPair first second) (readPair first' second') := by
  intro input pair rest h more
  simp only [Cbor.readPair] at h ⊢
  split at h
  · cases h
  · rename_i a tail ha
    obtain ⟨⟨b, tail'⟩, hb, heq⟩ := Option.map_eq_some_iff.1 h
    cases heq
    rw [hfirst ha more]
    simp only [hsecond hb more, Option.map_some]

theorem bignumHead?_append (number : Nat) :
    Extends (bignumHead? number) (bignumHead? number) := by
  intro input len rest h more
  unfold bignumHead? at h ⊢
  split at h
  · rename_i hnumber
    rw [if_pos hnumber]
    split at h
    · rename_i len' tail hhead
      simp only [head_read_append hhead more]
      split at h
      · rename_i hlen
        cases h
        rw [if_pos hlen]
      · cases h
    · cases h
  · cases h

/-- Whether a tag announces a number is seen from the head that follows. -/
theorem bignumHead?_append_of_none {number : Nat} (hnone : bignumHead? number input = none)
    (h : Head.read input = some (head, rest)) (more : Bytes) :
    bignumHead? number (input ++ more) = none := by
  unfold bignumHead? at hnone ⊢
  simp only [h, head_read_append h more] at hnone ⊢
  split
  · rename_i hnumber
    rw [if_pos hnumber] at hnone
    cases head with
    | bytes len =>
      cases len with
      | none => rfl
      | some len =>
        by_cases hlen : len ≤ maxBignumLen
        · simp [hlen] at hnone
        · simp [hlen]
    | _ => rfl
  · rfl

theorem readPair_nil {first : Bytes → Option (α × Bytes)} {second : Bytes → Option (β × Bytes)}
    (h : first [] = none) : Cbor.readPair first second [] = none := by
  rw [Cbor.readPair, h]

/-- One level of reading, if what is nested is read alike. -/
theorem Value.extends_step {levels wider : Nat}
    (hinner : ∀ inner, levels = inner + 1 → ∃ inner', wider = inner' + 1 ∧
      Extends (Value.read inner) (Value.read inner')) :
    Extends (Value.read levels) (Value.read wider) := by
  intro input value rest h more
  cases hhead : Head.read input with
  | none =>
    rw [read_of_head_none hhead] at h
    cases h
  | some found =>
    obtain ⟨head, tail⟩ := found
    have hhead' := head_read_append hhead more
    cases head with
    | unsigned n =>
      rw [read_unsigned hhead] at h
      cases h
      exact read_unsigned hhead'
    | negative n =>
      rw [read_negative hhead] at h
      cases h
      exact read_negative hhead'
    | bytes len =>
      rw [read_bytes hhead] at h
      rw [read_bytes hhead']
      exact (readBytes_append len).map h more
    | text len =>
      rw [read_text hhead] at h
      rw [read_text hhead']
      exact (readText_append len).map h more
    | simple n =>
      rw [read_simple hhead] at h
      obtain ⟨known, hknown, heq⟩ := Option.map_eq_some_iff.1 h
      cases heq
      rw [read_simple hhead', hknown, Option.map_some]
    | float octets =>
      rw [read_of_head hhead] at h
      cases h
      exact read_of_head hhead'
    | stop =>
      rw [read_of_head hhead] at h
      cases h
    | array len =>
      cases levels with
      | zero =>
        rw [read_zero hhead (.inl ⟨len, rfl⟩)] at h
        cases h
      | succ inner =>
        obtain ⟨inner', rfl, hread⟩ := hinner inner rfl
        rw [read_array hhead] at h
        rw [read_array hhead']
        exact (hread.readMany (read_nil inner) len).map h more
    | map len =>
      cases levels with
      | zero =>
        rw [read_zero hhead (.inr (.inl ⟨len, rfl⟩))] at h
        cases h
      | succ inner =>
        obtain ⟨inner', rfl, hread⟩ := hinner inner rfl
        have hpair := (hread.readPair hread).readMany (readPair_nil (read_nil inner)) len
        rw [read_map hhead] at h
        rw [read_map hhead']
        exact hpair.map h more
    | tag number =>
      cases hbignum : bignumHead? number tail with
      | some found =>
        obtain ⟨len, octets⟩ := found
        rw [read_bignum hhead hbignum] at h
        obtain ⟨⟨digits, after⟩, hsplit, hvalue⟩ := Option.bind_eq_some_iff.1 h
        obtain ⟨known, hknown, heq⟩ := Option.map_eq_some_iff.1 hvalue
        cases heq
        rw [read_bignum hhead' (bignumHead?_append number hbignum more),
          Bytes.split?_append_of_some hsplit more, Option.bind_some]
        simp only [hknown, Option.map_some]
      | none =>
        cases levels with
        | zero =>
          rw [read_zero hhead (.inr (.inr ⟨number, rfl, hbignum⟩))] at h
          cases h
        | succ inner =>
          obtain ⟨inner', rfl, hread⟩ := hinner inner rfl
          rw [read_tag hhead hbignum] at h
          cases hnext : Head.read tail with
          | none =>
            rw [read_of_head_none hnext] at h
            cases h
          | some found =>
            obtain ⟨next, after⟩ := found
            rw [read_tag hhead' (bignumHead?_append_of_none hbignum hnext more)]
            exact hread.map h more

theorem Value.read_append {levels wider : Nat} (hlevels : levels ≤ wider) :
    Extends (Value.read levels) (Value.read wider) := by
  induction levels generalizing wider with
  | zero => exact extends_step nofun
  | succ levels ih =>
    refine extends_step fun inner hinner ↦ ?_
    obtain rfl := Nat.succ.inj hinner
    obtain ⟨inner', rfl⟩ : ∃ inner', wider = inner' + 1 := ⟨wider - 1, by omega⟩
    exact ⟨inner', rfl, ih (Nat.le_of_succ_le_succ hlevels)⟩

end Cbor

end AttestedUplink
