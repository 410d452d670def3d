import AttestedUplink.Proofs.Cbor.Prefix
import AttestedUplink.Proofs.Text.Utf8

/-!
# What is written is read back

Heads may be written in any width that holds their argument. Values of the kinds that have one
written form are read back from it, whatever follows, as long as they are not nested too deeply.
-/

namespace AttestedUplink.Cbor

/-! ### Heads -/

/-- The octets of a head of a kind with an argument. The argument is in the first octet if it is
small, or behind it in one, two, four or eight octets, which need not be the fewest. -/
inductive HeadOf (kind n : Nat) : Bytes → Prop
  | short (h : n < 24) : HeadOf kind n [UInt8.ofNat (32 * kind + n)]
  | wide {low : Nat} (hlow : 24 ≤ low) (hhigh : low < 28)
    (h : n < Bytes.capacity (argumentWidth low)) :
    HeadOf kind n (UInt8.ofNat (32 * kind + low) :: Bytes.ofNat (argumentWidth low) n)

variable {kind n : Nat} {octets : Bytes}

theorem HeadOf.read_append (h : HeadOf kind n octets) (hkind : kind < 7) (rest : Bytes) :
    Head.read (octets ++ rest) = (Head.of? kind (.number 0 n)).map (·, rest) := by
  cases h with
  | short hn =>
    rw [List.cons_append, List.nil_append, Head.read_cons (by omega) (by omega), Argument.read,
      if_pos hn]
    rfl
  | @wide low hlow hhigh hn =>
    have hsplit := Bytes.split?_ofNat_append (argumentWidth low) n rest
    rw [List.cons_append, Head.read_cons (by omega) (by omega), Argument.read, if_neg (by omega),
      if_pos hhigh, hsplit]
    simp only [Option.map_some, Option.bind_some, Bytes.toNat_ofNat, Nat.mod_eq_of_lt hn,
      Head.of?_number hkind]

/-- The shortest head is one of them. -/
theorem headOf_writeHead (hn : n < Bytes.capacity 8) : HeadOf kind n (writeHead kind n) := by
  unfold writeHead
  split
  · rename_i h
    exact .short h
  · split
    · rename_i h
      exact .wide (Nat.le_refl 24) (by decide) h
    · split
      · rename_i h
        exact .wide (show 24 ≤ 25 by decide) (by decide) h
      · split
        · rename_i h
          exact .wide (show 24 ≤ 26 by decide) (by decide) h
        · exact .wide (show 24 ≤ 27 by decide) (by decide) hn

theorem length_writeHead_pos (kind n : Nat) : 0 < (writeHead kind n).length := by
  unfold writeHead
  split
  · exact Nat.one_pos
  · split
    · exact Nat.succ_pos _
    · split
      · exact Nat.succ_pos _
      · split <;> exact Nat.succ_pos _

theorem HeadOf.read_bytes {levels : Nat} {content : Bytes}
    (h : HeadOf 2 content.length octets) (rest : Bytes) :
    Value.read levels (octets ++ (content ++ rest)) = some (.bytes content, rest) := by
  have hhead : Head.read (octets ++ (content ++ rest)) =
      some (.bytes (some content.length), content ++ rest) :=
    h.read_append (by decide) _
  rw [Value.read_bytes hhead, readBytes, Bytes.split?_append, Option.map_some]

/-! ### Lists of items -/

/-- Items that are each read back are read back one after the other. -/
theorem readCounted_flatMap {α : Type} {read : Bytes → Option (α × Bytes)} {write : α → Bytes}
    {items : List α}
    (hread : ∀ item ∈ items, ∀ rest, read (write item ++ rest) = some (item, rest))
    (done : List α) (rest : Bytes) :
    readCounted read items.length done (items.flatMap write ++ rest) =
      some (done.reverse ++ items, rest) := by
  induction items generalizing done with
  | nil => simp [readCounted]
  | cons item items ih =>
    have hfirst := hread item List.mem_cons_self (items.flatMap write ++ rest)
    have hlater := ih (fun other hother ↦ hread other (List.mem_cons_of_mem item hother))
      (item :: done)
    rw [List.flatMap_cons, List.append_assoc, List.length_cons, readCounted, hfirst]
    simpa using hlater

/-- A reader may make something else of what was written. -/
theorem readMany_flatMap_map {α β : Type} {read : Bytes → Option (α × Bytes)} {write : β → Bytes}
    {spell : α → β} {items : List α}
    (hread : ∀ item ∈ items, ∀ rest, read (write (spell item) ++ rest) = some (item, rest))
    (rest : Bytes) :
    readMany read (some (items.map spell).length) ((items.map spell).flatMap write ++ rest) =
      some (items, rest) := by
  rw [List.length_map, List.flatMap_map]
  exact readCounted_flatMap hread [] rest

theorem length_le_length_flatMap {α : Type} (write : α → Bytes) {items : List α} {item : α}
    (h : item ∈ items) : (write item).length ≤ (items.flatMap write).length := by
  obtain ⟨before, after, rfl⟩ := List.append_of_mem h
  rw [List.flatMap_append, List.flatMap_cons, List.length_append, List.length_append]
  omega

theorem length_le_of_pos {α : Type} {write : α → Bytes} (hpos : ∀ item, 0 < (write item).length)
    (items : List α) : items.length ≤ (items.flatMap write).length := by
  induction items with
  | nil => exact Nat.le_refl 0
  | cons item items ih =>
    have := hpos item
    rw [List.flatMap_cons, List.length_append, List.length_cons]
    omega

namespace Value

theorem writeItems_eq (items : List Value) : writeItems items = items.flatMap write := by
  induction items with
  | nil => rfl
  | cons item items ih =>
    rw [List.flatMap_cons, ← ih]
    rfl

/-- An entry as it is written: the key and then the value. -/
def writeEntry (entry : Value × Value) : Bytes := write entry.1 ++ write entry.2

theorem writeEntries_eq (entries : List (Value × Value)) :
    writeEntries entries = entries.flatMap writeEntry := by
  induction entries with
  | nil => rfl
  | cons entry entries ih =>
    obtain ⟨key, value⟩ := entry
    rw [List.flatMap_cons, ← ih, writeEntry, List.append_assoc]
    rfl

variable {levels : Nat} {items : List Value} {entries : List (Value × Value)}

theorem write_natCast (n : Nat) : (integer n).write = writeHead 0 n := rfl

theorem write_negSucc (n : Nat) : (integer (Int.negSucc n)).write = writeHead 1 n := by
  have hnat : (-1 - Int.negSucc n).toNat = n := by omega
  rw [write, if_neg (Int.not_le.2 (Int.negSucc_lt_zero n)), hnat]

theorem write_bytes (content : Bytes) :
    (bytes content).write = writeHead 2 content.length ++ content := rfl

theorem write_text (content : String) :
    (text content).write =
      writeHead 3 (Bytes.ofText content).length ++ Bytes.ofText content := rfl

theorem write_array (items : List Value) :
    (array items).write = writeHead 4 items.length ++ items.flatMap write :=
  congrArg _ (writeItems_eq items)

theorem write_map (entries : List (Value × Value)) :
    (map entries).write = writeHead 5 entries.length ++ entries.flatMap writeEntry :=
  congrArg _ (writeEntries_eq entries)

theorem length_write_pos (value : Value) : 0 < value.write.length := by
  have hhead (kind n : Nat) (rest : Bytes) : 0 < (writeHead kind n ++ rest).length := by
    have := length_writeHead_pos kind n
    rw [List.length_append]
    omega
  cases value with
  | integer n =>
    cases n with
    | ofNat n => exact length_writeHead_pos 0 n
    | negSucc n =>
      rw [write_negSucc]
      exact length_writeHead_pos 1 n
  | bytes octets => exact hhead 2 _ _
  | text content => exact hhead 3 _ _
  | array items => exact hhead 4 _ _
  | map entries => exact hhead 5 _ _
  | tag number value => exact hhead 6 _ _
  | bool b => exact Nat.one_pos
  | null => exact Nat.one_pos
  | float octets => exact Nat.succ_pos _

theorem length_writeEntry_pos (entry : Value × Value) : 0 < (writeEntry entry).length := by
  have := length_write_pos entry.1
  rw [writeEntry, List.length_append]
  omega

/-! ### Written values

A value is short enough to be read back if its octets can be counted in eight octets; then so are
its parts. -/

/-- Whether the lengths in the heads of a written value are not too large for a head. -/
def Short (value : Value) : Prop := value.write.length < Bytes.capacity 8

theorem Short.of_mem_array {item : Value} (h : (array items).Short) (hmem : item ∈ items) :
    item.Short := by
  have hitem : item.write.length ≤ (items.flatMap write).length :=
    length_le_length_flatMap write hmem
  rw [Short, write_array, List.length_append] at h
  rw [Short]
  omega

theorem Short.of_mem_map {entry : Value × Value} (h : (map entries).Short)
    (hmem : entry ∈ entries) : entry.1.Short ∧ entry.2.Short := by
  have hentry : (writeEntry entry).length ≤ (entries.flatMap writeEntry).length :=
    length_le_length_flatMap writeEntry hmem
  rw [writeEntry, List.length_append] at hentry
  rw [Short, write_map, List.length_append] at h
  rw [Short, Short]
  omega

theorem head_read_write_natCast {n : Nat} (h : n < Bytes.capacity 8) (rest : Bytes) :
    Head.read ((integer n).write ++ rest) = some (.unsigned n, rest) := by
  rw [write_natCast]
  exact Head.read_writeHead_append rest (by decide) h

theorem head_read_write_negSucc {n : Nat} (h : n < Bytes.capacity 8) (rest : Bytes) :
    Head.read ((integer (Int.negSucc n)).write ++ rest) = some (.negative n, rest) := by
  rw [write_negSucc]
  exact Head.read_writeHead_append rest (by decide) h

theorem head_read_write_bytes {content : Bytes} (h : (bytes content).Short) (rest : Bytes) :
    Head.read ((bytes content).write ++ rest) =
      some (.bytes (some content.length), content ++ rest) := by
  rw [Short, write_bytes, List.length_append] at h
  rw [write_bytes, List.append_assoc]
  exact Head.read_writeHead_append _ (by decide) (by omega)

theorem head_read_write_text {content : String} (h : (text content).Short) (rest : Bytes) :
    Head.read ((text content).write ++ rest) =
      some (.text (some (Bytes.ofText content).length), Bytes.ofText content ++ rest) := by
  rw [Short, write_text, List.length_append] at h
  rw [write_text, List.append_assoc]
  exact Head.read_writeHead_append _ (by decide) (by omega)

theorem head_read_write_array (h : (array items).Short) (rest : Bytes) :
    Head.read ((array items).write ++ rest) =
      some (.array (some items.length), items.flatMap write ++ rest) := by
  have hcount := length_le_of_pos length_write_pos items
  rw [Short, write_array, List.length_append] at h
  rw [write_array, List.append_assoc]
  exact Head.read_writeHead_append _ (by decide) (by omega)

theorem head_read_write_map (h : (map entries).Short) (rest : Bytes) :
    Head.read ((map entries).write ++ rest) =
      some (.map (some entries.length), entries.flatMap writeEntry ++ rest) := by
  have hcount := length_le_of_pos length_writeEntry_pos entries
  rw [Short, write_map, List.length_append] at h
  rw [write_map, List.append_assoc]
  exact Head.read_writeHead_append _ (by decide) (by omega)

/-- A value of numbers of 64 bits and a sign, strings, arrays, maps, booleans and nulls, with at
most so many arrays and maps inside each other. -/
inductive Plain : (levels : Nat) → Value → Prop
  | integer {levels : Nat} {n : Int} (hlow : -18446744073709551616 ≤ n)
    (hhigh : n < 18446744073709551616) : Plain levels (.integer n)
  | bytes {levels : Nat} (octets : Bytes) : Plain levels (.bytes octets)
  | text {levels : Nat} (content : String) : Plain levels (.text content)
  | bool {levels : Nat} (b : Bool) : Plain levels (.bool b)
  | null {levels : Nat} : Plain levels .null
  | array {levels : Nat} {items : List Value} (hitems : ∀ item ∈ items, Plain levels item) :
    Plain (levels + 1) (.array items)
  | map {levels : Nat} {entries : List (Value × Value)}
    (hkeys : ∀ entry ∈ entries, Plain levels entry.1)
    (hvalues : ∀ entry ∈ entries, Plain levels entry.2) : Plain (levels + 1) (.map entries)

/-- A plain value is read back, whatever follows it. The induction is on how it is built. -/
theorem Plain.read_write {value : Value} (h : Plain levels value) (hshort : value.Short)
    (rest : Bytes) : Value.read levels (value.write ++ rest) = some (value, rest) := by
  induction h generalizing rest with
  | @integer levels n hlow hhigh =>
    have hcapacity : Bytes.capacity 8 = 18446744073709551616 := Bytes.capacity_eight
    cases n with
    | ofNat n =>
      have hn : n < Bytes.capacity 8 := Int.ofNat_lt.1 hhigh
      exact read_unsigned (head_read_write_natCast hn rest)
    | negSucc n =>
      have hvalue : Int.negSucc n = -1 - (n : Int) := by omega
      rw [read_negative (head_read_write_negSucc (by omega) rest), hvalue]
  | bytes octets =>
    rw [read_bytes (head_read_write_bytes hshort rest), readBytes, Bytes.split?_append,
      Option.map_some]
  | text content =>
    simp only [read_text (head_read_write_text hshort rest), readText, Bytes.split?_append,
      Option.bind_some, Bytes.toText?_ofText, Option.map_some]
  | bool b =>
    cases b with
    | false => exact read_simple (n := 20) rfl
    | true => exact read_simple (n := 21) rfl
  | null => exact read_simple (n := 22) rfl
  | @array levels items hitems ih =>
    have hread : ∀ item ∈ items, ∀ rest,
        Value.read levels (item.write ++ rest) = some (item, rest) :=
      fun item hitem ↦ ih item hitem (hshort.of_mem_array hitem)
    rw [read_array (head_read_write_array hshort rest), readMany, readCounted_flatMap hread]
    rfl
  | @map levels entries hkeys hvalues ihkeys ihvalues =>
    have hread : ∀ entry ∈ entries, ∀ rest,
        readPair (Value.read levels) (Value.read levels) (writeEntry entry ++ rest) =
          some (entry, rest) := by
      intro entry hentry rest
      obtain ⟨hkey, hvalue⟩ := hshort.of_mem_map hentry
      rw [writeEntry, List.append_assoc, readPair, ihkeys entry hentry hkey]
      simp only [ihvalues entry hentry hvalue, Option.map_some]
    rw [read_map (head_read_write_map hshort rest), readMany, readCounted_flatMap hread]
    rfl

end Value

end AttestedUplink.Cbor
