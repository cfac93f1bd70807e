import NotebookKernel.Proofs.Json.Numbers
import NotebookKernel.Proofs.Json.Strings

/-! # Values there and back

The compact text of a value is read back as the value.  `Exact` says which values survive:
those without doubles, whose integers fit into 64 bits, and whose arrays and objects are not
nested deeper than a reader follows.

The reader's loops take any reader for their elements, so the lemmas about them only ask that
this reader takes each element back; the induction is on the value then.
-/

namespace NotebookKernel.Json

open NotebookKernel.Text (Bytes encode)

/-! ## Exact values -/

/-- Values that are written without loss, with at most `depth` arrays and objects open at a time. -/
inductive Value.Exact : Nat → Value → Prop
  | null {depth : Nat} : Exact depth .null
  | bool {depth : Nat} (b : Bool) : Exact depth (.bool b)
  | integer {depth : Nat} {i : Int} (lower : -(Nat.pow 2 63 : Nat) ≤ i)
    (upper : i < (Nat.pow 2 64 : Nat)) : Exact depth (.integer i)
  | string {depth : Nat} (s : String) : Exact depth (.string s)
  | array {depth : Nat} {items : List Value} (exact : ∀ v ∈ items, Exact depth v) :
    Exact (depth + 1) (.array items)
  | object {depth : Nat} {members : Members} (exact : ∀ m ∈ members, Exact depth m.2) :
    Exact (depth + 1) (.object members)

section Exact

variable {depth : Nat}

@[simp] theorem exact_null : Value.null.Exact depth :=
  .null

@[simp] theorem exact_string (s : String) : (Value.string s).Exact depth :=
  .string s

@[simp] theorem exact_integer {i : Int} :
    (Value.integer i).Exact depth ↔ -(Nat.pow 2 63 : Nat) ≤ i ∧ i < (Nat.pow 2 64 : Nat) :=
  ⟨fun (.integer lower upper) => ⟨lower, upper⟩, fun ⟨lower, upper⟩ => .integer lower upper⟩

@[simp] theorem exact_array {vs : List Value} :
    (Value.array vs).Exact (depth + 1) ↔ ∀ v ∈ vs, v.Exact depth :=
  ⟨fun (.array exact) => exact, .array⟩

@[simp] theorem exact_object {ms : Members} :
    (Value.object ms).Exact (depth + 1) ↔ ∀ m ∈ ms, m.2.Exact depth :=
  ⟨fun (.object exact) => exact, .object⟩

end Exact

/-! ## Scalars -/

theorem encode_renderString (s : String) (rest : Bytes) :
    encode (renderString s) ++ rest =
      0x22 :: (encode (s.toList.flatMap escapeChar) ++ 0x22 :: rest) :=
  Text.encode_enclosed (by decide) (by decide) (s.toList.flatMap escapeChar) rest

theorem scalar_string (s : String) (rest : Bytes) :
    scalar (encode (renderString s) ++ rest) = .ok (.string s, rest) := by
  rw [encode_renderString]
  simp [scalar, isDigit, stringBody_escaped, Except.map]

theorem ne_of_isDigit {b c : UInt8} (digit : isDigit b = true) (other : isDigit c = false) : b ≠ c := by
  rintro rfl
  rw [digit] at other
  cases other

theorem scalar_of_isDigit {b : UInt8} (digit : isDigit b = true) (rest : Bytes) :
    scalar (b :: rest) = number false (b :: rest) := by
  have notNull : b ≠ 0x6E := ne_of_isDigit digit rfl
  have notTrue : b ≠ 0x74 := ne_of_isDigit digit rfl
  have notFalse : b ≠ 0x66 := ne_of_isDigit digit rfl
  have notMinus : b ≠ 0x2D := ne_of_isDigit digit rfl
  simp [scalar, notNull, notTrue, notFalse, notMinus, digit]

/-- The first byte of the digits of a number. -/
theorem encode_toDigits (n : Nat) :
    ∃ b bytes, encode (Nat.toDigits 10 n) = b :: bytes ∧ isDigit b = true := by
  cases text : Nat.toDigits 10 n with
  | nil => exact absurd text Nat.toDigits_ne_nil
  | cons c cs =>
    have digit : c.isDigit = true :=
      Nat.isDigit_of_mem_toDigits (b := 10) (n := n) (by omega) (by omega) (by simp [text])
    have range := toNat_of_isDigit digit
    exact ⟨_, _, Text.encode_cons_ascii (by omega) cs, isDigit_ofNat digit⟩

theorem scalar_integer {i : Int} {rest : Bytes} (lower : -(Nat.pow 2 63 : Nat) ≤ i)
    (upper : i < (Nat.pow 2 64 : Nat)) (delimited : Delimited rest) :
    scalar (encode (renderInteger i) ++ rest) = .ok (.integer i, rest) := by
  have greatest : greatestUnsigned = 18446744073709551615 := rfl
  have least : Nat.pow 2 63 = 9223372036854775808 := rfl
  have beyond : Nat.pow 2 64 = 18446744073709551616 := rfl
  rw [least] at lower
  rw [beyond] at upper
  cases i with
  | ofNat n =>
    have bound : (n : Int) < (18446744073709551616 : Nat) := upper
    have fits : n ≤ greatestUnsigned := by rw [greatest]; omega
    obtain ⟨b, bytes, text, digit⟩ := encode_toDigits n
    have read := number_toDigits fits delimited false
    rw [text, List.cons_append] at read
    rw [renderInteger, text, List.cons_append, scalar_of_isDigit digit, read]
    rfl
  | negSucc n =>
    have small : ¬ 9223372036854775808 < n + 1 := by omega
    have fits : n + 1 ≤ greatestUnsigned := by rw [greatest]; omega
    have read := number_toDigits fits delimited true
    rw [renderInteger, Text.encode_cons_ascii (by decide), List.cons_append]
    simp [scalar, read, wholeNumber, small, Int.negSucc_eq]

/-- An integer begins with a minus or a digit. -/
theorem encode_renderInteger (i : Int) :
    ∃ b bytes, encode (renderInteger i) = b :: bytes ∧ (b = 0x2D ∨ isDigit b = true) := by
  cases i with
  | ofNat n =>
    obtain ⟨b, bytes, text, digit⟩ := encode_toDigits n
    exact ⟨b, bytes, text, .inr digit⟩
  | negSucc n => exact ⟨0x2D, _, Text.encode_cons_ascii (by decide) _, .inl rfl⟩

/-! ## Values as elements -/

/-- The reader takes the value back, and the text of the value begins like one. -/
structure TakesBack (item : Reader Value) (v : Value) : Prop where
  opens : ∃ b bytes, encode v.render = b :: bytes ∧ isSpace b = false ∧ b ≠ 0x5D
  reads {rest : Bytes} : Delimited rest → item (encode v.render ++ rest) = .ok (v, rest)

theorem skipSpaces_cons {b : UInt8} (solid : isSpace b = false) (rest : Bytes) :
    skipSpaces (b :: rest) = b :: rest := by
  simp [skipSpaces, solid]

theorem value_of_scalar {b : UInt8} (solid : isSpace b = false) (notArray : b ≠ 0x5B)
    (notObject : b ≠ 0x7B) (depth : Nat) (rest : Bytes) :
    value depth (b :: rest) = scalar (b :: rest) := by
  cases depth <;> simp [value, skipSpaces_cons solid, notArray, notObject]

/-! ## Arrays -/

theorem encode_moreItems_cons (v : Value) (vs : List Value) (rest : Bytes) :
    encode (renderMoreItems (v :: vs)) ++ rest =
      0x2C :: (encode v.render ++ (encode (renderMoreItems vs) ++ rest)) := by
  rw [renderMoreItems, List.cons_append, Text.encode_cons_ascii (by decide), Text.encode_append,
    List.cons_append, List.append_assoc]
  rfl

theorem delimited_moreItems (vs : List Value) (rest : Bytes) :
    Delimited (encode (renderMoreItems vs) ++ 0x5D :: rest) := by
  cases vs with
  | nil => exact delimited_cons (by decide)
  | cons v vs =>
    rw [encode_moreItems_cons]
    exact delimited_cons (by decide)

/-- Every item takes a byte, so the reader's bound on its rounds is no limit. -/
theorem length_moreItems (vs : List Value) : vs.length ≤ (encode (renderMoreItems vs)).length := by
  induction vs with
  | nil => exact Nat.le_refl 0
  | cons v vs ih =>
    have text := encode_moreItems_cons v vs []
    simp only [List.append_nil] at text
    simp only [text, List.length_cons, List.length_append]
    omega

theorem length_renderItems (vs : List Value) : vs.length ≤ (encode (renderItems vs)).length + 1 := by
  cases vs with
  | nil => exact Nat.zero_le _
  | cons v vs =>
    have more := length_moreItems vs
    rw [renderItems, Text.encode_append, List.length_append, List.length_cons]
    omega

variable {item : Reader Value}

theorem nextItem_true {v : Value} (back : TakesBack item v) (rest : Bytes) :
    nextItem true (encode v.render ++ rest) = .ok (.more (encode v.render ++ rest)) := by
  obtain ⟨b, bytes, text, solid, notEnd⟩ := back.opens
  simp [nextItem, text, skipSpaces_cons solid, notEnd]

theorem nextItem_false {v : Value} (back : TakesBack item v) (rest : Bytes) :
    nextItem false (0x2C :: (encode v.render ++ rest)) = .ok (.more (encode v.render ++ rest)) := by
  obtain ⟨b, bytes, text, solid, notEnd⟩ := back.opens
  have comma : isSpace 0x2C = false := rfl
  simp [nextItem, text, skipSpaces_cons comma, skipSpaces_cons solid, notEnd]

/-- The items behind the first are read up to the end of their array. -/
theorem items_moreItems {vs : List Value} (back : ∀ v ∈ vs, TakesBack item v) (rest : Bytes)
    {rounds : Nat} (enough : vs.length < rounds) :
    items item rounds false (encode (renderMoreItems vs) ++ 0x5D :: rest) = .ok (vs, rest) := by
  induction vs generalizing rounds with
  | nil =>
    cases rounds with
    | zero => cases enough
    | succ rounds => rfl
  | cons v vs ih =>
    cases rounds with
    | zero => cases enough
    | succ rounds =>
      have first := back v (by simp)
      have more := ih (fun w member => back w (List.mem_cons_of_mem v member))
        (Nat.lt_of_succ_lt_succ enough)
      rw [encode_moreItems_cons, items, nextItem_false first]
      simp only [first.reads (delimited_moreItems vs rest), more]

theorem items_renderItems {vs : List Value} (back : ∀ v ∈ vs, TakesBack item v) (rest : Bytes)
    {rounds : Nat} (enough : vs.length < rounds) :
    items item rounds true (encode (renderItems vs) ++ 0x5D :: rest) = .ok (vs, rest) := by
  cases rounds with
  | zero => cases enough
  | succ rounds =>
    cases vs with
    | nil => rfl
    | cons v vs =>
      have first := back v (by simp)
      have more := items_moreItems (fun w member => back w (List.mem_cons_of_mem v member)) rest
        (Nat.lt_of_succ_lt_succ enough)
      rw [renderItems, Text.encode_append, List.append_assoc, items, nextItem_true first]
      simp only [first.reads (delimited_moreItems vs rest), more]

/-! ## Objects -/

theorem encode_member (key : String) (v : Value) (rest : Bytes) :
    encode (renderString key ++ ':' :: v.render) ++ rest =
      encode (renderString key) ++ 0x3A :: (encode v.render ++ rest) := by
  rw [Text.encode_append, Text.encode_cons_ascii (by decide), List.append_assoc]
  rfl

theorem encode_moreMembers_cons (key : String) (v : Value) (ms : Members) (rest : Bytes) :
    encode (renderMoreMembers ((key, v) :: ms)) ++ rest =
      0x2C :: (encode (renderString key) ++
        0x3A :: (encode v.render ++ (encode (renderMoreMembers ms) ++ rest))) := by
  rw [renderMoreMembers, List.cons_append, List.cons_append, Text.encode_cons_ascii (by decide),
    Text.encode_append, List.cons_append, List.append_assoc, encode_member]
  rfl

theorem encode_renderMembers_cons (key : String) (v : Value) (ms : Members) (rest : Bytes) :
    encode (renderMembers ((key, v) :: ms)) ++ rest =
      encode (renderString key) ++
        0x3A :: (encode v.render ++ (encode (renderMoreMembers ms) ++ rest)) := by
  rw [renderMembers, Text.encode_append, List.append_assoc, encode_member]

theorem delimited_moreMembers (ms : Members) (rest : Bytes) :
    Delimited (encode (renderMoreMembers ms) ++ 0x7D :: rest) := by
  cases ms with
  | nil => exact delimited_cons (by decide)
  | cons m ms =>
    rw [encode_moreMembers_cons]
    exact delimited_cons (by decide)

theorem length_moreMembers (ms : Members) : ms.length ≤ (encode (renderMoreMembers ms)).length := by
  induction ms with
  | nil => exact Nat.le_refl 0
  | cons m ms ih =>
    have text := encode_moreMembers_cons m.1 m.2 ms []
    simp only [List.append_nil] at text
    simp only [text, List.length_cons, List.length_append]
    omega

theorem length_renderMembers (ms : Members) :
    ms.length ≤ (encode (renderMembers ms)).length + 1 := by
  cases ms with
  | nil => exact Nat.zero_le _
  | cons m ms =>
    have more := length_moreMembers ms
    have text := encode_renderMembers_cons m.1 m.2 ms []
    simp only [List.append_nil] at text
    simp only [text, List.length_cons, List.length_append]
    omega

theorem nextKey_true (key : String) (rest : Bytes) :
    nextKey true (encode (renderString key) ++ rest) = .ok (some key, rest) := by
  have quote : isSpace 0x22 = false := rfl
  rw [encode_renderString]
  simp [nextKey, skipSpaces_cons quote, keyFrom, stringBody_escaped, Except.map]

theorem nextKey_false (key : String) (rest : Bytes) :
    nextKey false (0x2C :: (encode (renderString key) ++ rest)) = .ok (some key, rest) := by
  have comma : isSpace 0x2C = false := rfl
  have quote : isSpace 0x22 = false := rfl
  rw [encode_renderString]
  simp [nextKey, skipSpaces_cons comma, skipSpaces_cons quote, keyFrom, stringBody_escaped,
    Except.map]

theorem colon_cons (rest : Bytes) : colon (0x3A :: rest) = .ok rest := rfl

/-- The members behind the first are read up to the end of their object. -/
theorem members_moreMembers {ms : Members} (back : ∀ m ∈ ms, TakesBack item m.2) (rest : Bytes)
    {rounds : Nat} (enough : ms.length < rounds) :
    members item rounds false (encode (renderMoreMembers ms) ++ 0x7D :: rest) = .ok (ms, rest) := by
  induction ms generalizing rounds with
  | nil =>
    cases rounds with
    | zero => cases enough
    | succ rounds => rfl
  | cons m ms ih =>
    cases rounds with
    | zero => cases enough
    | succ rounds =>
      have first := (back m (by simp)).reads (delimited_moreMembers ms rest)
      have more := ih (fun other member => back other (List.mem_cons_of_mem m member))
        (Nat.lt_of_succ_lt_succ enough)
      rw [encode_moreMembers_cons, members, nextKey_false]
      simp only [colon_cons, first, more]

theorem members_renderMembers {ms : Members} (back : ∀ m ∈ ms, TakesBack item m.2) (rest : Bytes)
    {rounds : Nat} (enough : ms.length < rounds) :
    members item rounds true (encode (renderMembers ms) ++ 0x7D :: rest) = .ok (ms, rest) := by
  cases rounds with
  | zero => cases enough
  | succ rounds =>
    cases ms with
    | nil => rfl
    | cons m ms =>
      have first := (back m (by simp)).reads (delimited_moreMembers ms rest)
      have more := members_moreMembers
        (fun other member => back other (List.mem_cons_of_mem m member)) rest
        (Nat.lt_of_succ_lt_succ enough)
      rw [encode_renderMembers_cons, members, nextKey_true]
      simp only [colon_cons, first, more]

/-! ## Values -/

theorem takesBack_scalar {depth : Nat} {v : Value} {b : UInt8} {bytes : Bytes}
    (text : encode v.render = b :: bytes) (solid : isSpace b = false)
    (other : b ≠ 0x5B ∧ b ≠ 0x5D ∧ b ≠ 0x7B)
    (reads : ∀ {rest : Bytes}, Delimited rest →
      scalar (encode v.render ++ rest) = .ok (v, rest)) : TakesBack (value depth) v where
  opens := ⟨b, bytes, text, solid, other.2.1⟩
  reads delimited := by
    have read := reads delimited
    rw [text, List.cons_append] at read ⊢
    rw [value_of_scalar solid other.1 other.2.2, read]

theorem encode_array (vs : List Value) (rest : Bytes) :
    encode (Value.array vs).render ++ rest =
      0x5B :: (encode (renderItems vs) ++ 0x5D :: rest) := by
  rw [Value.render]
  exact Text.encode_enclosed (by decide) (by decide) (renderItems vs) rest

theorem encode_object (ms : Members) (rest : Bytes) :
    encode (Value.object ms).render ++ rest =
      0x7B :: (encode (renderMembers ms) ++ 0x7D :: rest) := by
  rw [Value.render]
  exact Text.encode_enclosed (by decide) (by decide) (renderMembers ms) rest

theorem takesBack_array {depth : Nat} {vs : List Value}
    (back : ∀ v ∈ vs, TakesBack (value depth) v) : TakesBack (value (depth + 1)) (.array vs) where
  opens := by
    have text := encode_array vs []
    rw [List.append_nil] at text
    exact ⟨_, _, text, by decide⟩
  reads {rest} _ := by
    have enough : vs.length < (encode (renderItems vs) ++ 0x5D :: rest).length + 1 := by
      have := length_renderItems vs
      simp only [List.length_append, List.length_cons]
      omega
    have read := items_renderItems back rest enough
    have bracket : isSpace 0x5B = false := rfl
    rw [encode_array, value, skipSpaces_cons bracket]
    simp only [if_true, read]
    rfl

theorem takesBack_object {depth : Nat} {ms : Members}
    (back : ∀ m ∈ ms, TakesBack (value depth) m.2) : TakesBack (value (depth + 1)) (.object ms) where
  opens := by
    have text := encode_object ms []
    rw [List.append_nil] at text
    exact ⟨_, _, text, by decide⟩
  reads {rest} _ := by
    have enough : ms.length < (encode (renderMembers ms) ++ 0x7D :: rest).length + 1 := by
      have := length_renderMembers ms
      simp only [List.length_append, List.length_cons]
      omega
    have read := members_renderMembers back rest enough
    have brace : isSpace 0x7B = false := rfl
    have notArray : ¬ (0x7B : UInt8) = 0x5B := by decide
    rw [encode_object, value, skipSpaces_cons brace]
    simp only [notArray, if_true, if_false, read]
    rfl

/-- Every exact value is taken back. -/
theorem takesBack_value {depth : Nat} {v : Value} (exact : v.Exact depth) :
    TakesBack (value depth) v := by
  induction exact with
  | null => exact takesBack_scalar rfl rfl (by decide) fun _ => rfl
  | bool b =>
    cases b with
    | false => exact takesBack_scalar rfl rfl (by decide) fun _ => rfl
    | true => exact takesBack_scalar rfl rfl (by decide) fun _ => rfl
  | @integer depth i lower upper =>
    obtain ⟨b, bytes, text, first⟩ := encode_renderInteger i
    have solid : isSpace b = false ∧ b ≠ 0x5B ∧ b ≠ 0x5D ∧ b ≠ 0x7B := by
      obtain rfl | digit := first
      · decide
      · have other {c : UInt8} : isDigit c = false → b ≠ c := ne_of_isDigit digit
        refine ⟨?_, other rfl, other rfl, other rfl⟩
        simp [isSpace, other (c := 0x20) rfl, other (c := 0x0A) rfl, other (c := 0x0D) rfl,
          other (c := 0x09) rfl]
    exact takesBack_scalar text solid.1 solid.2 (scalar_integer lower upper)
  | string s =>
    have text := encode_renderString s []
    simp only [List.append_nil] at text
    exact takesBack_scalar text rfl (by decide) fun _ => scalar_string s _
  | array exact ih => exact takesBack_array ih
  | object exact ih => exact takesBack_object ih

/-! ## Documents -/

/-- A document with the text of an exact value has that value. -/
theorem readDocument_render {v : Value} (exact : v.Exact greatestDepth) :
    readDocument (encode v.render) = .ok v := by
  have read := (takesBack_value exact).reads delimited_nil
  rw [List.append_nil] at read
  rw [readDocument, read]
  rfl

theorem parse_render {v : Value} (exact : v.Exact greatestDepth) :
    parse (encode v.render) = .ok v.canonical := by
  rw [parse, readDocument_render exact]
  rfl

theorem parse_compact {v : Value} (exact : v.Exact greatestDepth) :
    parse (Text.bytesOf v.compact) = .ok v.canonical := by
  rw [Text.bytesOf, Value.compact, String.toList_ofList, parse_render exact]

/-! ## One line -/

/-- No character is a control character. -/
def Printable (cs : List Char) : Prop :=
  ∀ c ∈ cs, 0x20 ≤ c.toNat

theorem printable_nil : Printable [] :=
  nofun

theorem Printable.append {cs ds : List Char} (front : Printable cs) (back : Printable ds) :
    Printable (cs ++ ds) := by
  intro c member
  obtain member | member := List.mem_append.mp member
  · exact front c member
  · exact back c member

theorem Printable.cons {c : Char} {cs : List Char} (first : 0x20 ≤ c.toNat) (rest : Printable cs) :
    Printable (c :: cs) := by
  intro d member
  obtain rfl | member := List.mem_cons.mp member
  · exact first
  · exact rest d member

theorem printable_of_all {cs : List Char} (all : (cs.all fun c => 0x20 ≤ c.toNat) = true) :
    Printable cs := by
  simpa [Printable] using all

theorem printable_renderString (s : String) : Printable (renderString s) := by
  have escaped : Printable (s.toList.flatMap escapeChar) := by
    intro c member
    obtain ⟨_, _, member⟩ := List.mem_flatMap.mp member
    exact printable_of_mem_escapeChar member
  exact (escaped.cons (by decide)).append (printable_nil.cons (by decide))

theorem printable_renderInteger (i : Int) : Printable (renderInteger i) := by
  have digits (n : Nat) : Printable (Nat.toDigits 10 n) := by
    intro c member
    have digit := Nat.isDigit_of_mem_toDigits (by omega) (by omega) member
    have := toNat_of_isDigit digit
    omega
  cases i with
  | ofNat n => exact digits n
  | negSucc n => exact (digits (n + 1)).cons (by decide)

theorem printable_moreItems {vs : List Value} (printable : ∀ v ∈ vs, Printable v.render) :
    Printable (renderMoreItems vs) := by
  induction vs with
  | nil => exact printable_nil
  | cons v vs ih =>
    have rest := ih fun w member => printable w (List.mem_cons_of_mem v member)
    exact ((printable v (by simp)).cons (by decide)).append rest

theorem printable_moreMembers {ms : Members} (printable : ∀ m ∈ ms, Printable m.2.render) :
    Printable (renderMoreMembers ms) := by
  induction ms with
  | nil => exact printable_nil
  | cons m ms ih =>
    have rest := ih fun other member => printable other (List.mem_cons_of_mem m member)
    have first := (printable m (by simp)).cons (c := ':') (by decide)
    exact (((printable_renderString m.1).cons (by decide)).append first).append rest

/-- The text of an exact value has no control characters, so it is a single line. -/
theorem printable_render {depth : Nat} {v : Value} (exact : v.Exact depth) :
    Printable v.render := by
  induction exact with
  | null => exact printable_of_all rfl
  | bool b =>
    cases b with
    | false => exact printable_of_all rfl
    | true => exact printable_of_all rfl
  | @integer _ i => exact printable_renderInteger i
  | string s => exact printable_renderString s
  | @array _ vs _ ih =>
    have inside : Printable (renderItems vs) := by
      cases vs with
      | nil => exact printable_nil
      | cons v vs =>
        have rest := printable_moreItems fun w member => ih w (List.mem_cons_of_mem v member)
        exact (ih v (by simp)).append rest
    exact (inside.cons (by decide)).append (printable_nil.cons (by decide))
  | @object _ ms _ ih =>
    have inside : Printable (renderMembers ms) := by
      cases ms with
      | nil => exact printable_nil
      | cons m ms =>
        have rest := printable_moreMembers fun other member =>
          ih other (List.mem_cons_of_mem m member)
        have first := (ih m (by simp)).cons (c := ':') (by decide)
        exact ((printable_renderString m.1).append first).append rest
    exact (inside.cons (by decide)).append (printable_nil.cons (by decide))

end NotebookKernel.Json
