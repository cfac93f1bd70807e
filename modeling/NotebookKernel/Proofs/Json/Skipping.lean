import NotebookKernel.Proofs.Json.Skipping.Scalars

/-! # Skipping what can be read

A reader asks more of a value than one who only skips it: numbers have to be in range,
surrogates need partners, and the depth is bounded.  So whatever `value` reads is skipped by
`skipValue`, up to the same place (`skipValue_of_value`).

`value` follows the nesting by recursion and `skipValue` keeps it on a stack.  What the stack
still demands of the text behind a value is `proceed`; a value, the items of an array and the
members of an object are each skipped in front of any such demand.
-/

namespace NotebookKernel.Json

open NotebookKernel.Text (Bytes)

/-! ## The stack -/

theorem skipSpaces_idem (text : Bytes) : skipSpaces (skipSpaces text) = skipSpaces text := by
  induction text with
  | nil => rfl
  | cons b text ih =>
    cases space : isSpace b with
    | true => simpa [skipSpaces, space] using ih
    | false => simp [skipSpaces, space]

theorem skipSpaces_suffix (text : Bytes) : skipSpaces text <:+ text :=
  List.dropWhile_suffix _

/-- Begin with a value at its first byte: a scalar is passed over, a container is put on the
    stack.  Whatever ends there is closed. -/
def opening (open_ : List Frame) (b : UInt8) (rest : Bytes) :
    Except Failure (List Frame × Bytes) :=
  if b = 0x5B then closeFrames false (.list :: open_) rest
  else if b = 0x7B then closeFrames false (.object :: open_) rest
  else (skipScalar (b :: rest)).bind (closeFrames true open_)

/-- Go on with the containers that are open: with the next value of the innermost one, if
    there is one. -/
def proceed (rounds : Nat) : Except Failure (List Frame × Bytes) → Except Failure Bytes
  | .error e => .error e
  | .ok ([], rest) => .ok rest
  | .ok (frame :: outer, rest) =>
    match skipKey (frame :: outer) rest with
    | .error e => .error e
    | .ok rest => skipWithin rounds (frame :: outer) rest

theorem skipWithin_succ {rounds : Nat} {open_ : List Frame} {text rest : Bytes} {b : UInt8}
    (start : skipSpaces text = b :: rest) :
    skipWithin (rounds + 1) open_ text = proceed rounds (opening open_ b rest) := by
  rw [skipWithin, start]
  rfl

/-- A value begins with its first byte that is no space. -/
theorem skipWithin_of_skipSpaces {rounds : Nat} {open_ : List Frame} {text rest : Bytes}
    (skipped : skipWithin rounds open_ (skipSpaces text) = .ok rest) :
    skipWithin rounds open_ text = .ok rest := by
  cases rounds with
  | zero => cases skipped
  | succ rounds =>
    rw [skipWithin, skipSpaces_idem] at skipped
    rw [skipWithin]
    exact skipped

/-- More rounds than are needed change nothing. -/
theorem skipWithin_mono {n m : Nat} {open_ : List Frame} {text rest : Bytes}
    (skipped : skipWithin n open_ text = .ok rest) (more : n ≤ m) :
    skipWithin m open_ text = .ok rest := by
  induction n generalizing m open_ text with
  | zero => cases skipped
  | succ n ih =>
    cases m with
    | zero => cases more
    | succ m =>
      cases start : skipSpaces text with
      | nil =>
        rw [skipWithin, start] at skipped
        cases skipped
      | cons b text' =>
        rw [skipWithin_succ start] at skipped ⊢
        rcases opened : opening open_ b text' with _ | ⟨_ | ⟨frame, outer⟩, behind⟩
        · rw [opened] at skipped
          cases skipped
        · rw [opened] at skipped
          exact skipped
        · rw [opened] at skipped
          rw [proceed] at skipped ⊢
          split at skipped
          · cases skipped
          · exact ih skipped (Nat.le_of_succ_le_succ more)

theorem proceed_mono {n m : Nat} {opened : Except Failure (List Frame × Bytes)} {rest : Bytes}
    (done : proceed n opened = .ok rest) (more : n ≤ m) : proceed m opened = .ok rest := by
  rcases opened with _ | ⟨_ | ⟨frame, outer⟩, behind⟩
  · cases done
  · exact done
  · rw [proceed] at done ⊢
    split at done
    · cases done
    · exact skipWithin_mono done more

theorem closeFrames_end {frame : Frame} {outer : List Frame} {text rest : Bytes}
    (here : skipSpaces text = frame.closer :: rest) (behindItem : Bool) :
    closeFrames behindItem (frame :: outer) text = closeFrames true outer rest := by
  have notComma : frame.closer ≠ 0x2C := by cases frame <;> decide
  rw [closeFrames, here]
  simp [notComma]

theorem closeFrames_comma {frame : Frame} {outer : List Frame} {text rest : Bytes}
    (here : skipSpaces text = 0x2C :: rest) :
    closeFrames true (frame :: outer) text = .ok (frame :: outer, rest) := by
  rw [closeFrames, here]
  rfl

theorem closeFrames_first (frame : Frame) {outer : List Frame} {text rest : Bytes} {b : UInt8}
    (here : skipSpaces text = b :: rest) (notEnd : b ≠ frame.closer) :
    closeFrames false (frame :: outer) text = .ok (frame :: outer, b :: rest) := by
  rw [closeFrames, here]
  simp [notEnd]

/-! ## What the reader finds -/

theorem nextItem_cases {first : Bool} {text : Bytes} {next : Next}
    (found : nextItem first text = .ok next) :
    (∃ rest, next = .closed rest ∧ skipSpaces text = 0x5D :: rest) ∨
    ∃ b rest, next = .more (b :: rest) ∧ b ≠ 0x5D ∧
      (first = true ∧ skipSpaces text = b :: rest ∨
        first = false ∧ ∃ behind, skipSpaces text = 0x2C :: behind ∧
          skipSpaces behind = b :: rest) := by
  unfold nextItem at found
  split at found
  · cases found
  next b rest here =>
    split at found
    next ends =>
      cases found
      exact .inl ⟨rest, rfl, ends ▸ here⟩
    next notEnd =>
      right
      cases first with
      | true =>
        cases found
        exact ⟨b, rest, rfl, notEnd, .inl ⟨rfl, here⟩⟩
      | false =>
        simp only [Bool.false_eq_true, if_false] at found
        split at found
        next comma =>
          split at found
          · cases found
          next c rest' there =>
            split at found
            · cases found
            next notEnd' =>
              cases found
              exact ⟨c, rest', rfl, notEnd', .inr ⟨rfl, rest, comma ▸ here, there⟩⟩
        next => cases found

theorem keyFrom_cases {b : UInt8} {text rest : Bytes} {key : String}
    (found : keyFrom b text = .ok (key, rest)) : b = 0x22 ∧ stringBody text = .ok (key, rest) := by
  unfold keyFrom at found
  split at found
  next quote => exact ⟨quote, found⟩
  next => cases found

theorem nextKey_cases {first : Bool} {text rest : Bytes} {key : Option String}
    (found : nextKey first text = .ok (key, rest)) :
    (key = none ∧ skipSpaces text = 0x7D :: rest) ∨
    ∃ name body, key = some name ∧ stringBody body = .ok (name, rest) ∧
      (first = true ∧ skipSpaces text = 0x22 :: body ∨
        first = false ∧ ∃ behind, skipSpaces text = 0x2C :: behind ∧
          skipSpaces behind = 0x22 :: body) := by
  unfold nextKey at found
  split at found
  · cases found
  next b body here =>
    split at found
    next ends =>
      cases found
      exact .inl ⟨rfl, ends ▸ here⟩
    next notEnd =>
      right
      cases first with
      | true =>
        obtain ⟨⟨name, _⟩, read, same⟩ := map_eq_ok.mp found
        cases same
        obtain ⟨quote, read⟩ := keyFrom_cases read
        exact ⟨name, body, rfl, read, .inl ⟨rfl, quote ▸ here⟩⟩
      | false =>
        simp only [Bool.false_eq_true, if_false] at found
        split at found
        next comma =>
          split at found
          · cases found
          next c body' there =>
            split at found
            · cases found
            · obtain ⟨⟨name, _⟩, read, same⟩ := map_eq_ok.mp found
              cases same
              obtain ⟨quote, read⟩ := keyFrom_cases read
              exact ⟨name, body', rfl, read, .inr ⟨rfl, body, comma ▸ here, quote ▸ there⟩⟩
        next => cases found

theorem colon_suffix {text rest : Bytes} (found : colon text = .ok rest) : rest <:+ text := by
  unfold colon at found
  split at found
  · cases found
  next b rest' here =>
    split at found
    · cases found
      exact (List.suffix_cons b rest).trans (here ▸ skipSpaces_suffix text)
    · cases found

theorem items_cases {α : Type} {item : Reader α} {n : Nat} {first : Bool} {text rest : Bytes}
    {as : List α} (read : items item (n + 1) first text = .ok (as, rest)) :
    (as = [] ∧ nextItem first text = .ok (.closed rest)) ∨
    ∃ start a more others, as = a :: others ∧ nextItem first text = .ok (.more start) ∧
      item start = .ok (a, more) ∧ items item n false more = .ok (others, rest) := by
  rw [items] at read
  split at read
  · cases read
  next found =>
    cases read
    exact .inl ⟨rfl, found⟩
  next start found =>
    split at read
    · cases read
    next a more taken =>
      split at read
      · cases read
      next others _ taken' =>
        cases read
        exact .inr ⟨start, a, more, others, rfl, found, taken, taken'⟩

theorem members_cases {α : Type} {item : Reader α} {n : Nat} {first : Bool} {text rest : Bytes}
    {as : List (String × α)} (read : members item (n + 1) first text = .ok (as, rest)) :
    (as = [] ∧ nextKey first text = .ok (none, rest)) ∨
    ∃ key behindKey start a more others, as = (key, a) :: others ∧
      nextKey first text = .ok (some key, behindKey) ∧ colon behindKey = .ok start ∧
      item start = .ok (a, more) ∧ members item n false more = .ok (others, rest) := by
  rw [members] at read
  split at read
  · cases read
  next found =>
    cases read
    exact .inl ⟨rfl, found⟩
  next key behindKey found =>
    split at read
    · cases read
    next start separated =>
      split at read
      · cases read
      next a more taken =>
        split at read
        · cases read
        next others _ taken' =>
          cases read
          exact .inr ⟨key, behindKey, start, a, more, others, rfl, found, separated, taken, taken'⟩

/-- What a value is can be seen from its first byte. -/
theorem value_cases {depth : Nat} {text rest : Bytes} {v : Value}
    (read : value depth text = .ok (v, rest)) :
    ∃ b more, skipSpaces text = b :: more ∧
      ((b = 0x5B ∧ ∃ d vs, depth = d + 1 ∧ v = .array vs ∧
          items (value d) (more.length + 1) true more = .ok (vs, rest)) ∨
        (b = 0x7B ∧ ∃ d ms, depth = d + 1 ∧ v = .object ms ∧
          members (value d) (more.length + 1) true more = .ok (ms, rest)) ∨
        (b ≠ 0x5B ∧ b ≠ 0x7B ∧ scalar (b :: more) = .ok (v, rest))) := by
  cases depth with
  | zero =>
    rw [value] at read
    split at read
    · cases read
    next b more start =>
      split at read
      · cases read
      next other =>
        simp only [Bool.or_eq_true, decide_eq_true_eq, not_or] at other
        exact ⟨b, more, start, .inr (.inr ⟨other.1, other.2, read⟩)⟩
  | succ d =>
    rw [value] at read
    split at read
    · cases read
    next b more start =>
      refine ⟨b, more, start, ?_⟩
      split at read
      next array =>
        obtain ⟨⟨vs, _⟩, taken, same⟩ := map_eq_ok.mp read
        cases same
        exact .inl ⟨array, d, vs, rfl, rfl, taken⟩
      next notArray =>
        split at read
        next object =>
          obtain ⟨⟨ms, _⟩, taken, same⟩ := map_eq_ok.mp read
          cases same
          exact .inr (.inl ⟨object, d, ms, rfl, rfl, taken⟩)
        next notObject => exact .inr (.inr ⟨notArray, notObject, read⟩)

theorem length_of_skipSpaces {text rest : Bytes} {b : UInt8} (here : skipSpaces text = b :: rest) :
    rest.length < text.length := by
  have shorter := (skipSpaces_suffix text).length_le
  rw [here] at shorter
  exact shorter

theorem length_nextItem {first : Bool} {text start : Bytes}
    (found : nextItem first text = .ok (.more start)) : start.length ≤ text.length := by
  obtain ⟨_, same, _⟩ | ⟨b, rest, same, _, place⟩ := nextItem_cases found
  · cases same
  · cases same
    obtain ⟨_, here⟩ | ⟨_, behind, here, there⟩ := place
    · exact length_of_skipSpaces here
    · exact Nat.le_trans (length_of_skipSpaces there) (Nat.le_of_lt (length_of_skipSpaces here))

theorem length_nextKey {first : Bool} {text rest : Bytes} {key : Option String}
    (found : nextKey first text = .ok (key, rest)) : rest.length < text.length := by
  obtain ⟨_, here⟩ | ⟨name, body, _, read, place⟩ := nextKey_cases found
  · exact length_of_skipSpaces here
  · have shorter := (skipString_suffix (skipString_of_stringBody read)).length_le
    obtain ⟨_, here⟩ | ⟨_, behind, here, there⟩ := place
    · have := length_of_skipSpaces here
      omega
    · have := length_of_skipSpaces here
      have := length_of_skipSpaces there
      omega

/-! ## Items and members -/

section Steps

variable {first : Bool} {open_ : List Frame} {text rest final : Bytes} {rounds : Nat}

theorem proceed_closed {frame : Frame} (here : skipSpaces text = frame.closer :: rest)
    (behindItem : Bool) (demand : proceed rounds (closeFrames true open_ rest) = .ok final) :
    proceed rounds (closeFrames behindItem (frame :: open_) text) = .ok final := by
  rw [closeFrames_end here]
  exact demand

theorem proceed_item {start : Bytes} (found : nextItem first text = .ok (.more start))
    (skipped : skipWithin rounds (.list :: open_) start = .ok final) :
    proceed rounds (closeFrames (!first) (.list :: open_) text) = .ok final := by
  obtain ⟨_, same, _⟩ | ⟨b, more, same, notEnd, place⟩ := nextItem_cases found
  · cases same
  · cases same
    obtain ⟨rfl, here⟩ | ⟨rfl, behind, here, there⟩ := place
    · rw [Bool.not_true, closeFrames_first .list here notEnd]
      exact skipped
    · rw [Bool.not_false, closeFrames_comma here]
      exact skipWithin_of_skipSpaces (there ▸ skipped)

theorem proceed_member {key : String} {behindKey start : Bytes}
    (found : nextKey first text = .ok (some key, behindKey)) (separated : colon behindKey = .ok start)
    (skipped : skipWithin rounds (.object :: open_) start = .ok final) :
    proceed rounds (closeFrames (!first) (.object :: open_) text) = .ok final := by
  obtain ⟨same, _⟩ | ⟨name, body, _, read, place⟩ := nextKey_cases found
  · cases same
  · -- The key and its colon are skipped in one go.
    have passed {from_ : Bytes} (quote : skipSpaces from_ = 0x22 :: body) :
        skipKey (.object :: open_) from_ = .ok start := by
      rw [skipKey, quote]
      simp only [if_true, skipString_of_stringBody read, Except.bind, separated]
    obtain ⟨rfl, here⟩ | ⟨rfl, behind, here, there⟩ := place
    · have again : skipSpaces (0x22 :: body) = 0x22 :: body := rfl
      rw [Bool.not_true, closeFrames_first .object here (by decide), proceed, passed again]
      exact skipped
    · rw [Bool.not_false, closeFrames_comma here, proceed, passed there]
      exact skipped

end Steps

/-! ## Values -/

/-- A value in front of `rest` is skipped, whatever the open containers demand behind it.  No
    round is made without a byte. -/
structure Passed (text rest : Bytes) : Prop where
  shorter : rest.length < text.length
  skips {open_ : List Frame} {rounds : Nat} {final : Bytes} :
    proceed rounds (closeFrames true open_ rest) = .ok final →
      skipWithin (rounds + (text.length - rest.length)) open_ text = .ok final

/-- What remains of a container in front of `rest` is skipped, with its end. -/
structure PassedWithin (frame : Frame) (first : Bool) (text rest : Bytes) : Prop where
  shorter : rest.length < text.length
  skips {open_ : List Frame} {rounds : Nat} {final : Bytes} :
    proceed rounds (closeFrames true open_ rest) = .ok final →
      proceed (rounds + (text.length - rest.length))
        (closeFrames (!first) (frame :: open_) text) = .ok final

theorem passedWithin_end {frame : Frame} {text rest : Bytes}
    (here : skipSpaces text = frame.closer :: rest) (first : Bool) :
    PassedWithin frame first text rest where
  shorter := length_of_skipSpaces here
  skips demand := proceed_mono (proceed_closed here _ demand) (Nat.le_add_right _ _)

theorem passed_scalar {text rest more : Bytes} {b : UInt8} {v : Value}
    (start : skipSpaces text = b :: more) (notArray : b ≠ 0x5B) (notObject : b ≠ 0x7B)
    (read : scalar (b :: more) = .ok (v, rest)) : Passed text rest := by
  have skipped := skipScalar_of_scalar read
  obtain ⟨_, _, same, behind⟩ := skipScalar_suffix skipped
  cases same
  have shorter := length_of_skipSpaces start
  have notLonger := behind.length_le
  refine ⟨by omega, fun {open_ rounds final} demand => ?_⟩
  have once : skipWithin (rounds + 1) open_ text = .ok final := by
    rw [skipWithin_succ start, opening, if_neg notArray, if_neg notObject, skipped]
    exact demand
  exact skipWithin_mono once (by omega)

theorem passed_container {frame : Frame} {text rest more : Bytes} {b : UInt8}
    (start : skipSpaces text = b :: more)
    (opens : ∀ open_, opening open_ b more = closeFrames false (frame :: open_) more)
    (inside : PassedWithin frame true more rest) : Passed text rest := by
  have shorter := length_of_skipSpaces start
  have shorter' := inside.shorter
  refine ⟨by omega, fun {open_ rounds final} demand => ?_⟩
  have skipped : skipWithin (rounds + (more.length - rest.length) + 1) open_ text = .ok final := by
    rw [skipWithin_succ start, opens]
    exact inside.skips demand
  exact skipWithin_mono skipped (by omega)

/-- Whatever the reader takes off a text is skipped. -/
def Skips {α : Type} (item : Reader α) : Prop :=
  ∀ {text rest : Bytes} {a : α}, item text = .ok (a, rest) → Passed text rest

section Containers

variable {α : Type} {item : Reader α}

theorem Skips.items (h : Skips item) {n : Nat} {first : Bool} {text rest : Bytes} {as : List α}
    (read : items item n first text = .ok (as, rest)) : PassedWithin .list first text rest := by
  induction n generalizing first text as with
  | zero => cases read
  | succ n ih =>
    obtain ⟨_, found⟩ | ⟨start, a, more, others, _, found, taken, taken'⟩ := items_cases read
    · obtain ⟨_, same, here⟩ | ⟨_, _, same, _⟩ := nextItem_cases found
      · cases same
        exact passedWithin_end here first
      · cases same
    · have item := h taken
      have others := ih taken'
      have shorter := item.shorter
      have shorter' := others.shorter
      have notLonger := length_nextItem found
      refine ⟨by omega, fun demand => ?_⟩
      have skipped := proceed_item found (item.skips (others.skips demand))
      exact proceed_mono skipped (by omega)

theorem Skips.members (h : Skips item) {n : Nat} {first : Bool} {text rest : Bytes}
    {as : List (String × α)} (read : members item n first text = .ok (as, rest)) :
    PassedWithin .object first text rest := by
  induction n generalizing first text as with
  | zero => cases read
  | succ n ih =>
    obtain ⟨_, found⟩ |
      ⟨key, behindKey, start, a, more, others, _, found, separated, taken, taken'⟩ :=
        members_cases read
    · obtain ⟨_, here⟩ | ⟨_, _, same, _⟩ := nextKey_cases found
      · exact passedWithin_end here first
      · cases same
    · have item := h taken
      have others := ih taken'
      have shorter := item.shorter
      have shorter' := others.shorter
      have behindColon := (colon_suffix separated).length_le
      have behindName := length_nextKey found
      refine ⟨by omega, fun demand => ?_⟩
      have skipped := proceed_member found separated (item.skips (others.skips demand))
      exact proceed_mono skipped (by omega)

end Containers

/-- A value is skipped as it is read. -/
theorem skips_value (depth : Nat) : Skips (value depth) := by
  induction depth with
  | zero =>
    intro text rest v read
    obtain ⟨b, more, start, ⟨_, _, _, impossible, _⟩ | ⟨_, _, _, impossible, _⟩ |
      ⟨notArray, notObject, read⟩⟩ := value_cases read
    · cases impossible
    · cases impossible
    · exact passed_scalar start notArray notObject read
  | succ depth ih =>
    intro text rest v read
    obtain ⟨b, more, start, ⟨rfl, _, _, same, _, read⟩ | ⟨rfl, _, _, same, _, read⟩ |
      ⟨notArray, notObject, read⟩⟩ := value_cases read
    · cases same
      exact passed_container start (fun _ => rfl) (ih.items read)
    · cases same
      exact passed_container start (fun _ => rfl) (ih.members read)
    · exact passed_scalar start notArray notObject read

/-- Whatever can be read can be skipped. -/
theorem skipValue_of_value {depth : Nat} {text rest : Bytes} {v : Value}
    (read : value depth text = .ok (v, rest)) : skipValue text = .ok rest := by
  have nothingOpen : proceed 0 (closeFrames true [] rest) = .ok rest := rfl
  exact skipWithin_mono ((skips_value depth read).skips nothingOpen) (by omega)

end NotebookKernel.Json
