import NotebookKernel.Proofs.Json.RoundTrip
import NotebookKernel.Proofs.Kernel.Descriptions

/-! # Envelopes

The name of a request may come before its content or behind it, and the two ways are read by
different code: content that comes first is kept as a value until the name is known.  Each part
of an envelope is read from its text just as it is decoded from its value, so both ways come to
the reading without an order (`parse_iff_describes`).
-/

namespace NotebookKernel

open NotebookKernel.Json
open NotebookKernel.Text (Bytes)

namespace Request

/-! ## Tags and contents in a text -/

theorem readName_toOption {body rest : Bytes} {tag : String}
    (read : stringBody body = .ok (tag, rest)) :
    (readTag.readName (0x22 :: body)).toOption = (Kind.ofTag tag).toOption.map (·, rest) := by
  have string : readScalar "variant identifier" (0x22 :: body) = .ok (.string tag, rest) := by
    change (stringBody body).map _ = _
    rw [read]
    rfl
  simp only [readTag.readName, string]
  cases Kind.ofTag tag <;> rfl

theorem kindOfJson_unknown {key : String} {e : ShapeError} (unknown : Kind.ofTag key = .error e)
    (v : Value) (others : Members) :
    (kindOfJson (.object ((key, v) :: others))).toOption = none := by
  cases found : kindOfJson (.object ((key, v) :: others)) with
  | error => rfl
  | ok kind =>
    obtain named | named := kindOfJson_eq_ok.mp found
    · cases named
    · cases named
      rw [ofTag_eq_ok.mpr rfl] at unknown
      cases unknown

/-- Behind the name of a kind there is nothing but null and the end of the object. -/
theorem readUnit_toOption {kind : Kind} {depth n : Nat} {start more rest : Bytes} {v : Value}
    {others : Members} (read : value depth start = .ok (v, more))
    (closed : members (value depth) n false more = .ok (others, rest)) :
    (readTag.readUnit kind start).toOption =
      (kindOfJson (.object ((kind.tag, v) :: others))).toOption.map (·, rest) := by
  obtain ⟨b, behind, here, shape⟩ := value_cases read
  rw [readTag.readUnit, readScalar, here]
  obtain ⟨rfl, _, vs, _, rfl, _⟩ | ⟨rfl, _, ms, _, rfl, _⟩ | ⟨notArray, notObject, inside⟩ := shape
  · cases others <;> rfl
  · cases others <;> rfl
  · simp only [notArray, notObject, if_false, inside]
    cases v with
    | null =>
      cases n with
      | zero => cases closed
      | succ n =>
        obtain ⟨rfl, found⟩ | ⟨key, _, _, w, _, others, rfl, found, _⟩ := members_cases closed
        · obtain ⟨_, ends⟩ | ⟨_, _, same, _⟩ := nextKey_cases found
          · have known : kindOfJson (.object [(kind.tag, .null)]) = .ok kind :=
              kindOfJson_eq_ok.mpr (.inr rfl)
            simp only [ends, known]
            rfl
          · cases same
        · obtain ⟨same, _⟩ | ⟨_, _, _, _, ⟨impossible, _⟩ | ⟨_, _, comma, _⟩⟩ := nextKey_cases found
          · cases same
          · cases impossible
          · simp only [comma]
            rfl
    | _ => cases others <;> rfl

theorem readTag_toOption {depth : Nat} {text rest : Bytes} {v : Value}
    (read : value depth text = .ok (v, rest)) :
    (readTag text).toOption = (kindOfJson v).toOption.map (·, rest) := by
  obtain ⟨b, more, start, shape⟩ := value_cases read
  rw [readTag, start]
  -- A tag is a name, or an object around one; an array is never a tag.
  obtain ⟨rfl, _, vs, _, rfl, _⟩ | ⟨rfl, d, ms, _, rfl, inside⟩ | ⟨notArray, notObject, inside⟩ := shape
  · rfl
  · change (readTag.readWrapped more).toOption = _
    obtain ⟨rfl, found⟩ | ⟨key, behindKey, start, w, behind, others, rfl, found, separated, taken, closed⟩ :=
      members_cases inside
    · obtain ⟨_, ends⟩ | ⟨_, _, same, _⟩ := nextKey_cases found
      · rw [readTag.readWrapped, ends]
        rfl
      · cases same
    · obtain ⟨same, _⟩ | ⟨_, body, same, named, ⟨_, here⟩ | ⟨impossible, _⟩⟩ := nextKey_cases found
      · cases same
      · cases same
        rw [readTag.readWrapped, here]
        have name := readName_toOption named
        cases known : Kind.ofTag key with
        | error e =>
          rw [known] at name
          obtain ⟨e, failed⟩ := toOption_eq_none.mp name
          rw [kindOfJson_unknown known]
          simp only [if_true, failed]
          rfl
        | ok kind =>
          rw [known] at name
          simp only [if_true, toOption_eq_some.mp name, separated]
          obtain rfl := ofTag_eq_ok.mp known
          exact readUnit_toOption taken closed
      · cases impossible
  · obtain ⟨rfl, tag, rfl, body⟩ | ⟨notQuote, bare⟩ := scalar_cases inside
    · exact readName_toOption body
    · simp only [notQuote, notObject, if_false]
      cases v with
      | string _ | array _ | object _ => cases bare
      | _ => rfl

theorem readContent_toOption {kind : Kind} {depth : Nat} {text rest : Bytes} {v : Value}
    (read : value depth text = .ok (v, rest)) :
    (readContent kind text).toOption = (ofContent kind v).toOption.map (·, rest) := by
  obtain ⟨b, more, start, shape⟩ := value_cases read
  rw [readContent, start]
  obtain ⟨rfl, _, vs, _, rfl, _⟩ | ⟨rfl, d, ms, _, rfl, inside⟩ | ⟨notArray, notObject, inside⟩ := shape
  · rfl
  · exact Record.readObject_toOption (fun f member => Kind.isScalar_of_mem member) inside
  · simp only [notObject, notArray, if_false, inside]
    cases v with
    | object ms =>
      obtain ⟨_, _, same, _⟩ | ⟨_, bare⟩ := scalar_cases inside
      · cases same
      · cases bare
    | _ => rfl

/-! ## Parts of an envelope -/

/-- What a search for the next part of an envelope comes to: the part that is found, with the
    text behind its key, and what the members from there on are. -/
inductive Search (depth : Nat) (ms : Members) (rest : Bytes) : Option Part → Bytes → Prop
  | nothing (absent : ∀ part, Members.get? ms (Part.key part) = none) : Search depth ms rest none rest
  | part {part : Part} {v : Value} {after : Members} {behindKey start more : Bytes} {n : Nat}
      (here : Members.get? ms part.key = some v)
      (later : ∀ other, other ≠ part → Members.get? ms (Part.key other) = Members.get? after other.key)
      (suffix : (part.key, v) :: after <:+ ms)
      (separated : colon behindKey = .ok start) (taken : value depth start = .ok (v, more))
      (remaining : members (value depth) n false more = .ok (after, rest)) :
      Search depth ms rest (some part) behindKey

/-- A member that is no part is passed over. -/
theorem Search.cons {depth : Nat} {ms : Members} {rest behind : Bytes} {found : Option Part}
    (h : Search depth ms rest found behind) {key : String} (notPart : ∀ part : Part, part.key ≠ key)
    (v : Value) : Search depth ((key, v) :: ms) rest found behind := by
  have passed (part : Part) : Members.get? ((key, v) :: ms) part.key = Members.get? ms part.key := by
    rw [Record.get?_cons, if_neg (notPart part)]
  cases h with
  | nothing absent => exact .nothing fun part => (passed part).trans (absent part)
  | part here later suffix separated taken remaining =>
    exact .part ((passed _).trans here) (fun other different => (passed other).trans (later other different))
      (suffix.trans (List.suffix_cons _ _)) separated taken remaining

theorem key_injective {part other : Part} (different : other ≠ part) : other.key ≠ part.key := by
  cases part <;> cases other <;> first | exact absurd rfl different | decide

theorem nextPart_spec {depth n rounds : Nat} {first : Bool} {text rest : Bytes} {ms : Members}
    (read : members (value depth) n first text = .ok (ms, rest)) (enough : text.length < rounds) :
    ∃ found behind, nextPart rounds first text = .ok (found, behind) ∧
      Search depth ms rest found behind := by
  induction n generalizing rounds first text ms with
  | zero => cases read
  | succ n ih =>
    obtain ⟨rounds, rfl⟩ : ∃ r, rounds = r + 1 := ⟨rounds - 1, by omega⟩
    obtain ⟨rfl, found⟩ |
      ⟨key, behindKey, start, v, more, others, rfl, found, separated, taken, remaining⟩ :=
        members_cases read
    · rw [nextPart, found]
      exact ⟨_, _, rfl, .nothing fun _ => rfl⟩
    · rw [nextPart, found]
      by_cases isPart : ∃ part : Part, part.key = key
      · obtain ⟨part, rfl⟩ := isPart
        have stops : Search depth ((part.key, v) :: others) rest (some part) behindKey := by
          refine .part ?_ (fun other different => ?_) (List.suffix_refl _) separated taken remaining
          · rw [Record.get?_cons, if_pos rfl]
          · rw [Record.get?_cons, if_neg (key_injective different)]
        refine ⟨some part, behindKey, ?_, stops⟩
        cases part <;> rfl
      · have notPart : ∀ part : Part, part.key ≠ key := fun part same => isPart ⟨part, same⟩
        have skipped : (colon behindKey).bind skipValue = .ok more := by
          rw [separated]
          exact skipValue_of_value taken
        have shorter : more.length < rounds := by
          have := length_nextKey found
          have := (colon_suffix separated).length_le
          have := (skips_value depth taken).shorter
          omega
        simp only [if_neg (notPart .tag).symm, if_neg (notPart .content).symm, skipped]
        obtain ⟨found, behind, searched, search⟩ := ih remaining shorter
        exact ⟨found, behind, searched, search.cons notPart v⟩

theorem findPart_spec {depth n : Nat} {first : Bool} {text rest : Bytes} {ms : Members}
    (read : members (value depth) n first text = .ok (ms, rest)) :
    ∃ found behind, findPart first text = .ok (found, behind) ∧ Search depth ms rest found behind :=
  nextPart_spec read (Nat.lt_succ_self _)

theorem readRemainder_eq {depth n : Nat} {text rest : Bytes} {ms : Members}
    (read : members (value depth) n false text = .ok (ms, rest))
    (absent : ∀ part, Members.get? ms (Part.key part) = none) (r : Request) :
    readRemainder r text = .ok (r, rest) := by
  obtain ⟨found, behind, searched, search⟩ := findPart_spec read
  cases search with
  | nothing => rw [readRemainder, searched]
  | @part part _ _ _ _ _ _ here =>
    rw [absent part] at here
    cases here

/-! ## Envelopes in a text -/

theorem toOption_required {α : Type} (name : String) (x : Option α) :
    (required name x).toOption = x := by
  cases x <;> rfl

theorem toOption_ofJson (ms : Members) :
    (ofJson (.object ms)).toOption =
      (Members.get? ms Part.tag.key).bind fun tag => (kindOfJson tag).toOption.bind fun kind =>
        (Members.get? ms Part.content.key).bind fun content => (ofContent kind content).toOption := by
  simp only [ofJson, bind, toOption_bind, toOption_required]
  rfl

theorem distinct_behind {ms after : Members} {key : String} {v : Value}
    (distinct : (ms.map Prod.fst).Nodup) (suffix : (key, v) :: after <:+ ms) :
    Members.get? after key = none ∧ (after.map Prod.fst).Nodup := by
  obtain ⟨once, distinct⟩ := List.nodup_cons.mp (distinct.sublist (suffix.sublist.map Prod.fst))
  exact ⟨Record.get?_eq_none once, distinct⟩

section Envelope

variable {depth n : Nat} {text start more rest : Bytes} {after : Members}

theorem readTagFirst_toOption {tag : Value} (distinct : (after.map Prod.fst).Nodup)
    (once : Members.get? after Part.tag.key = none) (separated : colon text = .ok start)
    (taken : value depth start = .ok (tag, more))
    (remaining : members (value depth) n false more = .ok (after, rest)) :
    (readTagFirst text).toOption =
      ((kindOfJson tag).toOption.bind fun kind => (Members.get? after Part.content.key).bind
        fun content => (ofContent kind content).toOption).map (·, rest) := by
  have named := readTag_toOption taken
  rw [readTagFirst, separated]
  cases known : kindOfJson tag with
  | error e =>
    rw [known] at named
    obtain ⟨e', failed⟩ := toOption_eq_none.mp named
    simp only [Except.bind, failed]
    rfl
  | ok kind =>
    rw [known] at named
    obtain ⟨found, behind, searched, search⟩ := findPart_spec remaining
    simp only [Except.bind, toOption_eq_some.mp named, searched]
    cases search with
    | nothing absent =>
      rw [absent .content]
      rfl
    | @part part content after' _ start' more' _ here later suffix separated taken remaining =>
      obtain ⟨once', distinct'⟩ := distinct_behind distinct suffix
      cases part with
      | tag =>
        rw [once] at here
        cases here
      | content =>
        -- Both parts have been found, so that nothing behind them counts.
        have ended (part : Part) : Members.get? after' part.key = none := by
          cases part with
          | tag => exact (later .tag (by decide)).symm.trans once
          | content => exact once'
        have filled : (readContent kind start').toOption = _ := readContent_toOption taken
        rw [here]
        cases made : ofContent kind content with
        | error e =>
          rw [made] at filled
          obtain ⟨e', failed⟩ := toOption_eq_none.mp filled
          simp only [separated, failed]
          simp [made]
        | ok r =>
          rw [made] at filled
          simp only [separated, toOption_eq_some.mp filled, readRemainder_eq remaining ended]
          simp [made]

theorem readContentFirst_toOption {content : Value} (distinct : (after.map Prod.fst).Nodup)
    (once : Members.get? after Part.content.key = none) (separated : colon text = .ok start)
    (taken : value (greatestDepth - 1) start = .ok (content, more))
    (remaining : members (value (greatestDepth - 1)) n false more = .ok (after, rest)) :
    (readContentFirst text).toOption =
      ((Members.get? after Part.tag.key).bind fun tag => (kindOfJson tag).toOption.bind
        fun kind => (ofContent kind content).toOption).map (·, rest) := by
  obtain ⟨found, behind, searched, search⟩ := findPart_spec remaining
  rw [readContentFirst, separated]
  simp only [Except.bind, taken, searched]
  cases search with
  | nothing absent =>
    rw [absent .tag]
    rfl
  | @part part tag after' _ start' more' _ here later suffix separated taken remaining =>
    obtain ⟨once', distinct'⟩ := distinct_behind distinct suffix
    cases part with
    | content =>
      rw [once] at here
      cases here
    | tag =>
      have ended (part : Part) : Members.get? after' part.key = none := by
        cases part with
        | tag => exact once'
        | content => exact (later .content (by decide)).symm.trans once
      have named := readTag_toOption taken
      rw [here]
      cases known : kindOfJson tag with
      | error e =>
        rw [known] at named
        obtain ⟨e', failed⟩ := toOption_eq_none.mp named
        simp only [separated, failed]
        simp [known]
      | ok kind =>
        rw [known] at named
        simp only [separated, toOption_eq_some.mp named]
        cases made : ofContent kind content with
        | error e => simp [known, made, failShape]
        | ok r =>
          simp only [readRemainder_eq remaining ended]
          simp [known, made]

/-- An envelope read from a text is the request that its members describe. -/
theorem readObject_toOption {ms : Members} (distinct : (ms.map Prod.fst).Nodup)
    (read : members (value (greatestDepth - 1)) n true text = .ok (ms, rest)) :
    (Request.readObject text).toOption = (ofJson (.object ms)).toOption.map (·, rest) := by
  obtain ⟨found, behind, searched, search⟩ := findPart_spec read
  rw [Request.readObject, toOption_ofJson]
  simp only [searched]
  cases search with
  | nothing absent =>
    rw [absent .tag]
    rfl
  | @part part v after _ start more _ here later suffix separated taken remaining =>
    obtain ⟨once, distinct⟩ := distinct_behind distinct suffix
    cases part with
    | tag =>
      rw [here, later .content (by decide)]
      exact readTagFirst_toOption distinct once separated taken remaining
    | content =>
      rw [here, later .tag (by decide)]
      exact readContentFirst_toOption distinct once separated taken remaining

end Envelope

/-- A line that is an object is read as its value is. -/
theorem parse_toOption {line : Bytes} {ms : Members} (written : readDocument line = .ok (.object ms))
    (distinct : (ms.map Prod.fst).Nodup) :
    (parse line).toOption = (ofJson (.object ms)).toOption := by
  rw [readDocument] at written
  split at written
  · cases written
  next result taken =>
    obtain ⟨v, rest⟩ := result
    -- Only blanks stand behind the value of a line.
    have ends : skipSpaces rest = [] ∧ v = .object ms := by
      rw [endOfDocument] at written
      split at written
      next ends =>
        cases written
        exact ⟨ends, rfl⟩
      next => cases written
    obtain ⟨ends, rfl⟩ := ends
    obtain ⟨b, more, start, ⟨_, _, _, _, same, _⟩ | ⟨rfl, depth, _, deep, same, inside⟩ | ⟨_, _, inside⟩⟩ :=
      value_cases taken
    · cases same
    · cases same
      cases deep
      have envelope := readObject_toOption distinct inside
      rw [parse, read, start]
      cases made : ofJson (.object ms) with
      | error e =>
        rw [made] at envelope
        obtain ⟨e', failed⟩ := toOption_eq_none.mp envelope
        simp [failed]
      | ok r =>
        rw [made] at envelope
        simp [toOption_eq_some.mp envelope, endOfDocument, ends]
    · obtain ⟨_, _, same, _⟩ | ⟨_, bare⟩ := scalar_cases inside
      · cases same
      · cases bare

/-! ## No order -/

/-- The names of the arguments. -/
def argumentNames : List String :=
  ["code", "cursor_pos", "detail_level", "silent", "restart"]

/-- The members of an object. -/
def membersOf : Value → Option Members
  | .object ms => some ms
  | _ => none

/-- All that a request is made of: the tag, and the arguments if the content is an object. -/
def essentials (ms : Members) : Option Value × Option (List (Option Value)) :=
  (Members.get? ms "msg_type", ((Members.get? ms "content").bind membersOf).map fun arguments =>
    argumentNames.map (Members.get? arguments))

/-- Neither an envelope nor its content repeats a key. -/
structure Distinct (ms : Members) : Prop where
  envelope : (ms.map Prod.fst).Nodup
  content : ∀ arguments, Members.get? ms "content" = some (.object arguments) →
    (arguments.map Prod.fst).Nodup

theorem HasArguments.congr {arguments arguments' : Members} {r : Request}
    (same : argumentNames.map (Members.get? arguments) = argumentNames.map (Members.get? arguments'))
    (has : HasArguments arguments r) : HasArguments arguments' r := by
  simp only [argumentNames, List.map_cons, List.map_nil, List.cons.injEq, and_true] at same
  obtain ⟨code, cursor, detail, silent, restart⟩ := same
  cases r <;> simp only [HasArguments, HasFlag, HasNumber] at has ⊢ <;>
    simpa only [code, cursor, detail, silent, restart] using has

theorem Describes.congr {ms ms' : Members} {r : Request} (same : essentials ms = essentials ms')
    (h : Describes ms r) : Describes ms' r := by
  obtain ⟨⟨tag, hasTag, named⟩, arguments, hasContent, has⟩ := h
  obtain ⟨sameTag, sameArguments⟩ := Prod.mk.inj same
  rw [hasContent] at sameArguments
  obtain ⟨arguments', found, sameArguments⟩ := Option.map_eq_some_iff.mp sameArguments.symm
  obtain ⟨content, hasContent', isObject⟩ := Option.bind_eq_some_iff.mp found
  refine ⟨⟨tag, sameTag ▸ hasTag, named⟩, arguments', ?_, has.congr sameArguments.symm⟩
  cases content with
  | object ms =>
    cases isObject
    exact hasContent'
  | _ => cases isObject

/-- Members with other names do not matter, -/
theorem essentials_append {unknown : Members} (notPart : ∀ m ∈ unknown, ∀ part : Part, m.1 ≠ part.key)
    (ms : Members) : essentials (unknown ++ ms) = essentials ms := by
  induction unknown with
  | nil => rfl
  | cons m unknown ih =>
    rw [← ih fun other member => notPart other (List.mem_cons_of_mem m member)]
    have notTag : m.1 ≠ "msg_type" := notPart m (by simp) .tag
    have notContent : m.1 ≠ "content" := notPart m (by simp) .content
    rw [essentials, List.cons_append, Record.get?_cons, Record.get?_cons, if_neg notTag.symm,
      if_neg notContent.symm]
    rfl

/-- and neither does the order. -/
theorem essentials_perm {ms ms' : Members} (distinct : (ms.map Prod.fst).Nodup) (perm : ms.Perm ms') :
    essentials ms = essentials ms' := by
  rw [essentials, essentials, Record.get?_perm distinct perm, Record.get?_perm distinct perm]

/-- Whichever part of an envelope comes first, a line is a request just if its members describe one.
    Another line of the same tag and arguments is the same request, for instance one in which the
    members are rearranged and others have been added. -/
theorem parse_iff_describes {line : Bytes} {ms : Members}
    (written : readDocument line = .ok (.object ms)) (distinct : Distinct ms) :
    (∀ r, parse line = .ok r ↔ Describes ms r) ∧
    (∀ line' ms', readDocument line' = .ok (.object ms') → Distinct ms' →
      essentials ms' = essentials ms → ∀ r, parse line' = .ok r ↔ parse line = .ok r) ∧
    (∀ line' ms' unknown, readDocument line' = .ok (.object ms') → Distinct ms' →
      (unknown ++ ms).Perm ms' → (∀ m ∈ unknown, ∀ part : Part, m.1 ≠ part.key) →
      ∀ r, parse line' = .ok r ↔ parse line = .ok r) := by
  have described {line : Bytes} {ms : Members} (written : readDocument line = .ok (.object ms))
      (distinct : Distinct ms) (r : Request) : parse line = .ok r ↔ Describes ms r := by
    rw [← toOption_eq_some, parse_toOption written distinct.envelope, toOption_eq_some,
      ofJson_eq_ok distinct.content]
  have unchanged (line' : Bytes) (ms' : Members) (written' : readDocument line' = .ok (.object ms'))
      (distinct' : Distinct ms') (same : essentials ms' = essentials ms) (r : Request) :
      parse line' = .ok r ↔ parse line = .ok r := by
    rw [described written distinct, described written' distinct']
    exact ⟨Describes.congr same, Describes.congr same.symm⟩
  refine ⟨described written distinct, unchanged, ?_⟩
  intro line' ms' unknown written' distinct' perm notPart
  have keys : ((unknown ++ ms).map Prod.fst).Nodup :=
    (perm.map Prod.fst).nodup_iff.mpr distinct'.envelope
  have same : essentials ms' = essentials ms := by
    rw [← essentials_perm keys perm, essentials_append notPart]
  exact unchanged line' ms' written' distinct' same

/-- An envelope with its content first, its name in an object, and a member that nobody knows. -/
theorem parse_iff_describes_content_first :
    let line := Text.bytesOf
      ("\x7b\"content\":\x7b\"cursor_pos\":3,\"code\":\"a\\nb\"\x7d,\"x\":[null]," ++
        "\"msg_type\":\x7b\"complete_request\":null\x7d\x7d")
    ∃ ms, readDocument line = .ok (.object ms) ∧ Distinct ms ∧
      parse line = .ok (.complete "a\nb" 3) := by
  intro line
  let arguments : Members := [("cursor_pos", .integer 3), ("code", .string "a\nb")]
  let ms : Members :=
    [("content", .object arguments), ("x", .array [.null]),
      ("msg_type", .object [("complete_request", .null)])]
  have inside (depth : Nat) : ∀ m ∈ arguments, m.2.Exact depth := by
    simp only [arguments, List.forall_mem_cons]
    exact ⟨.integer (by decide) (by decide), .string _, by simp⟩
  have exact : (Value.object ms).Exact greatestDepth := by
    refine .object ?_
    simp only [ms, List.forall_mem_cons]
    exact ⟨.object (inside _), .array (by simp), .object (by simp), by simp⟩
  have text : line = Text.encode (Value.object ms).render := by decide
  have written : readDocument line = .ok (.object ms) := by
    rw [text, readDocument_render exact]
  have distinct : Distinct ms := by
    refine ⟨by decide, fun arguments' content => ?_⟩
    cases content
    decide
  have described : Describes ms (.complete "a\nb" 3) :=
    ⟨⟨_, rfl, .inr rfl⟩, arguments, rfl, rfl, by decide, rfl⟩
  exact ⟨ms, written, distinct, ((parse_iff_describes written distinct).1 _).mpr described⟩

end Request

end NotebookKernel
