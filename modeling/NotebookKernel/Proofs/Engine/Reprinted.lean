import NotebookKernel.Proofs.Engine.Views
import NotebookKernel.Proofs.Json.Reprinting

/-! # Responses printed again

A response keeps its document in canonical form.  Unless that holds a double, its text is decoded
to the same response, whatever the document it came from looked like (`decode_compact_raw`).
-/

namespace NotebookKernel.Response

open NotebookKernel.Json
open NotebookKernel.Text (bytesOf)

/-! ## The document of a response -/

theorem raw_of_ofMembers {ms : Members} {r : Response} (made : ofMembers ms = .ok r) :
    r.raw = .object ms := by
  unfold ofMembers at made
  split at made
  · cases made
    rfl
  · obtain ⟨_, _, rfl⟩ := map_eq_ok.mp made
    rfl

/-! ## Decoding it again -/

/-- What a document says besides its layout survives printing.  `written` is its value before any
    of its members are dropped or put in order, so the premise is about all of its numbers: by
    `scalar_eq_integer_iff` they are not doubles just if they are written as integers from
    `-2 ^ 63` to `2 ^ 64 - 1`, and not as `-0`.  The second response is the first one, with the
    same output or message, environment, document and views. -/
theorem decode_compact_raw {document : String} {written : Value} {r : Response}
    (read : readDocument (bytesOf document) = .ok written) (whole : written.Whole)
    (decoded : decode document = .ok r) :
    r.raw = written.canonical ∧ decode r.raw.compact = .ok r := by
  obtain ⟨ms, parsed, made⟩ := decode_eq_ok.mp decoded
  have canonical : written.canonical = .object ms := by
    rw [Json.parse, read] at parsed
    exact Except.ok.inj parsed
  have raw : r.raw = written.canonical := (raw_of_ofMembers made).trans canonical.symm
  refine ⟨raw, decode_eq_ok.mpr ⟨ms, ?_, made⟩⟩
  rw [raw, parse_compact_canonical read whole, canonical]

theorem decode_compact_raw_nested :
    let document :=
      "\x7b\"error\":0,\"env\":18446744073709551615," ++
        "\"error\":\x7b\"z\":-7,\"a\":\"\\n\"\x7d\x7d"
    let raw := "\x7b\"env\":18446744073709551615,\"error\":\x7b\"a\":\"\\n\",\"z\":-7\x7d\x7d"
    ∃ r, decode document = .ok r ∧ r.raw.compact = raw ∧ decode raw = .ok r := by
  intro document raw
  let cause : Members := [("z", .integer (-7)), ("a", .string "\n")]
  let ms : Members :=
    [("error", .integer 0), ("env", .integer 18446744073709551615), ("error", .object cause)]
  have exact : (Value.object ms).Exact greatestDepth := by simp [ms, cause, greatestDepth]
  have whole : (Value.object ms).Whole := by
    refine .object ?_
    simp only [ms, List.forall_mem_cons]
    refine ⟨.integer _, .integer _, .object ?_, by simp⟩
    simp only [cause, List.forall_mem_cons]
    exact ⟨.integer _, .string _, by simp⟩
  have text : bytesOf document = Text.encode (Value.object ms).render := by decide
  have read : readDocument (bytesOf document) = .ok (.object ms) := by
    rw [text, readDocument_render exact]
  have parsed : Json.parse (bytesOf document) = .ok (Value.object ms).canonical := by
    rw [Json.parse, read]
    rfl
  have decoded := decode_of_error parsed (e := (Value.object cause).canonical) rfl
  have printed : (Value.object ms).canonical.compact = raw := by decide
  obtain ⟨same, again⟩ := decode_compact_raw read whole decoded
  exact ⟨_, decoded, printed, printed ▸ same ▸ again⟩

end NotebookKernel.Response
