import NotebookKernel.Engine.Canned
import NotebookKernel.Kernel.Basic
import NotebookKernel.Proofs.Outcomes
import NotebookKernel.Proofs.Session.Calls

/-! # What an inspection tells

An inspection that comes to nothing tells nothing: no failure of the exchange, no answer that
cannot be read and no error document is shown.  Of a success the first message is told, and its
severity does not matter.  So when the lookup itself has failed and the engine reports that as a
message, the report is told like any other information; `inspect_silent_iff` draws the line.
-/

namespace NotebookKernel

variable {ε : Type}

/-- The text of the first message of a response. -/
def Response.headline (r : Response) : Option String :=
  r.messages.head?.bind (·.text)

namespace Session

/-- The engine's answer to the lookup of the identifier at a cursor. -/
def lookup (E : Engine ε) (s : Session ε) (e : ε) (code : String) (cursor : Nat) :
    Except EngineError Response :=
  readAnswer (E.send e (checkCommand (Cell.Span.at code.toList cursor).name s.env).document).1

theorem inspectionText_success {r : Response} (success : r.isSuccess = true) (name : String) :
    inspectionText name r = r.headline.getD ("No information available for: " ++ name) := by
  cases r with
  | error => cases success
  | success output raw env =>
    simp only [inspectionText, Response.headline]
    split
    · next told => rw [told]; rfl
    · next untold => rw [untold]; rfl

theorem inspectionText_eq_empty_iff {name : String} {r : Response} :
    inspectionText name r = "" ↔ (r.isSuccess = true → r.headline = some "") := by
  cases success : r.isSuccess with
  | false =>
    cases r with
    | error => simp [inspectionText]
    | success => cases success
  | true =>
    rw [inspectionText_success success]
    cases r.headline with
    | some text => simp
    | none => simp

theorem inspected_eq_empty_iff {name : String} {answer : Except EngineError Response}
    (trusted : answer ≠ .error .sessionClosed) :
    inspected name answer = .ok "" ↔
      ∀ r, answer = .ok r → r.isSuccess = true → r.headline = some "" := by
  cases answer with
  | ok r => simp [inspected, inspectionText_eq_empty_iff]
  | error failure =>
    cases failure with
    | sessionClosed => exact absurd rfl trusted
    | _ => simp [inspected]

end Session

namespace Kernel

/-- A kernel that finds nothing was told nothing. -/
theorem inspect_eq_notFound_iff {E : Engine ε} {k : Kernel ε} {code : String} {cursor : Nat} :
    (k.inspect E code cursor).1 = .notFound ↔
      ∀ text, (k.session.inspect E code cursor).1 = .ok text → text = "" := by
  unfold inspect
  obtain ⟨failure | text, s⟩ := k.session.inspect E code cursor
  · simp
  · by_cases empty : text = ""
    · simp [empty]
    · simp [empty, InspectReply.notFound, InspectReply.ofText]

/-- On an open session with an identifier at the cursor nothing is told unless the lookup is a
    success, and then its first message is told, be it empty.  Only an engine that calls the
    session closed is left aside. -/
theorem inspect_silent_iff (E : Engine ε) (k : Kernel ε) {e : ε}
    (slot : k.session.handle.slot = some e) (running : k.session.isClosed = false)
    (code : String) (cursor : Nat) (touches : (Cell.Span.at code.toList cursor).isEmpty = false)
    (trusted : k.session.lookup E e code cursor ≠ .error .sessionClosed) :
    let answer := k.session.lookup E e code cursor
    let told := (k.session.inspect E code cursor).1
    (told = .ok "" ↔ ∀ r, answer = .ok r → r.isSuccess = true → r.headline = some "") ∧
    ((k.inspect E code cursor).1 = .notFound ↔ told = .ok "") ∧
    ∀ r, answer = .ok r → r.isSuccess = true →
      told = .ok (r.headline.getD
        ("No information available for: " ++ (Cell.Span.at code.toList cursor).name)) := by
  intro answer told
  have asked : told = Session.inspected (Cell.Span.at code.toList cursor).name answer := by
    change (k.session.inspect E code cursor).1 = _
    rw [Session.inspect_of_slot slot running, if_neg (Bool.eq_false_iff.mp touches)]
    rfl
  refine ⟨by rw [asked, Session.inspected_eq_empty_iff trusted], ?_, fun r success isSuccess => ?_⟩
  · rw [inspect_eq_notFound_iff]
    change (∀ text, told = .ok text → text = "") ↔ _
    obtain ⟨text, tells⟩ : ∃ text, told = .ok text := by
      rw [asked]
      cases answered : answer with
      | ok r => exact ⟨_, rfl⟩
      | error failure =>
        cases failure with
        | sessionClosed => exact absurd answered trusted
        | _ => exact ⟨_, rfl⟩
    simp [tells]
  · rw [asked, success, Session.inspected, Session.inspectionText_success isSuccess]

/-- The engine does not know the identifier, and says so in a message.  The message is told. -/
theorem inspect_silent_iff_unknown :
    let report := "\x7b\"messages\":[\x7b\"severity\":\"error\",\"data\":\"unknown\"\x7d]\x7d"
    let e := Canned.fresh [("#check x", .document report)]
    let k : Kernel Canned := .new (.withEngine e)
    k.session.handle.slot = some e ∧ k.session.isClosed = false ∧
    (Cell.Span.at "x".toList 0).isEmpty = false ∧
    k.session.lookup Canned.engine e "x" 0 ≠ .error .sessionClosed ∧
    (k.session.lookup Canned.engine e "x" 0).toOption.map Response.hasErrors = some true ∧
    (k.session.inspect Canned.engine "x" 0).1 ≠ .ok "" ∧
    (k.inspect Canned.engine "x" 0).1 ≠ .notFound := by
  intro report e k
  have failed : (k.session.lookup Canned.engine e "x" 0).toOption.map
      (fun r => (r.hasErrors, r.isSuccess, r.headline)) = some (true, true, some "unknown") := by
    decide +kernel
  obtain ⟨r, answered, seen⟩ := Option.map_eq_some_iff.mp failed
  obtain ⟨reports, success, headline⟩ : r.hasErrors = true ∧ r.isSuccess = true ∧
      r.headline = some "unknown" := by simpa using seen
  have answer : k.session.lookup Canned.engine e "x" 0 = .ok r := toOption_eq_some.mp answered
  have touches : (Cell.Span.at "x".toList 0).isEmpty = false := by decide
  have trusted : k.session.lookup Canned.engine e "x" 0 ≠ .error .sessionClosed := by
    rw [answer]
    nofun
  obtain ⟨silent, found, -⟩ := inspect_silent_iff Canned.engine k rfl rfl "x" 0 touches trusted
  have told : (k.session.inspect Canned.engine "x" 0).1 ≠ .ok "" := by
    intro nothing
    have := silent.mp nothing r answer success
    rw [headline] at this
    exact absurd this (by decide)
  refine ⟨rfl, rfl, touches, trusted, ?_, told, fun nothing => told (found.mp nothing)⟩
  rw [answered]
  exact congrArg some reports

end Kernel

end NotebookKernel
