import NotebookKernel.Engine.Canned
import NotebookKernel.Proofs.Service.Release

/-! # Requests that leave no trace

Completion, the completeness of a cell and the description of the kernel are answered without
the engine, and code that is run silently hides what it publishes but not what it does.  So two
sequences of requests that differ in nothing else are one for the session and for its engine:
`lexical_requests_leave_no_trace` compares their whole runs.

The comparison goes through `Request.core`, which keeps what the session sees of a sequence.  A
kernel that is given the core alone keeps step with one that is given the whole sequence.
-/

namespace NotebookKernel

variable {ε δ : Type}

/-! ## What the session sees -/

namespace Request

/-- Whether a request is answered from its own text and the vocabulary. -/
def isLexical : Request → Bool
  | .complete .. | .isComplete _ | .kernelInfo => true
  | .execute .. | .inspect .. | .shutdown _ => false

/-- What the session sees of a request: nothing of a lexical one, and not whether code is run
    silently. -/
def core? : Request → Option Request
  | .execute code _ => some (.execute code false)
  | r => if r.isLexical then none else some r

/-- What the session sees of a sequence of requests. -/
def core (rs : List Request) : List Request :=
  rs.filterMap core?

theorem core?_eq_none {r : Request} : r.core? = none ↔ r.isLexical = true := by
  cases r <;> simp [core?, isLexical]

end Request

/-- A reply without the number of an execution and without what the execution publishes. -/
def Reply.bare : Reply → Reply
  | .execute r => .execute { r with count := 0, data := none }
  | b => b

/-! ## The vocabulary is never replaced -/

namespace Session

theorem vocabulary_send (E : Engine ε) (s : Session ε) (c : Command) :
    (s.send E c).2.vocabulary = s.vocabulary := by
  unfold send
  split <;> rfl

theorem vocabulary_executeIn (E : Engine ε) (s : Session ε) (code : String) (env : Option Nat) :
    (s.executeIn E code env).2.vocabulary = s.vocabulary := by
  have kept := vocabulary_send E s ⟨code, env <|> s.env⟩
  rw [← kept, executeIn]
  obtain ⟨failure | r, s'⟩ := s.send E ⟨code, env <|> s.env⟩
  · cases failure <;> rfl
  · rfl

theorem vocabulary_inspect (E : Engine ε) (s : Session ε) (code : String) (cursor : Nat) :
    (s.inspect E code cursor).2.vocabulary = s.vocabulary := by
  unfold inspect
  split
  · rfl
  · dsimp only
    split
    · rfl
    · have kept := vocabulary_send E s (checkCommand (Cell.Span.at code.toList cursor).name s.env)
      rw [← kept]
      obtain ⟨failure | r, s'⟩ := s.send E _
      · cases failure <;> rfl
      · rfl

theorem vocabulary_call (E : Engine ε) (s : Session ε) (c : Call) :
    (s.call E c).2.vocabulary = s.vocabulary := by
  cases c with
  | execute code => exact vocabulary_executeIn E s code none
  | executeIn code env => exact vocabulary_executeIn E s code env
  | inspect code cursor => exact vocabulary_inspect E s code cursor
  | complete | completeness | shutdown => rfl

end Session

namespace Kernel

theorem vocabulary_after (E : Engine ε) (k : Kernel ε) (rs : List Request) :
    (k.after E rs).session.vocabulary = k.session.vocabulary := by
  induction rs using List.reverseRecOn with
  | nil => rfl
  | append_singleton rs r ih =>
    rw [after_concat, session_handle, ← ih]
    cases r.call? with
    | none => rfl
    | some c => exact Session.vocabulary_call E _ c

/-- The words that are offered are all that a kernel contributes to a lexical reply. -/
theorem handle_lexical {E : Engine ε} {D : Engine δ} {k : Kernel ε} {l : Kernel δ} {r : Request}
    (lexical : r.isLexical = true) (words : k.session.vocabulary = l.session.vocabulary) :
    (k.handle E r).1 = (l.handle D r).1 := by
  cases r with
  | complete code cursor => simp only [handle, complete, Session.complete, words]
  | isComplete | kernelInfo => rfl
  | execute | inspect | shutdown => cases lexical

/-! ## Keeping step with the core -/

section Core

variable {E : Engine ε} {k l : Kernel ε} {r q : Request}

theorem session_handle_lexical (lexical : r.isLexical = true) :
    (k.handle E r).2.session = k.session := by
  cases r with
  | complete | isComplete | kernelInfo => rfl
  | execute | inspect | shutdown => cases lexical

theorem bare_executeReply (count : UInt32) (silent : Bool) (r : Response) :
    (Reply.execute (executeReply count silent r)).bare =
      (Reply.execute (executeReply 0 false r)).bare := by
  cases r with
  | error message raw => rfl
  | success output raw env =>
    simp only [executeReply]
    split <;> split <;> rfl

/-- Numbers and silence apart, what the core of a request comes to is what the request itself
    comes to. -/
theorem handle_core (same : k.session = l.session) (seen : r.core? = some q) :
    (k.handle E r).2.session = (l.handle E q).2.session ∧
      (k.handle E r).1.bare = (l.handle E q).1.bare := by
  cases r with
  | execute code silent =>
    cases seen
    have session (k : Kernel ε) : (k.countExecution silent).session = k.session := by
      cases silent <;> rfl
    refine ⟨?_, ?_⟩
    · rw [session_handle, session_handle, same]
      rfl
    · simp only [handle, execute, session, same]
      exact (bare_executeReply _ _ _).trans (bare_executeReply _ _ _).symm
  | inspect code cursor detail =>
    cases seen
    simp only [handle, inspect, same, and_self]
  | shutdown restart =>
    cases seen
    simp only [handle, shutdown, same, and_self]
  | complete | isComplete | kernelInfo => cases seen

end Core

/-- The exchanges of a run that are not lexical, each as far as the session has a part in it. -/
def coreExchanges (E : Engine ε) (k : Kernel ε) (rs : List Request) : List (Request × Reply) :=
  (rs.zip (k.replies E rs)).filterMap fun (r, b) => r.core?.map (·, b.bare)

theorem coreExchanges_cons (E : Engine ε) (k : Kernel ε) (r : Request) (rs : List Request) :
    k.coreExchanges E (r :: rs) =
      (r.core?.map (·, (k.handle E r).1.bare)).toList ++
        (k.handle E r).2.coreExchanges E rs := by
  unfold coreExchanges
  change List.filterMap _ ((r, (k.handle E r).1) :: rs.zip ((k.handle E r).2.replies E rs)) = _
  rw [List.filterMap_cons]
  dsimp only
  cases r.core? <;> rfl

theorem after_core (E : Engine ε) {k l : Kernel ε} (same : k.session = l.session)
    (rs : List Request) :
    (k.after E rs).session = (l.after E (Request.core rs)).session ∧
      k.coreExchanges E rs = l.coreExchanges E (Request.core rs) := by
  induction rs generalizing k l with
  | nil => exact ⟨same, rfl⟩
  | cons r rs ih =>
    rw [coreExchanges_cons]
    cases seen : r.core? with
    | none =>
      -- The kernel that has only the core is not asked.
      have quiet := session_handle_lexical (E := E) (k := k) (Request.core?_eq_none.mp seen)
      have skipped : Request.core (r :: rs) = Request.core rs := List.filterMap_cons_none seen
      rw [skipped]
      exact ih (quiet.trans same)
    | some q =>
      obtain ⟨session, reply⟩ := handle_core (E := E) same seen
      have asked : Request.core (r :: rs) = q :: Request.core rs := List.filterMap_cons_some seen
      obtain ⟨behind, exchanges⟩ := ih session
      rw [asked, coreExchanges_cons, exchanges, reply]
      refine ⟨behind, ?_⟩
      have again : q.core? = some q := by
        cases r <;> cases seen <;> rfl
      rw [again]

theorem map_handleAll {E : Engine ε} {D : Engine δ} {f : ε → δ} (sim : E.Simulates D f)
    (k : Kernel ε) (rs : List Request) :
    (k.map f).handleAll D rs = ((k.handleAll E rs).1, (k.handleAll E rs).2.map f) := by
  induction rs generalizing k with
  | nil => rfl
  | cons r rs ih => simp only [handleAll, map_handle sim, ih]

/-! ## Two sequences with one core -/

/-- Lexical requests may come and go, and code may be run silently or not: the engine is asked the
    same and released at the same place, the session is left the same, its environment included, and
    the common requests have the same replies, but for numbers and published output.  A lexical
    reply is the same on any kernel with the same words, whatever has happened, and an engine
    without a tape behaves no differently. -/
theorem lexical_requests_leave_no_trace (E : Engine ε) (k : Kernel (Taped ε))
    (rs ss : List Request) (alike : Request.core rs = Request.core ss) :
    (k.after E.taped rs).tape = (k.after E.taped ss).tape ∧
    (k.after E.taped rs).session = (k.after E.taped ss).session ∧
    k.coreExchanges E.taped rs = k.coreExchanges E.taped ss ∧
    (∀ r : Request, r.isLexical = true → ∀ {δ : Type} (D : Engine δ) (l : Kernel δ)
      (ts : List Request), l.session.vocabulary = k.session.vocabulary →
        ((l.after D ts).handle D r).1 = ((k.after E.taped rs).handle E.taped r).1) ∧
    (∀ ts, (k.map Taped.engine).handleAll E ts =
      ((k.handleAll E.taped ts).1, (k.handleAll E.taped ts).2.map Taped.engine)) := by
  obtain ⟨session, exchanges⟩ := after_core E.taped (k := k) rfl rs
  obtain ⟨session', exchanges'⟩ := after_core E.taped (k := k) rfl ss
  have behind : (k.after E.taped rs).session = (k.after E.taped ss).session := by
    rw [session, session', alike]
  refine ⟨congrArg Session.tape behind, behind, by rw [exchanges, exchanges', alike], ?_,
    map_handleAll E.taped_simulates k⟩
  intro r lexical δ D l ts words
  apply handle_lexical lexical
  rw [vocabulary_after, vocabulary_after, words]

/-- Code that fails, an inspection and an end, with and without company.  Words are offered before
    and behind the end. -/
theorem lexical_requests_leave_no_trace_canned :
    let k : Kernel (Taped Canned) :=
      .new (.withEngine ⟨Canned.fresh [("f", .failure "broken"), ("#check x", .document "oops")], []⟩)
    let rs := [Request.execute "a" false, .complete "de" 2, .execute "f" false, .inspect "x" 0 0,
      .shutdown true, .isComplete "(", .execute "b" true]
    let ss := [Request.kernelInfo, .execute "a" true, .execute "f" true, .inspect "x" 0 0,
      .shutdown true, .execute "b" false]
    Request.core rs = Request.core ss ∧
    (k.after Canned.engine.taped rs).tape = (k.after Canned.engine.taped ss).tape ∧
    (k.after Canned.engine.taped ss).tape.length = 4 ∧
    k.coreExchanges Canned.engine.taped rs = k.coreExchanges Canned.engine.taped ss ∧
    (k.handle Canned.engine.taped (.complete "de" 2)).1 =
      ((k.after Canned.engine.taped rs).handle Canned.engine.taped (.complete "de" 2)).1 := by
  intro k rs ss
  have alike : Request.core rs = Request.core ss := by decide
  have compared := lexical_requests_leave_no_trace Canned.engine k rs ss alike
  exact ⟨alike, compared.1, by decide +kernel, compared.2.2.1,
    compared.2.2.2.1 _ rfl Canned.engine.taped k [] rfl⟩

end Kernel

end NotebookKernel
