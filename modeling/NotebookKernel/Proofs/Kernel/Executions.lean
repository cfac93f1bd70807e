import NotebookKernel.Engine.Canned
import NotebookKernel.Proofs.Kernel.Calls
import NotebookKernel.Proofs.Session.Reached

/-! # The replies to executions

Every execution that is not silent has a number of its own, whatever becomes of it, and a silent
one repeats the number of the last.  `executions_after` counts them over a run;
`execution_replies` adds what a reply says, which is either a failure and its text or a success
without one.
-/

namespace NotebookKernel

open Session (readAnswer reported)

variable {ε : Type}

/-- Whether a request takes a number. -/
def Request.isNumbered : Request → Bool
  | .execute _ silent => !silent
  | _ => false

/-- How many requests take a number. -/
def Request.numbered (rs : List Request) : Nat :=
  rs.countP isNumbered

namespace Kernel

/-! ## Numbers -/

theorem executions_handle (E : Engine ε) (k : Kernel ε) (r : Request) :
    (k.handle E r).2.executions = k.executions + UInt32.ofNat (Request.numbered [r]) := by
  cases r with
  | execute code silent =>
    cases silent with
    | false => rfl
    | true => exact (UInt32.add_zero _).symm
  | complete | inspect | isComplete | kernelInfo | shutdown => exact (UInt32.add_zero _).symm

theorem executions_after (E : Engine ε) (k : Kernel ε) (rs : List Request) :
    (k.after E rs).executions = k.executions + UInt32.ofNat (Request.numbered rs) := by
  induction rs using List.reverseRecOn with
  | nil => exact (UInt32.add_zero _).symm
  | append_singleton rs r ih =>
    rw [after_concat, executions_handle, ih, UInt32.add_assoc, ← UInt32.ofNat_add]
    simp only [Request.numbered, List.countP_append]

theorem toNat_executions_after (E : Engine ε) (s : Session ε) {rs : List Request}
    (few : Request.numbered rs < UInt32.size) :
    ((Kernel.new s).after E rs).executions.toNat = Request.numbered rs := by
  have start : (Kernel.new s).executions = 0 := rfl
  rw [executions_after, start, UInt32.zero_add, UInt32.toNat_ofNat_of_lt' few]

theorem executions_unnumbered (E : Engine ε) (k : Kernel ε) {r : Request}
    (unnumbered : r.isNumbered = false) : (k.handle E r).2.executions = k.executions := by
  rw [executions_handle, Request.numbered, List.countP_singleton, if_neg (by simp [unnumbered])]
  exact UInt32.add_zero _

/-! ## Closing -/

theorem standing_handle {E : Engine ε} {k : Kernel ε} (standing : k.session.Standing)
    (r : Request) : (k.handle E r).2.session.Standing := by
  rw [session_handle]
  cases r.call? with
  | none => exact standing
  | some c => exact standing.call c

theorem isClosed_handle {E : Engine ε} {k : Kernel ε} (standing : k.session.Standing)
    (r : Request) :
    (k.handle E r).2.session.isClosed = true ↔ k.session.isClosed = true ∨ r.isShutdown = true := by
  rw [session_handle, ← Request.call?_eq_shutdown]
  cases r.call? with
  | none => simp [Session.after]
  | some c =>
    rw [Option.some_inj]
    exact standing.isClosed_call c

theorem after_standing {E : Engine ε} {k : Kernel ε} (standing : k.session.Standing)
    (rs : List Request) : (k.after E rs).session.Standing := by
  induction rs using List.reverseRecOn with
  | nil => exact standing
  | append_singleton rs r ih =>
    rw [after_concat]
    exact standing_handle ih r

theorem isClosed_after {E : Engine ε} {k : Kernel ε} (standing : k.session.Standing)
    (rs : List Request) :
    (k.after E rs).session.isClosed = true ↔
      k.session.isClosed = true ∨ ∃ r ∈ rs, r.isShutdown = true := by
  induction rs using List.reverseRecOn with
  | nil => simp [after, handleAll]
  | append_singleton rs r ih =>
    rw [after_concat, isClosed_handle (after_standing standing rs), ih]
    simp [or_and_right, exists_or, or_assoc]

/-! ## Replies -/

/-- What the kernel takes for the response: a failure of the session is one like any other. -/
def responseOf : Except EngineError Response → Response
  | .ok r => r
  | .error e => .failed e.message

theorem execute_fst (E : Engine ε) (k : Kernel ε) (code : String) (count : UInt32) (silent : Bool) :
    (k.execute E code count silent).1 =
      executeReply count silent (responseOf (k.session.execute E code).1) := by
  simp only [execute]
  cases (k.session.execute E code).1 <;> rfl

/-- The reply bears the number that the counter shows behind the request. -/
theorem handle_execute (E : Engine ε) (k : Kernel ε) (code : String) (silent : Bool) :
    (k.handle E (.execute code silent)).1 =
      .execute (executeReply (k.handle E (.execute code silent)).2.executions silent
        (responseOf (k.session.execute E code).1)) := by
  have same : (k.countExecution silent).session = k.session := by cases silent <;> rfl
  simp only [handle, execute_fst, same]
  rfl

theorem execute_of_closed {E : Engine ε} {k : Kernel ε} (standing : k.session.Standing)
    (closed : k.session.isClosed = true) (code : String) :
    (k.session.execute E code).1 = .error .sessionClosed := by
  obtain ⟨retired, handle⟩ := standing.of_closed closed
  rw [Session.execute, Session.executeIn_of_empty (by rw [handle])]

theorem execute_of_slot {E : Engine ε} {k : Kernel ε} {e : ε}
    (slot : k.session.handle.slot = some e) (code : String) :
    (k.session.execute E code).1 =
      reported (readAnswer (E.send e (Command.document ⟨code, k.session.env⟩)).1) := by
  rw [Session.execute, Session.executeIn_of_slot slot]
  rfl

section ExecuteReply

variable (count : UInt32) (silent : Bool)

theorem executeReply_of_error (message : String) (raw : Json.Value) :
    executeReply count silent (.error message raw) =
      { status := .error, count, data := none
        error := some { name := errorName, value := message, traceback := [message] } } := rfl

/-- A success makes a reply without an error, whether or not there is something to publish. -/
theorem executeReply_of_success (output : String) (raw : Json.Value) (env : Option Nat) :
    ∃ data, executeReply count silent (.success output raw env) =
      { status := .ok, count, data, error := none } := by
  simp only [executeReply]
  split <;> exact ⟨_, rfl⟩

theorem count_executeReply (r : Response) : (executeReply count silent r).count = count := by
  cases r with
  | error message raw => rfl
  | success output raw env =>
    obtain ⟨data, reply⟩ := executeReply_of_success count silent output raw env
    rw [reply]

theorem status_executeReply (r : Response) :
    (executeReply count silent r).status = .error ↔ ∃ message raw, r = .error message raw := by
  cases r with
  | error message raw => exact ⟨fun _ => ⟨message, raw, rfl⟩, fun _ => rfl⟩
  | success output raw env =>
    obtain ⟨data, reply⟩ := executeReply_of_success count silent output raw env
    rw [reply]
    exact ⟨nofun, nofun⟩

theorem error_executeReply {r : Response} (ok : (executeReply count silent r).status = .ok) :
    (executeReply count silent r).error = none := by
  cases r with
  | error message raw => cases ok
  | success output raw env =>
    obtain ⟨data, reply⟩ := executeReply_of_success count silent output raw env
    rw [reply]

end ExecuteReply

theorem getElem?_replies (E : Engine ε) (k : Kernel ε) (earlier later : List Request)
    (r : Request) :
    (k.replies E (earlier ++ r :: later))[earlier.length]? =
      some ((k.after E earlier).handle E r).1 := by
  rw [replies_append, List.getElem?_append_right (by simp), length_replies, Nat.sub_self]
  rfl

/-- The replies to executions in any run of a kernel, wherever the run is closed.  The number counts
    the executions so far, and nothing else moves the counter.  From the first shutdown on the
    session is closed and refuses to run code; before, the engine is asked.  The reply is an error
    for a closed session and for a response that is one; then it has the text of the response and
    publishes nothing. -/
theorem execution_replies (E : Engine ε) {s : Session ε} (reached : s.Reached E)
    (earlier later : List Request) (code : String) (silent : Bool)
    (few : Request.numbered (earlier ++ [.execute code silent]) < UInt32.size) :
    let k := (Kernel.new s).after E earlier
    let result := (k.session.execute E code).1
    ∃ r : ExecuteReply,
      ((Kernel.new s).replies E (earlier ++ .execute code silent :: later))[earlier.length]? =
        some (.execute r) ∧
      r.count.toNat = Request.numbered (earlier ++ [.execute code silent]) ∧
      (∀ q : Request, q.isNumbered = false → (k.handle E q).2.executions = k.executions) ∧
      (k.session.isClosed = true ↔ s.isClosed = true ∨ ∃ q ∈ earlier, q.isShutdown = true) ∧
      (k.session.isClosed = true →
        result = .error .sessionClosed ∧ responseOf result = .failed "Session closed") ∧
      (∀ e, k.session.handle.slot = some e → result =
        reported (readAnswer (E.send e (Command.document ⟨code, k.session.env⟩)).1)) ∧
      (r.status = .error ↔
        k.session.isClosed = true ∨ ∃ message raw, responseOf result = .error message raw) ∧
      (∀ message raw, responseOf result = .error message raw → r.data = none ∧
        r.error = some { name := errorName, value := message, traceback := [message] }) ∧
      (r.status = .ok → r.error = none) := by
  intro k result
  have standing : k.session.Standing := after_standing reached.standing earlier
  have number : (k.handle E (.execute code silent)).2.executions =
      ((Kernel.new s).after E (earlier ++ [.execute code silent])).executions := by
    rw [after_concat]
  have refuses (closed : k.session.isClosed = true) :
      result = .error .sessionClosed ∧ responseOf result = .failed "Session closed" := by
    have refused : result = .error .sessionClosed := execute_of_closed standing closed code
    rw [refused]
    exact ⟨rfl, rfl⟩
  refine ⟨executeReply (k.handle E (.execute code silent)).2.executions silent (responseOf result),
    ?_, ?_, fun q => executions_unnumbered E k, isClosed_after reached.standing earlier, refuses,
    fun e slot => execute_of_slot slot code, ?_, ?_, error_executeReply _ _⟩
  · rw [getElem?_replies, handle_execute]
  · rw [count_executeReply, number, toNat_executions_after E s few]
  · rw [status_executeReply, or_iff_right_of_imp]
    exact fun closed => ⟨_, _, (refuses closed).2⟩
  · intro message raw fails
    rw [fails, executeReply_of_error]
    exact ⟨rfl, rfl⟩

/-- The first execution fails and the second is silent; the third comes too late and is still the
    second with a number. -/
theorem execution_replies_late :
    let s := Session.withEngine (Canned.fresh [("f", .failure "broken")])
    let earlier := [Request.execute "f" false, .execute "a" true, .shutdown false]
    s.Reached Canned.engine ∧ Request.numbered (earlier ++ [.execute "b" false]) < UInt32.size ∧
    ∃ r : ExecuteReply,
      ((Kernel.new s).replies Canned.engine (earlier ++ [.execute "b" false]))[3]? =
        some (.execute r) ∧
      r.count.toNat = 2 ∧ r.status = .error ∧
      r.error = some ⟨"LeanError", "Session closed", ["Session closed"]⟩ := by
  intro s earlier
  have reached : s.Reached Canned.engine := .running _
  have few : Request.numbered (earlier ++ [.execute "b" false]) < UInt32.size := by decide
  obtain ⟨r, replied, count, -, closes, refuses, -, status, error, -⟩ :=
    execution_replies Canned.engine reached earlier [] "b" false few
  have closed := closes.mpr (.inr ⟨.shutdown false, by simp [earlier], rfl⟩)
  exact ⟨reached, few, r, replied, count, status.mpr (.inl closed),
    (error _ _ (refuses closed).2).2⟩

end Kernel

end NotebookKernel
