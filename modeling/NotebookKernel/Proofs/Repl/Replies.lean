import NotebookKernel.Proofs.Repl.Documents
import NotebookKernel.Repl.Worker

/-! # Replies of a worker

A worker answers with the documents of its process, the first request with the first document
and so on.  What the process writes is one stream, whatever the requests are; `Child.recorded`
keeps it beside the process.

The invariant has two halves.  `InStep` holds until a request fails: the documents of the
stream are those that have been given out, and then those of what is unread.  `Retired` holds
from then on, and the worker leaves its process alone.
-/

namespace NotebookKernel

open NotebookKernel.Text (Bytes)
open NotebookKernel.Framing (GoesOn documentsOf obstacleOf)

variable {κ : Type}

/-! ## What a process has written -/

/-- A process with what it has written since it was started. -/
structure Recorded (κ : Type) where
  child : κ
  written : Bytes

def Recorded.feed (C : Child κ) (r : Recorded κ) (input : Bytes) :
    Except String Bytes × Recorded κ :=
  match C.feed r.child input with
  | (.error reason, child) => (.error reason, { r with child })
  | (.ok output, child) => (.ok output, { child, written := r.written ++ output })

theorem Recorded.feed_eq (C : Child κ) (r : Recorded κ) (input : Bytes) :
    (r.feed C input).1 = (C.feed r.child input).1 ∧
      (r.feed C input).2.child = (C.feed r.child input).2 := by
  unfold Recorded.feed
  cases fed : C.feed r.child input with
  | mk outcome child => cases outcome <;> simp

/-- The same process with a record of its output. -/
def Child.recorded (C : Child κ) : Child (Recorded κ) where
  feed := Recorded.feed C
  delay r := C.delay r.child
  ended r := C.ended r.child
  kill r := { r with child := C.kill r.child }
  feed_of_ended r input ended := by
    rw [(r.feed_eq C input).1, (r.feed_eq C input).2]
    exact C.feed_of_ended r.child input ended

/-- What a process writes makes its stream go on. -/
theorem Child.goesOn_feed (C : Child κ) {c child : κ} {input output : Bytes}
    (fed : C.feed c input = (.ok output, child)) : GoesOn (C.ended c) output (C.ended child) := by
  intro ended
  have stays := C.feed_of_ended c input ended
  rw [fed] at stays
  exact ⟨stays.2 output rfl, stays.1⟩

theorem Child.goesOn_feed_error (C : Child κ) {c child : κ} {input : Bytes} {reason : String}
    (fed : C.feed c input = (.error reason, child)) : GoesOn (C.ended c) [] (C.ended child) := by
  intro ended
  have stays := C.feed_of_ended c input ended
  rw [fed] at stays
  exact ⟨rfl, stays.1⟩

namespace Worker

/-! ## Many requests -/

/-- Answer requests one after the other. -/
def sendAll (C : Child κ) (w : Worker κ) :
    List String → List (Except EngineError String) × Worker κ
  | [] => ([], w)
  | request :: rest =>
    let (answer, w) := w.send C request
    let (answers, w) := w.sendAll C rest
    (answer :: answers, w)

/-- The same worker with a record of what its process has written. -/
def unrecorded (w : Worker (Recorded κ)) : Worker κ :=
  { child := w.child.child, unread := w.unread, alive := w.alive, handled := w.handled }

theorem send_unrecorded (C : Child κ) (w : Worker (Recorded κ)) (request : String) :
    w.unrecorded.send C request =
      ((w.send C.recorded request).1, (w.send C.recorded request).2.unrecorded) := by
  cases alive : w.alive with
  | false => simp [send, unrecorded, alive]
  | true =>
    simp only [send, unrecorded, alive, if_true, exchange, Child.recorded, Recorded.feed]
    cases fed : C.feed w.child.child (Framing.write request) with
    | mk outcome child =>
      cases outcome with
      | error reason => rfl
      | ok output =>
        dsimp only
        cases Framing.read (C.ended child) (w.unread ++ output) <;> rfl

/-- Keeping a record makes no difference. -/
theorem sendAll_unrecorded (C : Child κ) (w : Worker (Recorded κ)) (requests : List String) :
    w.unrecorded.sendAll C requests =
      ((w.sendAll C.recorded requests).1, (w.sendAll C.recorded requests).2.unrecorded) := by
  induction requests generalizing w with
  | nil => rfl
  | cons request rest ih => simp only [sendAll, send_unrecorded, ih]

/-! ## The invariant -/

/-- Nothing has failed.  The documents of the stream are those that have been `answered`, and
    then those of what is unread, however the stream goes on. -/
structure InStep (C : Child κ) (w : Worker (Recorded κ)) (answered : List String) : Prop where
  alive : w.alive = true
  handled : w.handled = answered.length
  documents (more : Bytes) (later : Bool) : GoesOn (C.ended w.child.child) more later →
    documentsOf later (w.child.written ++ more) = answered ++ documentsOf later (w.unread ++ more)
  obstacle (more : Bytes) (later : Bool) : GoesOn (C.ended w.child.child) more later →
    obstacleOf later (w.child.written ++ more) = obstacleOf later (w.unread ++ more)

/-- A request has failed. -/
structure Retired (C : Child κ) (w : Worker (Recorded κ)) (answered : List String) : Prop where
  alive : w.alive = false
  handled : w.handled = answered.length
  documents (more : Bytes) (later : Bool) : GoesOn (C.ended w.child.child) more later →
    answered <+: documentsOf later (w.child.written ++ more)

theorem inStep_new (C : Child κ) (c : κ) : (Worker.new (Recorded.mk c [])).InStep C [] where
  alive := rfl
  handled := rfl
  documents _ _ _ := rfl
  obstacle _ _ _ := rfl

variable {C : Child κ} {w : Worker (Recorded κ)} {answered : List String}

/-- The next request of a worker that is in step. -/
theorem InStep.send (h : w.InStep C answered) (request : String) :
    match w.send C.recorded request with
    | (.ok document, next) => next.InStep C (answered ++ [document])
    | (.error _, next) => next.Retired C answered := by
  simp only [Worker.send, h.alive, if_true, exchange, Child.recorded, Recorded.feed]
  cases fed : C.feed w.child.child (Framing.write request) with
  | mk outcome child =>
    cases outcome with
    | error reason =>
      -- The stream is what it was, but the process may have ended.
      refine ⟨rfl, h.handled, fun more later goesOn => ?_⟩
      exact ⟨_, (h.documents more later ((C.goesOn_feed_error fed).trans goesOn)).symm⟩
    | ok output =>
      -- The invariant is used for the stream before the output, which goes on with the output and
      -- then with `more`; the read is about the unread bytes with the output.
      have wrote := C.goesOn_feed fed
      have spec := Framing.read_spec (C.ended child) (w.unread ++ output)
      dsimp only
      cases read : Framing.read (C.ended child) (w.unread ++ output) with
      | error e =>
        refine ⟨rfl, h.handled, fun more later goesOn => ?_⟩
        dsimp only at goesOn ⊢
        rw [List.append_assoc]
        exact ⟨_, (h.documents (output ++ more) later (wrote.trans goesOn)).symm⟩
      | ok result =>
        rw [read] at spec
        constructor
        case alive => rfl
        case handled => simp [h.handled]
        case documents =>
          intro more later goesOn
          have split := (spec more later goesOn).1
          dsimp only at goesOn ⊢
          rw [List.append_assoc] at split ⊢
          rw [h.documents (output ++ more) later (wrote.trans goesOn), split]
          simp
        case obstacle =>
          intro more later goesOn
          have split := (spec more later goesOn).2
          dsimp only at goesOn ⊢
          rw [List.append_assoc] at split ⊢
          rw [h.obstacle (output ++ more) later (wrote.trans goesOn), split]

theorem Retired.send_eq (h : w.Retired C answered) (request : String) :
    w.send C.recorded request = (.error .processDied, w) := by
  simp [Worker.send, h.alive]

/-- What a worker that is in step reads: the next document of the stream, or what stands in its
    place. -/
theorem InStep.read_spec (h : w.InStep C answered) {output : Bytes} {later : Bool}
    (goesOn : GoesOn (C.ended w.child.child) output later) :
    match Framing.read later (w.unread ++ output) with
    | .error e =>
      (documentsOf later (w.child.written ++ output))[answered.length]? = none ∧
        e = obstacleOf later (w.child.written ++ output)
    | .ok (document, _) =>
      (documentsOf later (w.child.written ++ output))[answered.length]? = some document := by
  have spec := Framing.read_spec later (w.unread ++ output)
  rw [h.documents output later goesOn, h.obstacle output later goesOn,
    List.getElem?_append_right (Nat.le_refl _), Nat.sub_self]
  cases read : Framing.read later (w.unread ++ output) with
  | error e =>
    rw [read] at spec
    simp [spec.1, spec.2]
  | ok result =>
    rw [read] at spec
    have split := (spec [] later (.refl later)).1
    simp only [List.append_nil] at split
    simp [split]

theorem InStep.send_eq (h : w.InStep C answered) (request : String) :
    (w.send C.recorded request).1 =
      match C.feed w.child.child (Framing.write request) with
      | (.error reason, _) => .error (.io reason)
      | (.ok output, child) =>
        match (documentsOf (C.ended child) (w.child.written ++ output))[answered.length]? with
        | some document => .ok document
        | none => .error (obstacleOf (C.ended child) (w.child.written ++ output)) := by
  simp only [Worker.send, h.alive, if_true, exchange, Child.recorded, Recorded.feed]
  cases fed : C.feed w.child.child (Framing.write request) with
  | mk outcome child =>
    cases outcome with
    | error reason => rfl
    | ok output =>
      have spec := h.read_spec (C.goesOn_feed fed)
      dsimp only
      cases read : Framing.read (C.ended child) (w.unread ++ output) with
      | error e =>
        rw [read] at spec
        simp [spec.1, spec.2]
      | ok result =>
        rw [read] at spec
        simp [spec]

theorem delay_eq_none_iff (C : Child κ) (w : Worker κ) {request : String} {output : Bytes}
    {child : κ} (fed : C.feed w.child (Framing.write request) = (.ok output, child)) :
    w.delay C request = none ↔
      C.ended child = false ∧
        ∃ e, Framing.read (C.ended child) (w.unread ++ output) = .error e ∧ e = .processDied := by
  simp only [delay, fed]
  cases read : Framing.read (C.ended child) (w.unread ++ output) with
  | error e => cases e <;> simp
  | ok result => simp

/-- An answer never comes if the process waits for more although it has written neither the next
    document nor a line that is not UTF-8. -/
theorem InStep.delay_eq_none_iff (h : w.InStep C answered) {request : String} {output : Bytes}
    {child : κ} (fed : C.feed w.child.child (Framing.write request) = (.ok output, child)) :
    w.delay C.recorded request = none ↔
      C.ended child = false ∧
        (documentsOf (C.ended child) (w.child.written ++ output))[answered.length]? = none ∧
        obstacleOf (C.ended child) (w.child.written ++ output) = .processDied := by
  have recorded : C.recorded.feed w.child (Framing.write request) =
      (.ok output, { child, written := w.child.written ++ output }) := by
    simp only [Child.recorded, Recorded.feed, fed]
  have spec := h.read_spec (C.goesOn_feed fed)
  rw [Worker.delay_eq_none_iff C.recorded w recorded, Child.recorded]
  cases read : Framing.read (C.ended child) (w.unread ++ output) with
  | error e =>
    rw [read] at spec
    simp [spec.1, spec.2]
  | ok result =>
    rw [read] at spec
    simp [spec]

/-! ## Runs -/

/-- The documents among the answers. -/
def answersOf (results : List (Except EngineError String)) : List String :=
  results.filterMap Except.toOption

theorem Retired.sendAll_eq (h : w.Retired C answered) (requests : List String) :
    w.sendAll C.recorded requests = (requests.map fun _ => .error .processDied, w) := by
  induction requests with
  | nil => rfl
  | cons request rest ih => simp only [Worker.sendAll, h.send_eq, ih, List.map_cons]

/-- A worker stays in step as long as every request is answered, and the first that is not retires
    it. -/
theorem InStep.sendAll (h : w.InStep C answered) (requests : List String) :
    let run := w.sendAll C.recorded requests
    (run.1.all Except.isOk = true → run.2.InStep C (answered ++ answersOf run.1)) ∧
    (run.1.all Except.isOk = false → run.2.Retired C (answered ++ answersOf run.1)) := by
  induction requests generalizing w answered with
  | nil => exact ⟨fun _ => by simpa [Worker.sendAll, answersOf] using h, nofun⟩
  | cons request rest ih =>
    have step := h.send request
    simp only [Worker.sendAll]
    cases sent : w.send C.recorded request with
    | mk answer next =>
      rw [sent] at step
      cases answer with
      | ok document =>
        have run := ih step
        simpa [answersOf, Except.isOk, Except.toBool, Except.toOption] using run
      | error e =>
        have unanswered : answersOf (.error e :: rest.map fun _ => .error .processDied) = [] := by
          simp [answersOf, Except.toOption]
        dsimp only at step ⊢
        rw [step.sendAll_eq rest, unanswered, List.append_nil]
        exact ⟨nofun, fun _ => step⟩

/-- A worker gives out the documents of what its process writes, in order and each one whole,
    whatever the process does and whichever requests it gets.  What has been answered are the first
    documents of the stream, however it goes on.  After a failure the next request fails, and
    nothing is written or read; otherwise it gets the next document, unless it cannot be written or
    a line that is not UTF-8, or the end, comes before the end of that document.  Without an end of
    the process the end of the stream is not seen: the answer never comes.  The record makes no
    difference. -/
theorem replies_are_documents (C : Child κ) (c : κ) (requests : List String) (request : String) :
    let run := (Worker.new (Recorded.mk c [])).sendAll C.recorded requests
    let process := run.2.child
    let answered := answersOf run.1
    (Worker.new c).sendAll C requests = (run.1, run.2.unrecorded) ∧
    (∀ more later, GoesOn (C.ended process.child) more later →
      answered <+: documentsOf later (process.written ++ more)) ∧
    run.2.handled = answered.length ∧
    (run.1.all Except.isOk = false →
      run.2.send C.recorded request = (.error .processDied, run.2)) ∧
    (run.1.all Except.isOk = true →
      (run.2.send C.recorded request).1 =
        match C.feed process.child (Framing.write request) with
        | (.error reason, _) => .error (.io reason)
        | (.ok output, child) =>
          match (documentsOf (C.ended child) (process.written ++ output))[answered.length]? with
          | some document => .ok document
          | none => .error (obstacleOf (C.ended child) (process.written ++ output))) ∧
    (run.1.all Except.isOk = true → ∀ output child,
      C.feed process.child (Framing.write request) = (.ok output, child) →
        (run.2.delay C.recorded request = none ↔ C.ended child = false ∧
          (documentsOf (C.ended child) (process.written ++ output))[answered.length]? = none ∧
          obstacleOf (C.ended child) (process.written ++ output) = .processDied)) := by
  intro run process answered
  have recorded := sendAll_unrecorded C (Worker.new (Recorded.mk c [])) requests
  obtain ⟨inStep, retired⟩ := (inStep_new C c).sendAll requests
  refine ⟨recorded, ?_⟩
  cases outcome : run.1.all Except.isOk with
  | true =>
    have now : run.2.InStep C answered := inStep outcome
    refine ⟨fun more later goesOn => ?_, now.handled, nofun, fun _ => now.send_eq request,
      fun _ output child fed => now.delay_eq_none_iff fed⟩
    exact ⟨_, (now.documents more later goesOn).symm⟩
  | false =>
    have now : run.2.Retired C answered := retired outcome
    exact ⟨now.documents, now.handled, fun _ => now.send_eq request, nofun, nofun⟩

end Worker

end NotebookKernel
