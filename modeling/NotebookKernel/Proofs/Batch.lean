import NotebookKernel.Batch
import NotebookKernel.Opening
import NotebookKernel.Proofs.Kernel.Published
import NotebookKernel.Proofs.Session.Release

/-! # Batch runs

A list of files is a number of texts and what stops the run behind them: its end, or a file that
cannot be read (`exists_stop`).  What comes of it:

* `run_eq`: the texts are executed one after the other in one session, whatever becomes of each,
  and then the kernel is shut down.
* `tape_behind`: one exchange passes for each text, in the session that the texts before it have
  left.
* `text_section`: for each text its path is printed, and what its execution shows.
* `BatchReport.isSome_error?_iff`: the run fails for a file that cannot be read, and for an error in
  a reply.
* `BatchReport.text_of_finished`: a run to the end is summed up.

The number of a file is one of 32 bits.
-/

namespace NotebookKernel

open Session (Call readAnswer reported)
open Kernel (executeReply published responseOf)

namespace Batch

variable {ε δ : Type}

/-! ## Texts and what stops them -/

/-- A file that can be read, given by its path and its text. -/
def readable (text : String × String) : Source :=
  { path := text.1, code := .ok text.2 }

/-- What is left of a list of files when a run is over, and the file that has ended it early. -/
inductive Stop : List Source → Option (String × FileError) → Prop
  | finished : Stop [] none
  | unreadable (path : String) (failure : FileError) (more : List Source) :
      Stop ({ path, code := .error failure } :: more) (some (path, failure))

theorem exists_stop (sources : List Source) :
    ∃ (texts : List (String × String)) (rest : List Source) (stop : Option (String × FileError)),
      sources = texts.map readable ++ rest ∧ Stop rest stop := by
  induction sources with
  | nil => exact ⟨[], [], none, rfl, .finished⟩
  | cons source sources ih =>
    obtain ⟨path, code⟩ := source
    cases code with
    | error failure => exact ⟨[], _, _, rfl, .unreadable path failure sources⟩
    | ok code =>
      obtain ⟨texts, rest, stop, rfl, stops⟩ := ih
      exact ⟨(path, code) :: texts, rest, stop, rfl, stops⟩

/-! ## Executing texts -/

section Texts

variable (E : Engine ε)

/-- A session behind the execution of some texts. -/
def behind (s : Session ε) (texts : List (String × String)) : Session ε :=
  s.after E (texts.map fun (_, code) => .execute code)

/-- The sections for some texts, each executed in the session that those before it have left. -/
def executed (s : Session ε) (number : Nat) (texts : List (String × String)) : List Section :=
  texts.mapIdx fun i (path, code) =>
    { path
      reply := executeReply (.ofNat (number + i)) false
        (responseOf ((behind E s (texts.take i)).execute E code).1) }

theorem executed_cons (s : Session ε) (number : Nat) (path code : String)
    (texts : List (String × String)) :
    executed E s number ((path, code) :: texts) =
      ⟨path, executeReply (.ofNat number) false (responseOf (s.execute E code).1)⟩ ::
        executed E (s.execute E code).2 (number + 1) texts := by
  simp only [executed, List.mapIdx_cons, List.cons.injEq]
  refine ⟨rfl, ?_⟩
  congr 1
  funext i text
  rw [Nat.add_right_comm, Nat.add_assoc]
  rfl

/-- The texts are executed whatever comes behind them. -/
theorem runFrom_texts (k : Kernel ε) (number : Nat) (texts : List (String × String))
    (rest : List Source) :
    let last := runFrom E { k with session := behind E k.session texts } (number + texts.length) rest
    runFrom E k number (texts.map readable ++ rest) =
      ({ last.1 with sections := executed E k.session number texts ++ last.1.sections }, last.2) := by
  induction texts generalizing k number with
  | nil => rfl
  | cons text texts ih =>
    obtain ⟨path, code⟩ := text
    have next := ih (k.execute E code (.ofNat number) false).2 (number + 1)
    simp only [List.map_cons, List.cons_append, readable, runFrom, next, executed_cons,
      Kernel.execute_fst, List.length_cons, Nat.add_right_comm number 1, Nat.add_assoc]
    rfl

theorem run_eq (k : Kernel ε) (texts : List (String × String)) {rest : List Source}
    {stop : Option (String × FileError)} (stops : Stop rest stop) :
    run E k (texts.map readable ++ rest) =
      ({ sections := executed E k.session 1 texts, unreadable := stop },
        ({ k with session := behind E k.session texts }.shutdown E).2) := by
  rw [run, runFrom_texts]
  cases stops with
  | finished => simp [runFrom]
  | unreadable path failure more => simp [runFrom]

end Texts

/-! ## What passes between the session and its engine -/

section Exchanges

variable {E : Engine ε}

/-- An open session is open behind texts that it has executed. -/
theorem ready_behind {s : Session ε} (ready : ∃ e, s.handle = .ready e)
    (texts : List (String × String)) : ∃ e, (behind E s texts).handle = .ready e := by
  induction texts generalizing s with
  | nil => exact ready
  | cons text texts ih =>
    obtain ⟨e, open_⟩ := ready
    have called := Session.call_of_command (E := E) (c := .execute text.2) open_ rfl
    exact ih (s := (s.call E (.execute text.2)).2) ⟨_, congrArg (·.2.handle) called⟩

theorem ready_of_openAt {cell cell' : Once Runtime} {files : Files}
    {spawn : Launch → Except FileError ε} {l : Launch} {s : Session ε}
    (opened : Session.openAt E cell files spawn l = (.opened s, cell')) :
    ∃ e, s.handle = .ready e := by
  unfold Session.openAt at opened
  split at opened
  · cases opened
  · next runtime _ _ =>
    cases spawned : spawn (runtime.launch l) with
    | error failure =>
      simp only [spawned] at opened
      cases opened
    | ok e =>
      simp only [spawned] at opened
      have started : Session.start E e (runtime.launch l).header (runtime.launch l).headerSeconds =
        .opened s := congrArg Prod.fst opened
      rw [Session.start_opened started]
      have executed := ready_behind (E := E) (s := .withEngine e) ⟨e, rfl⟩
        ((runtime.launch l).header.toList.map fun code => ("", code))
      simpa [behind, Function.comp_def] using executed

/-- One exchange passes for each text, in the environment that the texts before it have left. -/
theorem tape_behind {s : Session (Taped ε)} {e : Taped ε} (open_ : s.handle = .ready e)
    (texts : List (String × String)) :
    ∃ exchanges, (behind E.taped s texts).tape = s.tape ++ exchanges ∧
      exchanges.length = texts.length ∧
      ∀ i path code, texts[i]? = some (path, code) → ∃ answer,
        exchanges[i]? = some (.sent
          (Command.document ⟨code, (behind E.taped s (texts.take i)).env⟩) answer) ∧
        ((behind E.taped s (texts.take i)).execute E.taped code).1 =
          reported (readAnswer answer) := by
  induction texts generalizing s e with
  | nil => exact ⟨[], (List.append_nil _).symm, rfl, nofun⟩
  | cons text texts ih =>
    -- The first text is exchanged on the tape as it is; the others are behind a longer one.
    let document := Command.document ⟨text.2, s.env⟩
    let answer := (E.send e.engine document).1
    let next := (s.call E.taped (.execute text.2)).2
    have called := Session.call_of_command (E := E.taped) (c := .execute text.2) open_ rfl
    have noted : next.handle = .ready (e.note (E.send e.engine document).2 (.sent document answer)) :=
      congrArg (·.2.handle) called
    have passed : next.tape = s.tape ++ [.sent document answer] := by
      rw [Session.Diary.tape_of_ready noted, Session.Diary.tape_of_ready open_]
      rfl
    obtain ⟨exchanges, tape, length, each⟩ := ih noted
    refine ⟨.sent document answer :: exchanges, ?_, congrArg (· + 1) length, ?_⟩
    · rw [List.append_cons, ← passed]
      exact tape
    · intro i path code here
      cases i with
      | zero =>
        cases here
        exact ⟨answer, rfl, Session.Finding.response.inj (congrArg Prod.fst called)⟩
      | succ i => exact each i path code here

end Exchanges

/-! ## Through a simulation -/

section Simulation

variable {E : Engine ε} {D : Engine δ} {f : ε → δ}

theorem map_runFrom (sim : E.Simulates D f) (k : Kernel ε) (number : Nat) (sources : List Source) :
    runFrom D (k.map f) number sources =
      ((runFrom E k number sources).1, (runFrom E k number sources).2.map f) := by
  induction sources generalizing k number with
  | nil => rfl
  | cons source sources ih =>
    cases read : source.code with
    | error failure => simp only [runFrom, read]
    | ok code => simp only [runFrom, read, Kernel.map_execute sim, ih]

theorem map_run (sim : E.Simulates D f) (k : Kernel ε) (sources : List Source) :
    run D (k.map f) sources = ((run E k sources).1, (run E k sources).2.map f) := by
  simp only [run, map_runFrom sim, Kernel.map_shutdown sim]

end Simulation

end Batch

/-! ## Reports -/

/-- What is shown of a response: the text that is published, or the error on a line of its own. -/
def Response.shown (r : Response) : String :=
  match r with
  | .success output _ _ => if output = "" then "" else published output r
  | .error message _ => "error: " ++ message ++ "\n"

theorem text_section (path : String) (count : UInt32) (r : Response) :
    (Section.mk path (executeReply count false r)).text =
      "--- " ++ path ++ " ---\n" ++ r.shown := by
  cases r with
  | error message raw => rw [Kernel.executeReply_of_error]; rfl
  | success output raw env =>
    obtain ⟨data, reply⟩ := Kernel.executeReply_of_success count false output raw env
    have text := Kernel.text?_executeReply count output raw env
    rw [reply] at text ⊢
    simp only [Section.text, text, Response.shown]
    split <;> rfl

namespace BatchReport

variable {r : BatchReport}

theorem failed_eq_nil_iff : r.failed = [] ↔ ∀ s ∈ r.sections, s.reply.status ≠ .error := by
  simp [failed, Section.failed]

theorem error?_of_unreadable {path : String} {failure : FileError}
    (stop : r.unreadable = some (path, failure)) :
    r.error? = some ("failed to read " ++ path ++ ": " ++ failure.message) := by
  simp [error?, stop]

theorem error?_of_failed (finished : r.unreadable = none) (fails : r.failed ≠ []) :
    r.error? = some (toString r.failed.length ++ " file(s) failed: " ++ ", ".intercalate r.failed) := by
  simp [error?, finished]

theorem isSome_error?_iff :
    r.error?.isSome ↔ r.unreadable.isSome ∨ ∃ s ∈ r.sections, s.reply.status = .error := by
  cases stop : r.unreadable with
  | some cut => simp [error?, stop]
  | none =>
    by_cases clean : r.failed = []
    · have none_ := failed_eq_nil_iff.mp clean
      simpa [error?, stop, clean] using none_
    · have some_ := mt failed_eq_nil_iff.mpr clean
      rw [error?_of_failed stop clean]
      simpa using some_

theorem text_of_unreadable {path : String} {failure : FileError} (elapsed : String)
    (stop : r.unreadable = some (path, failure)) :
    r.text elapsed = String.join (r.sections.map (·.text)) := by
  simp [text, stop]

theorem text_of_finished (elapsed : String) (finished : r.unreadable = none) {files : Nat}
    (all : r.sections.length = files) :
    r.text elapsed = String.join (r.sections.map (·.text)) ++ ("\n--- Run Summary ---\n" ++
      "Files: " ++ toString files ++ "\n" ++ "Failed: " ++ toString r.failed.length ++ "\n" ++
      "Elapsed: " ++ elapsed ++ "\n") := by
  have summed : r.summary elapsed = "\n--- Run Summary ---\n" ++ "Files: " ++ toString files ++ "\n" ++
      "Failed: " ++ toString r.failed.length ++ "\n" ++ "Elapsed: " ++ elapsed ++ "\n" := by
    unfold summary
    rw [all]
  rw [← summed]
  simp only [text, finished]

end BatchReport

namespace Batch

variable {ε : Type}

theorem isSome_stop_iff (texts : List (String × String)) {rest : List Source}
    {stop : Option (String × FileError)} (stops : Stop rest stop) :
    stop.isSome ↔ ∃ s ∈ texts.map readable ++ rest, ∃ failure, s.code = .error failure := by
  cases stops with
  | finished => simp [readable]
  | unreadable path failure more =>
    simp only [Option.isSome_some, true_iff]
    exact ⟨_, List.mem_append_right _ List.mem_cons_self, failure, rfl⟩

theorem length_executed (E : Engine ε) (s : Session ε) (number : Nat)
    (texts : List (String × String)) : (executed E s number texts).length = texts.length :=
  List.length_mapIdx

theorem paths_executed (E : Engine ε) (s : Session ε) (number : Nat)
    (texts : List (String × String)) :
    (executed E s number texts).map (·.path) = texts.map Prod.fst := by
  induction texts generalizing s number with
  | nil => rfl
  | cons text texts ih => rw [executed_cons, List.map_cons, List.map_cons, ih]

/-- A batch run on a kernel with a running engine, as every session has that has been opened; the
engine may answer as it likes.  For each file in front of the first one that cannot be read there is
one exchange under its number, in the session that the files before it have left, and its section is
printed: its path, and the text or the error of the reply.  The release comes behind them, once, and
nothing comes behind the release.  The run fails for a file that cannot be read, which ends what is
printed, and for an error in a reply; if all files can be read, they are summed up and the failed
ones are named. -/
theorem run_covers_its_files (E : Engine ε) (e : ε) (env : Option Nat)
    (vocabulary : Cell.Vocabulary) (executions : UInt32) (sources : List Source)
    (elapsed : String) :
    let kernel : Kernel ε := ⟨⟨.ready e, env, vocabulary⟩, executions⟩
    let taped : Kernel (Taped ε) := ⟨⟨.ready ⟨e, []⟩, env, vocabulary⟩, executions⟩
    let report := (run E.taped taped sources).1
    let ended := (run E.taped taped sources).2
    let failed := (report.sections.filter fun s => s.reply.status == .error).map (·.path)
    (∀ cell cell' files spawn l s, Session.openAt E cell files spawn l = (.opened s, cell') →
      ∃ e, s.handle = .ready e) ∧
    run E kernel sources = (report, ended.map Taped.engine) ∧
    ∃ (texts : List (String × String)) (rest : List Source) (stop : Option (String × FileError))
      (exchanges : List Traffic) (printed : List String),
      sources = texts.map readable ++ rest ∧ Stop rest stop ∧
      exchanges.length = texts.length ∧ report.sections.length = texts.length ∧
      printed.length = texts.length ∧
      (∀ (i : Nat) (path code : String), texts[i]? = some (path, code) → ∃ answer response,
        exchanges[i]? = some (.sent (Command.document
          ⟨code, (behind E.taped taped.session (texts.take i)).env⟩) answer) ∧
        response = responseOf (reported (readAnswer answer)) ∧
        report.sections[i]? = some
          { path, reply := executeReply (.ofNat (i + 1)) false response } ∧
        printed[i]? = some ("--- " ++ path ++ " ---\n" ++ response.shown)) ∧
      ended.session.tape = exchanges ++ [.released] ∧
      (report.error?.isSome ↔ (∃ s ∈ sources, ∃ failure, s.code = .error failure) ∨
        ∃ s ∈ report.sections, s.reply.status = .error) ∧
      (∀ path failure, stop = some (path, failure) →
        report.text elapsed = String.join printed ∧
        report.error? = some ("failed to read " ++ path ++ ": " ++ failure.message)) ∧
      (stop = none → report.sections.map (·.path) = sources.map (·.path) ∧
        report.text elapsed = String.join printed ++ ("\n--- Run Summary ---\n" ++
          "Files: " ++ toString sources.length ++ "\n" ++
          "Failed: " ++ toString failed.length ++ "\n" ++ "Elapsed: " ++ elapsed ++ "\n") ∧
        (failed ≠ [] → report.error? =
          some (toString failed.length ++ " file(s) failed: " ++ ", ".intercalate failed))) := by
  intro kernel taped report ended failed
  obtain ⟨texts, rest, stop, rfl, stops⟩ := exists_stop sources
  obtain ⟨exchanges, tape, length, each⟩ :=
    tape_behind (E := E) (s := taped.session) (e := ⟨e, []⟩) rfl texts
  obtain ⟨last, open_⟩ := ready_behind (E := E.taped) (s := taped.session) ⟨_, rfl⟩ texts
  have whole := run_eq E.taped taped texts stops
  have reported_ :
      report = { sections := executed E.taped taped.session 1 texts, unreadable := stop } :=
    congrArg Prod.fst whole
  have released : ended.session = ((behind E.taped taped.session texts).shutdown E.taped).2 :=
    congrArg (·.2.session) whole
  have sections : report.sections.length = texts.length := by
    rw [reported_]
    exact length_executed ..
  refine ⟨fun _ _ _ _ _ _ => ready_of_openAt, map_run E.taped_simulates taped _, texts, rest, stop,
    exchanges, report.sections.map (·.text), rfl, stops, length, sections,
    (List.length_map _).trans sections, ?_, ?_, ?_, ?_, ?_⟩
  · intro i path code here
    obtain ⟨answer, sent, told⟩ := each i path code here
    let response := responseOf (reported (readAnswer answer))
    have section_ : report.sections[i]? =
        some { path, reply := executeReply (.ofNat (i + 1)) false response } := by
      simp only [response, reported_, ← told]
      simp [executed, here, Nat.add_comm]
    refine ⟨answer, response, sent, rfl, section_, ?_⟩
    rw [List.getElem?_map, section_, Option.map_some, text_section]
  · rw [released, Session.tape_shutdown open_, tape]
    rfl
  · rw [BatchReport.isSome_error?_iff, ← isSome_stop_iff texts stops, reported_]
  · intro path failure cut
    have unreadable : report.unreadable = some (path, failure) := by rw [reported_, cut]
    exact ⟨BatchReport.text_of_unreadable elapsed unreadable,
      BatchReport.error?_of_unreadable unreadable⟩
  · intro finished
    -- Nothing is left, so that the texts are all the files.
    have readable_ : report.unreadable = none := by rw [reported_, finished]
    have all : (texts.map readable ++ rest).map (·.path) = texts.map Prod.fst := by
      subst finished
      cases stops
      simp [readable]
    have paths : report.sections.map (·.path) = texts.map Prod.fst := by
      rw [reported_]
      exact paths_executed ..
    have count : report.sections.length = (texts.map readable ++ rest).length := by
      simpa using congrArg List.length (paths.trans all.symm)
    exact ⟨paths.trans all.symm, BatchReport.text_of_finished elapsed readable_ count,
      BatchReport.error?_of_failed readable_⟩

end Batch

end NotebookKernel
