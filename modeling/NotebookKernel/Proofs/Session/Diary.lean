import Mathlib.Data.List.Induction
import NotebookKernel.Proofs.Session.Calls

/-! # The diary of a session

A diary keeps every call to a session, with what came of it and what passed between the
session and its engine meanwhile.  `Diary.Sound` is the invariant: the session has its engine
until it is shut down, the tape of the engine is the traffic in the diary, and the
environment is the one that the last execution brought.
-/

namespace NotebookKernel.Session

variable {ε : Type}

/-! ## Calls -/

/-- What can be asked of a session. -/
inductive Call where
  | execute (code : String)
  | executeIn (code : String) (env : Option Nat)
  | inspect (code : String) (cursor : Nat)
  | complete (code : String) (cursor : Nat)
  | completeness (code : String)
  | shutdown

/-- What comes of a call. -/
inductive Finding where
  | response (r : Except EngineError Response)
  | information (text : Except EngineError String)
  | completion (c : Cell.Completion)
  | completeness (c : Cell.Completeness)
  | released (b : Bool)

def call (E : Engine ε) (s : Session ε) : Call → Finding × Session ε
  | .execute code => let (r, s) := s.execute E code; (.response r, s)
  | .executeIn code env => let (r, s) := s.executeIn E code env; (.response r, s)
  | .inspect code cursor => let (text, s) := s.inspect E code cursor; (.information text, s)
  | .complete code cursor => (.completion (s.complete code cursor), s)
  | .completeness code => (.completeness (Session.completeness code), s)
  | .shutdown => let (b, s) := s.shutdown E; (.released b, s)

/-- A session after a number of calls. -/
def after (E : Engine ε) (s : Session ε) (calls : List Call) : Session ε :=
  calls.foldl (fun s c => (s.call E c).2) s

/-- The command that a call sends to the engine while the current environment is `env`. -/
def Call.command? (env : Option Nat) : Call → Option Command
  | .execute code => some ⟨code, env⟩
  | .executeIn code override => some ⟨code, override <|> env⟩
  | .inspect code cursor =>
    let span := Cell.Span.at code.toList cursor
    if span.isEmpty then none else some (checkCommand span.name env)
  | _ => none

/-- Whether a call runs code. -/
def Call.executes : Call → Bool
  | .execute _ => true
  | .executeIn _ _ => true
  | _ => false

/-- What is found when the engine answers the command of a call. -/
def Call.found (c : Call) (answer : Except EngineError String) : Finding :=
  match c with
  | .inspect code cursor =>
    .information (inspected (Cell.Span.at code.toList cursor).name (readAnswer answer))
  | _ => .response (reported (readAnswer answer))

/-- The environment after the engine has answered the command of a call. -/
def Call.envAfter (c : Call) (answer : Except EngineError String) (env : Option Nat) : Option Nat :=
  if c.executes then answeredEnv (readAnswer answer) <|> env else env

theorem map_call {δ : Type} {E : Engine ε} {D : Engine δ} {f : ε → δ} (sim : E.Simulates D f)
    (s : Session ε) (c : Call) : (s.map f).call D c = ((s.call E c).1, (s.call E c).2.map f) := by
  cases c with
  | execute code => simp only [call, execute, map_executeIn sim]
  | executeIn code env => simp only [call, map_executeIn sim]
  | inspect code cursor => simp only [call, map_inspect sim]
  | complete | completeness => rfl
  | shutdown => simp only [call, map_shutdown sim]

/-! ## Open and closed sessions -/

section Calls

variable {E : Engine ε} {s : Session ε} {e : ε} {c : Call}

/-- An open session sends the command of a call and does nothing else with its engine. -/
theorem call_of_command (open_ : s.handle = .ready e) {m : Command}
    (command : c.command? s.env = some m) :
    s.call E c = (c.found (E.send e m.document).1,
      { s with
        handle := .ready (E.send e m.document).2
        env := c.envAfter (E.send e m.document).1 s.env }) := by
  have slot : s.handle.slot = some e := by rw [open_]; rfl
  have running : s.isClosed = false := by rw [isClosed, open_]; rfl
  cases c with
  | execute code =>
    cases command
    simp only [call, execute, executeIn_of_slot slot, open_]
    rfl
  | executeIn code override =>
    cases command
    simp only [call, executeIn_of_slot slot, open_]
    rfl
  | inspect code cursor =>
    simp only [Call.command?] at command
    split at command
    next => cases command
    next some_ =>
      cases command
      simp only [call, inspect_of_slot slot running, some_, open_]
      rfl
  | complete | completeness | shutdown => cases command

theorem call_of_no_command (open_ : s.handle = .ready e) (command : c.command? s.env = none)
    (going : c ≠ .shutdown) : (s.call E c).2 = s := by
  have slot : s.handle.slot = some e := by rw [open_]; rfl
  have running : s.isClosed = false := by rw [isClosed, open_]; rfl
  cases c with
  | execute | executeIn => cases command
  | inspect code cursor =>
    simp only [Call.command?] at command
    split at command
    next nothing => simp only [call, inspect_of_slot slot running, nothing, if_true]
    next => cases command
  | complete | completeness => rfl
  | shutdown => exact absurd rfl going

theorem call_of_closed {retired : List ε}
    (closed : s.handle = { phase := .closed, slot := none, retired }) : (s.call E c).2 = s := by
  have slot : s.handle.slot = none := by rw [closed]
  have ended : s.isClosed = true := by rw [isClosed, closed]; rfl
  cases c with
  | execute code => simp only [call, execute, executeIn_of_empty slot]
  | executeIn code override => simp only [call, executeIn_of_empty slot]
  | inspect code cursor => simp only [call, inspect_of_closed ended]
  | complete | completeness => rfl
  | shutdown =>
    obtain ⟨handle, env, vocabulary⟩ := s
    subst closed
    rfl

theorem call_of_closed_finding {retired : List ε}
    (closed : s.handle = { phase := .closed, slot := none, retired }) (runs : c.executes) :
    (s.call E c).1 = .response (.error .sessionClosed) := by
  have slot : s.handle.slot = none := by rw [closed]
  cases c with
  | execute code => simp only [call, execute, executeIn_of_empty slot]
  | executeIn code override => simp only [call, executeIn_of_empty slot]
  | inspect | complete | completeness | shutdown => cases runs

end Calls

/-! ## Diaries -/

/-- A call, what came of it, and what passed meanwhile. -/
structure Entry where
  call : Call
  finding : Finding
  traffic : List Traffic

/-- The environment in the reply to an execution, if the reply is a success with one. -/
def Entry.env? (en : Entry) : Option Nat :=
  match en.call.executes, en.traffic with
  | true, [.sent _ answer] => answeredEnv (readAnswer answer)
  | _, _ => none

/-- A session with all its calls. -/
structure Diary (ε : Type) where
  session : Session (Taped ε)
  entries : List Entry

/-- What has passed between a session and its engine. -/
def tape (s : Session (Taped ε)) : List Traffic :=
  s.handle.engines.flatMap Taped.tape

namespace Diary

def opened (e : ε) : Diary ε :=
  { session := .withEngine ⟨e, []⟩, entries := [] }

/-- The entry for a call. -/
def entry (E : Engine ε) (d : Diary ε) (c : Call) : Entry :=
  let (finding, session) := d.session.call E.taped c
  { call := c, finding, traffic := session.tape.drop d.session.tape.length }

/-- Make a call and write it down. -/
def write (E : Engine ε) (d : Diary ε) (c : Call) : Diary ε :=
  { session := (d.session.call E.taped c).2, entries := d.entries ++ [d.entry E c] }

def play (E : Engine ε) (d : Diary ε) (calls : List Call) : Diary ε :=
  calls.foldl (write E) d

theorem play_append (E : Engine ε) (d : Diary ε) (cs ds : List Call) :
    d.play E (cs ++ ds) = (d.play E cs).play E ds := by
  simp only [play, List.foldl_append]

/-- The environment of the last execution in a diary that brought one. -/
def lastEnv (entries : List Entry) : Option Nat :=
  (entries.filterMap Entry.env?).getLast?

theorem lastEnv_concat (entries : List Entry) (en : Entry) :
    lastEnv (entries ++ [en]) = (en.env? <|> lastEnv entries) := by
  unfold lastEnv
  cases here : en.env? with
  | none => simp [here]
  | some n => simp [here]

/-! ## The invariant -/

/-- What holds of a diary after some calls. -/
structure Sound (calls : List Call) (d : Diary ε) : Prop where
  asked : d.entries.map Entry.call = calls
  /-- The session has its engine until it is shut down. -/
  handle : (.shutdown ∉ calls ∧ ∃ e, d.session.handle = .ready e) ∨
    (.shutdown ∈ calls ∧ ∃ e, d.session.handle = { phase := .closed, slot := none, retired := [e] })
  tape : d.session.tape = d.entries.flatMap Entry.traffic
  env : d.session.env = lastEnv d.entries

variable {E : Engine ε} {calls : List Call} {d : Diary ε}

theorem sound_opened (e : ε) : Sound [] (opened e) where
  asked := rfl
  handle := .inl ⟨List.not_mem_nil, _, rfl⟩
  tape := rfl
  env := rfl

/-! ## The entry for a call -/

theorem tape_of_engines {s : Session (Taped ε)} {e : Taped ε} (own : s.handle.engines = [e]) :
    s.tape = e.tape := by
  rw [Session.tape, own, List.flatMap_singleton]

theorem tape_of_ready {s : Session (Taped ε)} {e : Taped ε} (open_ : s.handle = .ready e) :
    s.tape = e.tape :=
  tape_of_engines (by rw [open_]; rfl)

theorem write_of_command {e : Taped ε} (open_ : d.session.handle = .ready e) {c : Call} {m : Command}
    (command : c.command? d.session.env = some m) :
    let answer := (E.send e.engine m.document).1
    d.entry E c = { call := c, finding := c.found answer, traffic := [.sent m.document answer] } ∧
      (d.write E c).session =
        { d.session with
          handle := .ready (e.note (E.send e.engine m.document).2 (.sent m.document answer))
          env := c.envAfter answer d.session.env } := by
  intro answer
  have asked := call_of_command (E := E.taped) open_ command
  have before := tape_of_ready open_
  refine ⟨?_, congrArg Prod.snd asked⟩
  simp only [entry, asked, before]
  rw [tape_of_ready rfl]
  simp only [Engine.taped, Taped.note, List.drop_left]
  rfl

theorem write_of_no_command {e : Taped ε} (open_ : d.session.handle = .ready e) {c : Call}
    (command : c.command? d.session.env = none) (going : c ≠ .shutdown) :
    (d.entry E c).traffic = [] ∧ (d.write E c).session = d.session := by
  have same := call_of_no_command (E := E.taped) open_ command going
  exact ⟨by simp [entry, same], same⟩

theorem write_shutdown {e : Taped ε} (open_ : d.session.handle = .ready e) :
    (d.entry E .shutdown).traffic = [.released] ∧
      (d.write E .shutdown).session =
        { d.session with
          handle :=
            { phase := .closed, slot := none, retired := [e.note (E.shutdown e.engine) .released] } } := by
  have before := tape_of_ready open_
  have ends : d.session.call E.taped .shutdown = (.released true,
      { d.session with
        handle :=
          { phase := .closed, slot := none, retired := [E.taped.shutdown e] } }) := by
    simp only [call, shutdown, Handle.close, open_, Handle.ready]
  refine ⟨?_, congrArg Prod.snd ends⟩
  simp only [entry, ends, before]
  rw [tape_of_engines (e := E.taped.shutdown e) rfl]
  simp only [Engine.taped, Taped.note, List.drop_left]

theorem write_of_closed {retired : List (Taped ε)}
    (closed : d.session.handle = { phase := .closed, slot := none, retired }) (c : Call) :
    (d.entry E c).traffic = [] ∧ (d.write E c).session = d.session := by
  have same := call_of_closed (E := E.taped) (c := c) closed
  exact ⟨by simp [entry, same], same⟩

/-! ## Preservation -/

theorem lastEnv_write (c : Call) :
    lastEnv (d.write E c).entries = ((d.entry E c).env? <|> lastEnv d.entries) :=
  lastEnv_concat _ _

theorem entries_write (c : Call) : (d.write E c).entries = d.entries ++ [d.entry E c] := rfl

theorem env?_of_quiet {c : Call} (quiet : (d.entry E c).traffic = []) : (d.entry E c).env? = none := by
  unfold Entry.env?
  rw [quiet]
  cases (d.entry E c).call.executes <;> rfl

theorem Sound.quiet (h : Sound calls d) {c : Call} (going : .shutdown ∈ calls ∨ c ≠ .shutdown)
    (quiet : (d.entry E c).traffic = []) (same : (d.write E c).session = d.session) :
    Sound (calls ++ [c]) (d.write E c) where
  asked := by simp [entries_write, h.asked, entry]
  handle := by
    rw [same, List.mem_append, List.mem_singleton]
    obtain ⟨never, open_⟩ | ⟨before, closed⟩ := h.handle
    · obtain before | other := going
      · exact absurd before never
      · exact .inl ⟨not_or.mpr ⟨never, other.symm⟩, open_⟩
    · exact .inr ⟨.inl before, closed⟩
  tape := by simp [same, entries_write, h.tape, quiet]
  env := by rw [same, lastEnv_write, env?_of_quiet quiet, h.env]; rfl

theorem Sound.exchange (h : Sound calls d) (never : .shutdown ∉ calls) {e : Taped ε}
    (open_ : d.session.handle = .ready e) {c : Call} {m : Command}
    (command : c.command? d.session.env = some m) : Sound (calls ++ [c]) (d.write E c) := by
  obtain ⟨entry, session⟩ := write_of_command (E := E) open_ command
  have going : c ≠ .shutdown := by
    intro ends
    subst ends
    cases command
  exact {
    asked := by rw [entries_write, List.map_append, h.asked, entry]; rfl
    handle := by
      rw [session, List.mem_append, List.mem_singleton]
      exact .inl ⟨not_or.mpr ⟨never, going.symm⟩, _, rfl⟩
    tape := by
      rw [session, tape_of_ready rfl, entries_write, List.flatMap_append, ← h.tape,
        tape_of_ready open_, entry]
      rfl
    env := by
      -- The entry has the same answer as the session, so that both move or neither does.
      rw [session, lastEnv_write, entry, ← h.env]
      unfold Entry.env? Call.envAfter
      cases c.executes <;> rfl }

theorem Sound.release (h : Sound calls d) {e : Taped ε} (open_ : d.session.handle = .ready e) :
    Sound (calls ++ [.shutdown]) (d.write E .shutdown) := by
  obtain ⟨traffic, session⟩ := write_shutdown (E := E) open_
  exact {
    asked := by simp [entries_write, h.asked, entry]
    handle := by
      rw [session]
      exact .inr ⟨by simp, _, rfl⟩
    tape := by
      rw [session, tape_of_engines rfl, entries_write, List.flatMap_append, ← h.tape,
        tape_of_ready open_, List.flatMap_singleton, traffic]
      rfl
    env := by
      rw [session, lastEnv_write, ← h.env]
      have nothing : (d.entry E .shutdown).env? = none := by
        unfold Entry.env?
        rfl
      rw [nothing]
      rfl }

theorem Sound.write (h : Sound calls d) (c : Call) : Sound (calls ++ [c]) (d.write E c) := by
  obtain ⟨never, e, open_⟩ | ⟨before, e, closed⟩ := h.handle
  · cases command : c.command? d.session.env with
    | some m => exact h.exchange never open_ command
    | none =>
      by_cases going : c = .shutdown
      · rw [going]
        exact h.release open_
      · obtain ⟨quiet, same⟩ := write_of_no_command (E := E) open_ command going
        exact h.quiet (.inr going) quiet same
  · obtain ⟨quiet, same⟩ := write_of_closed (E := E) closed c
    exact h.quiet (.inl before) quiet same

theorem sound_play (E : Engine ε) (e : ε) (calls : List Call) : Sound calls ((opened e).play E calls) := by
  induction calls using List.reverseRecOn with
  | nil => exact sound_opened e
  | append_singleton calls c ih =>
    rw [play_append]
    exact ih.write c

end Diary

end NotebookKernel.Session
