import NotebookKernel.Engine.Canned
import NotebookKernel.Proofs.Service.Release
import NotebookKernel.Proofs.Service.Transcript

/-! # Noise between the lines

Blank lines and lines that are no requests may stand anywhere in an input.  The latter are
answered, but neither the kernel nor its mailbox hears of them: whoever leaves them out gets the
same replies to all other lines, and the same service behind them.  What passes between the
service and its engine shows on the tape of the engine.
-/

namespace NotebookKernel.Service

open NotebookKernel.Text (Bytes bytesOf)

variable {ε δ : Type}

/-! ## Without the tape -/

section Simulation

variable {E : Engine ε} {D : Engine δ} {f : ε → δ}

theorem map_fetch (f : ε → δ) (s : Service ε) (ticket : Nat) :
    (s.map f).fetch ticket = ((s.fetch ticket).1, (s.fetch ticket).2.map f) := by
  refine Prod.ext ?_ ?_
  · simp only [Ledger.fetch_fst]
    rfl
  · simp only [Ledger.fetch_snd]
    rfl

theorem map_request (sim : E.Simulates D f) (s : Service ε) (r : Request) :
    (s.map f).request D r = ((s.request E r).1, (s.request E r).2.map f) := by
  have left : (s.map f).send r = ((s.send r).1, (s.send r).2.map f) := rfl
  rw [request, request, left]
  rcases s.send r with ⟨_ | ticket, s'⟩
  · rfl
  · have drained : (s'.map f).drain D = (s'.drain E).map f := map_steps sim _ s'
    simp only [drained, map_fetch]

theorem map_answerLine (sim : E.Simulates D f) (s : Service ε) (line : Bytes) :
    answerLine D (s.map f) line = ((answerLine E s line).1, (answerLine E s line).2.map f) := by
  unfold answerLine
  cases Request.parse line with
  | error failure => rfl
  | ok r =>
    simp only [map_request sim]
    rcases s.request E r with ⟨_ | b, s'⟩ <;> rfl

theorem map_answerAll (sim : E.Simulates D f) (s : Service ε) (lines : List Bytes) :
    answerAll D (s.map f) lines = ((answerAll E s lines).1, (answerAll E s lines).2.map f) := by
  induction lines generalizing s with
  | nil => rfl
  | cons line rest ih =>
    simp only [answerAll, map_answerLine sim, ih]
    split <;> rfl

theorem map_serve (sim : E.Simulates D f) (s : Service ε) (input : Bytes) :
    serve D (s.map f) input = ((serve E s input).1, (serve E s input).2.map f) := by
  refine Prod.ext ?_ ?_
  · simp only [serve_fst, map_answerAll sim]
  · simp only [serve_snd, map_answerAll sim]

end Simulation

/-! ## Lines that are put in between -/

/-- A line that asks for nothing: it is blank, or no request. -/
def IsNoise (line : Bytes) : Prop :=
  trimAscii line = [] ∨ request? (trimAscii line) = none

instance : DecidablePred IsNoise :=
  fun line => inferInstanceAs (Decidable (trimAscii line = [] ∨ request? (trimAscii line) = none))

/-- A line of an input, which may have been put in between the others. -/
structure Entry where
  line : Bytes
  inserted : Bool

namespace Entry

/-- The entries that have not been put in. -/
def common (entries : List Entry) : List Entry :=
  entries.filter (!·.inserted)

/-- The entries that are not blank. -/
def solid (entries : List Entry) : List Entry :=
  entries.filter fun e => !(trimAscii e.line).isEmpty

/-- The entries that get a reply, each with the line of the output that answers it. -/
def answers (entries : List Entry) (output : String) : List (Entry × Bytes) :=
  (solid entries).zip (inputLines (bytesOf output))

theorem common_solid (entries : List Entry) : common (solid entries) = solid (common entries) := by
  simp only [common, solid, List.filter_filter, Bool.and_comm]

theorem trimmedLines_solid (entries : List Entry) :
    trimmedLines (entries.map (·.line)) = (solid entries).map fun e => trimAscii e.line := by
  rw [trimmedLines, solid, List.map_map, List.filter_map]
  rfl

end Entry

/-- The lines of the output are the replies. -/
theorem inputLines_serve (E : Engine ε) (s : Service ε) (input : Bytes) :
    inputLines (bytesOf (serve E s input).1) =
      (answerAll E s (trimmedLines (inputLines input))).1.map replyLine := by
  rw [inputLines, splitOn_serve]
  simp

theorem answerLine_noise (E : Engine ε) (s : Service ε) {line : Bytes}
    (noise : request? line = none) :
    ∃ message, answerLine E s line = (⟨.protocolError message, false⟩, s) := by
  obtain ⟨failure, parsed⟩ := toOption_eq_none.mp noise
  exact ⟨_, by simp only [answerLine, parsed]; rfl⟩

/-- Two runs side by side, of which one is given the noise. -/
theorem answerAll_noise (E : Engine ε) (s : Service ε) {entries : List Entry}
    (noise : ∀ e ∈ entries, e.inserted = true → request? (trimAscii e.line) = none) :
    let loud := answerAll E s (entries.map fun e => trimAscii e.line)
    let quiet := answerAll E s ((Entry.common entries).map fun e => trimAscii e.line)
    let answers := entries.zip (loud.1.map replyLine)
    answers.filter (!·.1.inserted) = (Entry.common entries).zip (quiet.1.map replyLine) ∧
      (∀ a ∈ answers, a.1.inserted = true → ∃ message, a.2 = replyLine (.protocolError message)) ∧
      loud.2 = quiet.2 := by
  induction entries generalizing s with
  | nil => exact ⟨rfl, by simp, rfl⟩
  | cons e rest ih =>
    have later : ∀ e ∈ rest, e.inserted = true → request? (trimAscii e.line) = none :=
      fun e member => noise e (List.mem_cons_of_mem _ member)
    cases kind : e.inserted with
    | true =>
      -- The line is answered, and the service is left as it was.
      obtain ⟨message, answer⟩ := answerLine_noise E s (noise e (by simp) kind)
      have skipped : Entry.common (e :: rest) = Entry.common rest :=
        List.filter_cons_of_neg (by simp [kind])
      obtain ⟨replies, refused, same⟩ := ih s later
      rw [skipped, List.map_cons, answerAll]
      simp only [answer, Bool.false_eq_true, if_false, List.map_cons, List.zip_cons_cons,
        List.forall_mem_cons]
      refine ⟨?_, ⟨fun _ => ⟨message, rfl⟩, refused⟩, same⟩
      rw [List.filter_cons_of_neg (by simp [kind])]
      exact replies
    | false =>
      have kept : Entry.common (e :: rest) = e :: Entry.common rest :=
        List.filter_cons_of_pos (by simp [kind])
      obtain ⟨replies, refused, same⟩ := ih (answerLine E s (trimAscii e.line)).2 later
      rw [kept, List.map_cons, List.map_cons, answerAll, answerAll]
      dsimp only
      split
      · simp [kind]
      · simp only [List.map_cons, List.zip_cons_cons, List.forall_mem_cons]
        refine ⟨?_, ⟨fun inserted => ?_, refused⟩, same⟩
        · rw [List.filter_cons_of_pos (by simp [kind])]
          exact congrArg _ replies
        · rw [kind] at inserted
          cases inserted

/-- Whatever is put in between the lines of an input that asks for nothing.  The common lines have
the same replies, in the same order, and the others are refused; the engine has been asked the same;
and environment, count, session and mailbox are the same.  An engine without a tape behaves no
differently. -/
theorem serve_ignores_noise (E : Engine ε) (s : Service (Taped ε)) (entries : List Entry)
    (input noisy : Bytes) (noise : ∀ e ∈ entries, e.inserted = true → IsNoise e.line)
    (plain : inputLines input = (Entry.common entries).map (·.line))
    (woven : inputLines noisy = entries.map (·.line)) :
    let quiet := serve E.taped s input
    let loud := serve E.taped s noisy
    let answers := Entry.answers entries loud.1
    answers.filter (!·.1.inserted) = Entry.answers (Entry.common entries) quiet.1 ∧
    (∀ a ∈ answers, a.1.inserted = true → ∃ message, a.2 = replyLine (.protocolError message)) ∧
    loud.2.kernel.tape = quiet.2.kernel.tape ∧
    loud.2 = quiet.2 ∧
    (∀ bytes, serve E (s.map Taped.engine) bytes =
      ((serve E.taped s bytes).1, (serve E.taped s bytes).2.map Taped.engine)) := by
  intro quiet loud answers
  have asksNothing : ∀ e ∈ Entry.solid entries, e.inserted = true →
      request? (trimAscii e.line) = none := by
    intro e member inserted
    obtain ⟨member, solid⟩ := List.mem_filter.mp member
    obtain blank | noRequest := noise e member inserted
    · simp [blank] at solid
    · exact noRequest
  obtain ⟨replies, refused, same⟩ := answerAll_noise E.taped s asksNothing
  rw [Entry.common_solid, ← Entry.trimmedLines_solid, ← Entry.trimmedLines_solid, ← plain,
    ← woven] at replies same
  rw [← Entry.trimmedLines_solid, ← woven] at refused
  rw [← inputLines_serve, ← inputLines_serve] at replies
  rw [← inputLines_serve] at refused
  have behind : loud.2 = quiet.2 := by
    simpa only [serve_snd, loud, quiet] using same
  exact ⟨replies, refused, congrArg (·.kernel.tape) behind, behind, map_serve E.taped_simulates s⟩

/-- A broken line before a request and a blank one behind it. -/
theorem serve_ignores_noise_canned :
    let s : Service (Taped Canned) := .new (.new (.withEngine ⟨Canned.fresh [], []⟩))
    let asks := "\x7b\"msg_type\":\"kernel_info_request\",\"content\":\x7b\x7d\x7d"
    let entries : List Entry :=
      [⟨bytesOf "\x7b", true⟩, ⟨bytesOf asks, false⟩, ⟨bytesOf " ", true⟩]
    let input := bytesOf (asks ++ "\n")
    let noisy := bytesOf ("\x7b\n" ++ asks ++ "\n ")
    (∀ e ∈ entries, e.inserted = true → IsNoise e.line) ∧
    inputLines input = (Entry.common entries).map (·.line) ∧
    inputLines noisy = entries.map (·.line) ∧
    (Entry.answers entries (serve Canned.engine.taped s noisy).1).filter (!·.1.inserted) =
      Entry.answers (Entry.common entries) (serve Canned.engine.taped s input).1 := by
  intro s asks entries input noisy
  have noise : ∀ e ∈ entries, e.inserted = true → IsNoise e.line := by decide
  have plain : inputLines input = (Entry.common entries).map (·.line) := by decide
  have woven : inputLines noisy = entries.map (·.line) := by decide
  exact ⟨noise, plain, woven,
    (serve_ignores_noise Canned.engine s entries input noisy noise plain woven).1⟩

end NotebookKernel.Service
