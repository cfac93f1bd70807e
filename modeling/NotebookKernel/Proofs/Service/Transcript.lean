import NotebookKernel.Proofs.Kernel.Replies
import NotebookKernel.Proofs.Service.Lines
import NotebookKernel.Proofs.Service.Sequential

/-! # The transcript of an input

Serving lines is one more client among others: it leaves a request for every line that is one,
lets the worker catch up and fetches the reply (`request_spec`).  So the replies to the lines are
those of the kernel that handles them one after the other, behind whatever other clients left
before.
-/

namespace NotebookKernel.Service

open NotebookKernel.Json (Value)
open NotebookKernel.Mailbox (Deed Journal)
open NotebookKernel.Text (Bytes bytesOf)

variable {ε : Type} {E : Engine ε} {k : Kernel ε} {moves : List Move} {l : Ledger ε}
  {ds : List (Deed Request Reply)}

/-! ## One request -/

/-- A client waits for a reply, or has one that it has not fetched. -/
def Awaits (s : Service ε) (ticket : Nat) : Prop :=
  s.mailbox.receipts[ticket]? = some .waiting ∨
    ∃ b, s.mailbox.receipts[ticket]? = some (.answered b)

theorem Awaits.step {s : Service ε} {ticket : Nat} (h : s.Awaits ticket) (E : Engine ε) :
    (s.step E).Awaits ticket := by
  cases working : s.work with
  | idle =>
    have same : (s.step E).mailbox.receipts = s.mailbox.receipts := by
      obtain nothing | ⟨t, r, queue, running, free, first, polled⟩ :=
        Mailbox.tryPoll_cases s.mailbox
      · simp [Service.step, working, nothing]
      · simp [Service.step, working, polled]
    rwa [Awaits, same]
  | taken r => simpa [Service.step, working, Awaits] using h
  | handled b =>
    cases pending : s.mailbox.pending with
    | none => simpa [Service.step, working, Mailbox.reply, pending, Awaits] using h
    | some t =>
      have receipts : (s.step E).mailbox.receipts =
          s.mailbox.receipts.modify t (Mailbox.Receipt.resolve b) := by
        simp [Service.step, working, Mailbox.reply, pending]
      rw [Awaits, receipts, List.getElem?_modify]
      obtain waiting | ⟨b', answered⟩ := h
      · rw [waiting]
        by_cases same : t = ticket
        · exact .inr ⟨b, by simp [same, Mailbox.Receipt.resolve]⟩
        · exact .inl (by simp [same])
      · refine .inr ⟨b', ?_⟩
        rw [answered]
        split <;> rfl

theorem Awaits.steps {s : Service ε} {ticket : Nat} (h : s.Awaits ticket) (E : Engine ε) (n : Nat) :
    (s.steps E n).Awaits ticket := by
  induction n generalizing s with
  | zero => exact h
  | succ n ih => exact ih (h.step E)

namespace Ledger

theorem Follows.fetch_of_awaits (h : Follows E k moves l ds) {n : Nat} {b : Reply}
    (replied : (Journal.new.play ds).replied[n]? = some b) (awaits : l.service.Awaits n) :
    (l.service.fetch n).1 = .ok b := by
  obtain waiting | ⟨b', answered⟩ := awaits
  · rw [h.mailbox] at waiting
    have agrees := (Journal.sound_play ds).agrees n _ waiting
    rw [Mailbox.verdict_of_replied _ replied] at agrees
    cases agrees
  · have fetched : (l.service.fetch n).1 = .ok b' := by
      simp [fetch_fst, Mailbox.receive, answered]
    have same := h.replied_of_fetch fetched
    rw [replied] at same
    rw [fetched, Option.some.inj same]

theorem Follows.awaits_send (h : Follows E k moves l ds) (r : Request) :
    (l.service.send r).2.Awaits (requestsOf moves).length := by
  have tickets := (Journal.sound_play ds).receipts
  rw [← h.accepted, List.length_map, ← tickets]
  exact .inl (by simp [Service.send, Mailbox.send, h.mailbox, h.running])

end Ledger

/-- A client that leaves a request and waits gets the reply of the kernel behind everything
    that was left before. -/
theorem request_spec (E : Engine ε) (k : Kernel ε) (moves : List Move) (r : Request) :
    ∃ moves', requestsOf moves' = requestsOf moves ++ [r] ∧
      ((Ledger.new k).play E moves).service.request E r =
        (.ok ((k.after E (requestsOf moves)).handle E r).1,
          ((Ledger.new k).play E moves').service) := by
  let l := (Ledger.new k).play E moves
  let left := l.move E (.send r)
  let ticket := (requestsOf moves).length
  -- The client waits until the worker has caught up; a request takes three moves of the worker.
  let waits := List.replicate (3 * (left.service.mailbox.queue.length + 1)) Move.work
  obtain ⟨ds, follows⟩ : ∃ ds, Ledger.Follows E k moves l ds := Ledger.exists_follows E k moves
  obtain ⟨ds', drained, done⟩ := (follows.send r).catchUp (backlog_le left.service)
  change Ledger.Follows E k (moves ++ [.send r] ++ waits) (left.drain E) ds' at drained
  have accepted : requestsOf (moves ++ [.send r] ++ waits) = requestsOf moves ++ [r] := by
    rw [Ledger.requestsOf_works]
    simp [requestsOf, Move.request?]
  have replied : (Journal.new.play ds').replied[ticket]? =
      some ((k.after E (requestsOf moves)).handle E r).1 := by
    have number : ticket = (k.replies E (requestsOf moves)).length :=
      (Kernel.length_replies E k (requestsOf moves)).symm
    rw [(drained.all_replied done).2, accepted, Kernel.replies_concat, number,
      List.getElem?_concat_length]
  -- Nobody else has looked for the reply meanwhile.
  have awaits : (left.drain E).service.Awaits ticket := by
    rw [Ledger.service_drain]
    exact (follows.awaits_send r).steps E _
  have fetched := drained.fetch_of_awaits replied awaits
  refine ⟨moves ++ [.send r] ++ waits ++ [.fetch ticket], ?_, ?_⟩
  · rw [← accepted]
    simp [requestsOf, Move.request?]
  · have sent : l.service.send r = (.ok ticket, left.service) := Prod.ext (follows.send_eq r) rfl
    change l.service.request E r = _
    simp only [Service.request, sent, ← Ledger.service_drain]
    refine Prod.ext fetched ?_
    simp only [Ledger.play_append]
    rfl

theorem kernel_drain (E : Engine ε) (k : Kernel ε) (moves : List Move) :
    (((Ledger.new k).play E moves).service.drain E).kernel = k.after E (requestsOf moves) := by
  obtain ⟨ds, follows⟩ := Ledger.exists_follows E k moves
  obtain ⟨ds', drained, done⟩ := follows.catchUp (backlog_le _)
  rw [← Ledger.service_drain, Ledger.drain, ← drained.kernel, (drained.all_replied done).1,
    Ledger.requestsOf_works]

/-! ## One line after the other -/

/-- The request that a line is, if it is one. -/
def request? (line : Bytes) : Option Request :=
  (Request.parse line).toOption

/-- Whether a line is a request to shut down. -/
def endsService (line : Bytes) : Bool :=
  (request? line).any Request.isShutdown

/-- The lines up to the first request to shut down, which is the last one to be answered. -/
def answered (lines : List Bytes) : List Bytes :=
  lines.take (lines.findIdx endsService + 1)

/-- What a kernel replies to a line. -/
def replyTo (E : Engine ε) (k : Kernel ε) (line : Bytes) : Reply :=
  match Request.parse line with
  | .error failure => .protocolError ("Invalid request: " ++ failure.message line)
  | .ok r => (k.handle E r).1

theorem replyTo_of_error {line : Bytes} {failure : Json.Failure}
    (failed : Request.parse line = .error failure) :
    replyTo E k line = .protocolError ("Invalid request: " ++ failure.message line) := by
  rw [replyTo, failed]

theorem replyTo_of_ok {line : Bytes} {r : Request} (parsed : Request.parse line = .ok r) :
    replyTo E k line = (k.handle E r).1 := by
  rw [replyTo, parsed]

/-- What a kernel replies to lines that come one at a time. -/
def transcript (E : Engine ε) (k : Kernel ε) : List Bytes → List Reply
  | [] => []
  | line :: rest => replyTo E k line :: transcript E (k.after E (request? line).toList) rest

theorem filterMap_request?_cons (line : Bytes) (rest : List Bytes) :
    (line :: rest).filterMap request? = (request? line).toList ++ rest.filterMap request? := by
  cases parsed : request? line <;> simp [parsed]

theorem answered_cons (line : Bytes) (rest : List Bytes) :
    answered (line :: rest) = line :: if endsService line then [] else answered rest := by
  cases ends : endsService line <;> simp [answered, List.findIdx_cons, ends]

theorem answerLine_spec (E : Engine ε) (k : Kernel ε) (moves : List Move) (line : Bytes) :
    ∃ moves', requestsOf moves' = requestsOf moves ++ (request? line).toList ∧
      answerLine E ((Ledger.new k).play E moves).service line =
        (⟨replyTo E (k.after E (requestsOf moves)) line, endsService line⟩,
          ((Ledger.new k).play E moves').service) := by
  cases parsed : Request.parse line with
  | error failure =>
    refine ⟨moves, by simp [request?, parsed], ?_⟩
    simp [answerLine, replyTo, endsService, request?, parsed]
  | ok r =>
    obtain ⟨moves', accepted, answer⟩ := request_spec E k moves r
    refine ⟨moves', by simp [request?, parsed, accepted], ?_⟩
    simp [answerLine, replyTo, endsService, request?, parsed, answer]

theorem answerAll_spec (E : Engine ε) (k : Kernel ε) (moves : List Move) (lines : List Bytes) :
    ∃ moves', requestsOf moves' = requestsOf moves ++ (answered lines).filterMap request? ∧
      answerAll E ((Ledger.new k).play E moves).service lines =
        (transcript E (k.after E (requestsOf moves)) (answered lines),
          ((Ledger.new k).play E moves').service) := by
  induction lines generalizing moves with
  | nil => exact ⟨moves, by simp [answered], rfl⟩
  | cons line rest ih =>
    obtain ⟨behind, accepted, answer⟩ := answerLine_spec E k moves line
    rw [answered_cons, answerAll]
    simp only [answer, transcript, filterMap_request?_cons]
    cases ends : endsService line with
    | true => exact ⟨behind, by simpa using accepted, rfl⟩
    | false =>
      obtain ⟨moves', accepted', answers⟩ := ih behind
      refine ⟨moves', ?_, ?_⟩
      · rw [accepted', accepted, List.append_assoc]
        rfl
      · simp only [Bool.false_eq_true, if_false, answers, accepted, Kernel.after_append]

@[simp] theorem length_transcript (E : Engine ε) (k : Kernel ε) (lines : List Bytes) :
    (transcript E k lines).length = lines.length := by
  induction lines generalizing k with
  | nil => rfl
  | cons line rest ih => exact congrArg (· + 1) (ih _)

theorem getElem?_transcript (E : Engine ε) (k : Kernel ε) {lines : List Bytes} {i : Nat}
    {line : Bytes} (here : lines[i]? = some line) :
    (transcript E k lines)[i]? =
      some (replyTo E (k.after E ((lines.take i).filterMap request?)) line) := by
  induction lines generalizing k i with
  | nil => cases here
  | cons first rest ih =>
    cases i with
    | zero =>
      cases here
      rfl
    | succ i =>
      rw [transcript, List.getElem?_cons_succ, ih _ here, List.take_succ_cons,
        filterMap_request?_cons, Kernel.after_append]

/-- What a client may rely on when it reads the reply to a line. -/
structure Answers (E : Engine ε) (k : Kernel ε) (line : Bytes) (b : Reply) : Prop where
  malformed : ∀ failure, Request.parse line = .error failure →
    b = .protocolError ("Invalid request: " ++ failure.message line)
  handled : ∀ r, Request.parse line = .ok r → b = (k.handle E r).1
  named : ∀ r, Request.parse line = .ok r →
    ∃ stem, r.kind.tag = stem ++ "_request" ∧ b.tag = stem ++ "_reply"
  object : b.encode = (Value.object [("msg_type", .string b.tag), ("content", b.content)]).compact
  single : 0x0A ∉ replyLine b
  /-- The offsets of a completion are read back if they fit into 64 bits, which those within a
      text in memory do. -/
  document : (∀ code cursor, Request.parse line = .ok (.complete code cursor) →
      code.length < Nat.pow 2 64) →
    Json.readDocument (replyLine b) =
      .ok (.object [("msg_type", .string b.tag), ("content", b.content)])

theorem answers_replyTo (E : Engine ε) (k : Kernel ε) (line : Bytes) :
    Answers E k line (replyTo E k line) where
  malformed _ failed := replyTo_of_error failed
  handled _ parsed := replyTo_of_ok parsed
  named r parsed := ⟨r.kind.stem, r.kind.tag_eq, replyTo_of_ok parsed ▸ Kernel.tag_handle E k r⟩
  object := rfl
  single := newline_not_mem_replyLine _
  document fits := by
    refine Reply.readDocument_encode ?_
    cases parsed : Request.parse line with
    | error failure =>
      rw [replyTo_of_error parsed]
      trivial
    | ok r =>
      rw [replyTo_of_ok parsed]
      exact Kernel.bounded_handle E k fun code cursor same => fits code cursor (same ▸ parsed)

/-- What is made of an input, whatever other clients have left before.  The output has one line for
    every line that is answered, and in it the reply of the kernel behind all the lines before.  No
    other request is left than those on the lines that are answered, and none is handled. -/
theorem serve_transcript (E : Engine ε) (k : Kernel ε) (moves : List Move) (input : Bytes) :
    let s := ((Ledger.new k).play E moves).service
    let start := k.after E (requestsOf moves)
    let lines := answered (trimmedLines (inputLines input))
    let requests := lines.filterMap request?
    let output := (serve E s input).1
    let s' := (serve E s input).2
    ∃ replies : List Reply,
      output = String.join (replies.map fun b => b.encode ++ "\n") ∧
      (bytesOf output).splitOn 0x0A = replies.map replyLine ++ [[]] ∧
      replies.length = lines.length ∧
      (∀ i line b, lines[i]? = some line → replies[i]? = some b →
        Answers E (start.after E ((lines.take i).filterMap request?)) line b) ∧
      (∃ moves', requestsOf moves' = requestsOf moves ++ requests ∧
        s' = ((Ledger.new k).play E moves').service) ∧
      (s'.drain E).kernel = start.after E requests := by
  intro s start lines requests output s'
  obtain ⟨moves', accepted, answers⟩ := answerAll_spec E k moves (trimmedLines (inputLines input))
  have replies : (answerAll E s (trimmedLines (inputLines input))).1 = transcript E start lines :=
    congrArg Prod.fst answers
  have behind : s' = ((Ledger.new k).play E moves').service :=
    (serve_snd E s input).trans (congrArg Prod.snd answers)
  have drained : (s'.drain E).kernel = start.after E requests := by
    rw [behind, kernel_drain, accepted, Kernel.after_append]
  refine ⟨transcript E start lines, ?_, ?_, length_transcript E start lines, ?_,
    ⟨moves', accepted, behind⟩, drained⟩
  · rw [← replies]
    exact serve_fst E s input
  · rw [← replies]
    exact splitOn_serve E s input
  · intro i line b here replied
    rw [getElem?_transcript E start here] at replied
    cases replied
    exact answers_replyTo E _ line

end NotebookKernel.Service
