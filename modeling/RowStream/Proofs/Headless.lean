import RowStream.CommandLine
import RowStream.Proofs.Printing
import RowStream.Proofs.QueryEnding

/-!
# The verdict of a query without a terminal

What a query prints is a function of the body that was received: the headers and the rows of its
records, in their order (`printed_run_never`).  The exit code is zero for a reply without any flaw,
if also everything could be written, and only then (`verdict_of_headless`).

Framing, reading, the rule about the status and the counters of the sink each have one lemma here,
an equivalence, so that no error can get lost between them.
-/

set_option autoImplicit false

namespace RowStream

open Http (Network Reply)
open Printed (ofEvents)

/-! ## What records print -/

/-- What a record prints: its header and its rows, and nothing when it reports an error. -/
def Record.printed (record : Record) : List Printed :=
  if record.reportedError?.isSome then []
  else (record.columns.map Printed.header).toList ++ (record.rows.getD []).map .row

namespace Interpreter

theorem printed_dispatch (interpreter : Interpreter) (record : Record) :
    ofEvents (interpreter.dispatch record).2.events = record.printed := by
  rw [events_dispatch, Record.printed]
  cases error_eq : record.reportedError? with
  | some message =>
      obtain ⟨noHeading, noBatch⟩ := Record.alone_of_reported error_eq
      rw [noHeading, noBatch]
      rfl
  | none =>
      obtain ⟨heading_eq, batch_eq⟩ := Record.of_unreported error_eq
      rw [heading_eq, batch_eq]
      cases record.columns <;> cases record.rows with
      | none => rfl
      | some rows => cases rows <;> simp [ofEvents, Printed.ofEvent, announce, Option.filter]

theorem printed_interpretAll (interpreter : Interpreter) (lines : List Bytes) :
    ofEvents (interpreter.interpretAll lines).2.events =
      (lines.filterMap Record.decode?).flatMap Record.printed := by
  induction lines generalizing interpreter with
  | nil => rfl
  | cons line rest inductionHypothesis =>
      have later := inductionHypothesis (interpreter.interpret line).1
      change ofEvents ((interpreter.interpret line).2.events ++
        ((interpreter.interpret line).1.interpretAll rest).2.events) = _
      rw [Printed.ofEvents_append, later, List.filterMap_cons]
      unfold interpret
      cases Record.decode? line with
      | none => rfl
      | some record =>
          rw [List.flatMap_cons]
          exact congrArg (· ++ _) (printed_dispatch _ record)

/-! ## What records report -/

theorem messages_interpretAll (interpreter : Interpreter) (lines : List Bytes) :
    Event.messages (interpreter.interpretAll lines).2.events =
      lines.filterMap Record.reportedIn? := by
  induction lines generalizing interpreter with
  | nil => rfl
  | cons line rest inductionHypothesis =>
      have later := inductionHypothesis (interpreter.interpret line).1
      have first := interpreter.messages_interpret line
      change Event.messages ((interpreter.interpret line).2.events ++
        ((interpreter.interpret line).1.interpretAll rest).2.events) = _
      rw [Event.messages_append, first, later, List.filterMap_cons]
      cases Record.reportedIn? line <;> rfl

end Interpreter

namespace Body

open Event (messages)

/-- What a query prints that received this body. -/
def printed (limit : Nat) (body : Bytes) : List Printed :=
  ((readable limit body).filterMap Record.decode?).flatMap Record.printed

theorem printed_nil (limit : Nat) : printed limit [] = [] := by
  rw [printed, readable_unbroken limit (by simp)]
  rfl

theorem printed_told (limit : Nat) (body : Bytes) : ofEvents (told limit body) = printed limit body :=
  Interpreter.new.printed_interpretAll (readable limit body)

theorem messages_told_eq_nil_iff {limit : Nat} {body : Bytes} (fits : ¬ Overlong limit body) :
    messages (told limit body) = [] ↔ Unexplained body := by
  rw [← errorRecords_eq_zero_iff fits, told, Interpreter.messages_interpretAll,
    Interpreter.errorRecords_interpretAll, List.filterMap_eq_nil_iff]
  have fresh : Interpreter.new.stats.errorRecords = 0 := rfl
  rw [fresh, Nat.zero_add, List.countP_eq_zero]
  simp

/-! ## Lines that are no records -/

/-- The other body has more lines that are no records, and none of these is too long. -/
inductive Noisier (limit : Nat) (body : Bytes) : Bytes → Prop where
  | same : Noisier limit body body
  | line (before line after : Bytes) (earlier : Noisier limit body (before ++ after))
      (whole : remainder before = []) (unbroken : Bytes.lineFeed ∉ line)
      (fits : (withoutReturn line).length ≤ limit)
      (undecodable : Record.decode? (withoutReturn line) = none) :
      Noisier limit body (before ++ (line ++ Bytes.lineFeed :: after))

theorem lines_append {first : Bytes} (whole : remainder first = []) (second : Bytes) :
    lines (first ++ second) = lines first ++ lines second := by
  induction first using lineInduction with
  | unfinished part unbroken =>
      rw [remainder_unbroken unbroken] at whole
      have none : lines [] = [] := rfl
      rw [whole, none, List.nil_append, List.nil_append]
  | line part rest unbroken inductionHypothesis =>
      rw [remainder_cons] at whole
      rw [List.append_assoc, List.cons_append, lines_cons unbroken, lines_cons unbroken,
        inductionHypothesis whole, List.cons_append]

theorem filterMap_takeWhile_insert {α β : Type} (test : α → Bool) {read? : α → Option β}
    {item : α} (passes : test item = true) (unread : read? item = none) (first second : List α) :
    ((first ++ item :: second).takeWhile test).filterMap read? =
      ((first ++ second).takeWhile test).filterMap read? := by
  induction first with
  | nil => rw [List.nil_append, List.takeWhile_cons, if_pos passes, List.filterMap_cons, unread]; rfl
  | cons other rest inductionHypothesis =>
      rw [List.cons_append, List.cons_append, List.takeWhile_cons, List.takeWhile_cons]
      split
      · rw [List.filterMap_cons, List.filterMap_cons, inductionHypothesis]
      · rfl

theorem records_readable (limit : Nat) (body : Bytes) :
    (readable limit body).filterMap Record.decode? =
      (((lines body).map withoutReturn).takeWhile (·.length ≤ limit)).filterMap Record.decode? := by
  have blank : Record.decode? [] = none := rfl
  have same : (fun line => if decide (line ≠ []) then Record.decode? line else none) =
      Record.decode? := by
    funext line
    by_cases empty : line = []
    · simp [empty, blank]
    · simp [empty]
  rw [readable, List.filterMap_filter, same]

theorem Noisier.kept {limit : Nat} {body noisy : Bytes} (noisier : Noisier limit body noisy) :
    (Overlong limit noisy ↔ Overlong limit body) ∧ remainder noisy = remainder body ∧
      (Unexplained noisy ↔ Unexplained body) ∧ printed limit noisy = printed limit body := by
  induction noisier with
  | same => exact ⟨Iff.rfl, rfl, Iff.rfl, rfl⟩
  | line before line after earlier whole unbroken fits undecodable inductionHypothesis =>
      obtain ⟨overlong_iff, remainder_eq, unexplained_iff, printed_eq⟩ := inductionHypothesis
      -- The new line is looked at and dropped: it neither stops the reading nor is it a record.
      have short : ¬ limit < (withoutReturn line).length := by omega
      refine ⟨?_, ?_, ?_, ?_⟩
      · rw [← overlong_iff, overlong_append, overlong_append limit before after, whole,
          List.nil_append, List.nil_append, overlong_cons limit unbroken]
        simp [short]
      · rw [← remainder_eq, remainder_append, remainder_append before after, whole,
          List.nil_append, List.nil_append, remainder_cons]
      · have silent : Record.reportedIn? (withoutReturn line) = none := by
          rw [Record.reportedIn?, undecodable]
          rfl
        rw [← unexplained_iff, Unexplained, Unexplained, lines_append whole, lines_append whole,
          lines_cons unbroken]
        simp only [List.forall_mem_append, List.forall_mem_cons, silent, true_and]
      · have passes : decide ((withoutReturn line).length ≤ limit) = true := decide_eq_true fits
        rw [← printed_eq, printed, printed, records_readable, records_readable,
          lines_append whole, lines_append whole, lines_cons unbroken, List.map_append,
          List.map_cons, List.map_append]
        exact congrArg (List.flatMap Record.printed)
          (filterMap_takeWhile_insert (·.length ≤ limit) passes undecodable _ _)

end Body

/-! ## Replies -/

def Http.Exchange.received (exchange : Http.Exchange) : Bytes :=
  match exchange.result with
  | .ok reply => reply.chunks.flatten
  | .error _ => []

/-- The server succeeded and told so: the body is whole, and no line is too long or reports an
error. -/
structure Http.Reply.Flawless (limit : Nat) (reply : Reply) : Prop where
  succeeds : reply.status.isSuccess
  clean : reply.ending = .clean
  whole : Body.remainder reply.chunks.flatten = []
  fits : ¬ Body.Overlong limit reply.chunks.flatten
  unreported : Body.Unexplained reply.chunks.flatten

def Consumer.Succeeded (stream : Consumer) : Prop :=
  (∃ total, stream.outcome = some (.completed total)) ∧ Event.messages stream.sent = []

theorem Consumer.not_succeeded_of_failed {stream : Consumer}
    (failed : stream.outcome = some .failed) : ¬ stream.Succeeded := by
  rintro ⟨⟨total, completed⟩, _⟩
  cases failed.symm.trans completed

namespace QueryRun

open Body (remainder Overlong told Unexplained)
open Consumer (ofBody)
open Event (messages messages_append)

theorem endReply_of_clean {reply : Reply} (clean : reply.ending = .clean) (consumer : Consumer) :
    endReply reply consumer = endBody reply.status consumer := by
  simp only [endReply, clean]

theorem printed_endReply (reply : Reply) (limit : Nat) (body : Bytes) :
    ofEvents (endReply reply (ofBody limit body)).sent = Body.printed limit body := by
  by_cases overlong : Overlong limit body
  · rw [(endReply_of_overlong overlong reply).2, Printed.ofEvents_append, Body.printed_told]
    exact List.append_nil _
  · cases ending : reply.ending with
    | cut =>
        rw [(endReply_of_cut overlong ending).2, Printed.ofEvents_append, Body.printed_told]
        exact List.append_nil _
    | clean =>
        have status : ofEvents (statusReport reply.status body) = [] := by
          unfold statusReport
          split <;> rfl
        have truncation : ofEvents (truncationReport body) = [] := by
          unfold truncationReport
          split <;> rfl
        rw [endReply_of_clean ending, (endBody_ofBody overlong reply.status).1,
          Printed.ofEvents_append, Printed.ofEvents_append, Printed.ofEvents_append,
          Body.printed_told, status, truncation, List.append_nil, List.append_nil]
        exact List.append_nil _

theorem printed_run_never (client : Client) (network : Network) (banquetUrl : String) :
    ofEvents (run client network banquetUrl .never).consumer.sent =
      Body.printed client.lineLimit (network.send (client.queryRequest banquetUrl)).received := by
  cases answer : (network.send (client.queryRequest banquetUrl)).result with
  | error error =>
      have fresh : (Consumer.new client.lineLimit).outcome = none := rfl
      rw [run_of_error rfl answer, Consumer.sent_fail fresh, Http.Exchange.received, answer,
        Body.printed_nil]
      rfl
  | ok reply =>
      rw [run_never_of_reply answer, printed_endReply, Http.Exchange.received, answer]

theorem messages_endBody_eq_nil_iff {reply : Reply} {limit : Nat}
    (fits : ¬ Overlong limit reply.chunks.flatten) (clean : reply.ending = .clean) :
    messages (endBody reply.status (ofBody limit reply.chunks.flatten)).sent = [] ↔
      reply.Flawless limit := by
  have status : messages (statusReport reply.status reply.chunks.flatten) = [] ↔
      ¬ (reply.status.isSuccess = false ∧ Unexplained reply.chunks.flatten) := by
    unfold statusReport
    split
    · rename_i unexplained
      simp [messages, Event.message?, unexplained]
    · rename_i explained
      simp [messages, explained]
  have truncation : messages (truncationReport reply.chunks.flatten) = [] ↔
      remainder reply.chunks.flatten = [] := by
    unfold truncationReport
    split
    · rename_i whole
      simp [messages, whole]
    · rename_i rest
      simp [messages, Event.truncated, Event.message?, rest]
  have complete : ∀ total, messages [.complete total] = [] := fun _ => rfl
  rw [(endBody_ofBody fits reply.status).1, messages_append, messages_append, messages_append,
    complete, List.append_nil, List.append_eq_nil_iff, List.append_eq_nil_iff,
    Body.messages_told_eq_nil_iff fits, status, truncation]
  constructor
  · rintro ⟨⟨unreported, explained⟩, whole⟩
    have succeeds : reply.status.isSuccess := by
      cases success : reply.status.isSuccess with
      | true => rfl
      | false => exact absurd ⟨success, unreported⟩ explained
    exact ⟨succeeds, clean, whole, fits, unreported⟩
  · intro flawless
    refine ⟨⟨flawless.unreported, ?_⟩, flawless.whole⟩
    rintro ⟨failure, _⟩
    cases failure.symm.trans flawless.succeeds

theorem succeeded_endReply_iff (reply : Reply) (limit : Nat) :
    (endReply reply (ofBody limit reply.chunks.flatten)).Succeeded ↔ reply.Flawless limit := by
  by_cases overlong : Overlong limit reply.chunks.flatten
  · -- A line that is too long makes the stream fail, and the reply has that flaw.
    have failed := (endReply_of_overlong overlong reply).1
    exact iff_of_false (Consumer.not_succeeded_of_failed failed) fun flawless =>
      flawless.fits overlong
  · cases ending : reply.ending with
    | cut =>
        have failed := (endReply_of_cut overlong ending).1
        refine iff_of_false (Consumer.not_succeeded_of_failed failed) fun flawless => ?_
        cases ending.symm.trans flawless.clean
    | clean =>
        rw [endReply_of_clean ending, Consumer.Succeeded,
          messages_endBody_eq_nil_iff overlong ending]
        constructor
        · exact And.right
        · intro flawless
          exact ⟨⟨_, (endBody_ofBody overlong reply.status).2⟩, flawless⟩

theorem succeeded_run_never_iff (client : Client) (network : Network) (banquetUrl : String) :
    (run client network banquetUrl .never).consumer.Succeeded ↔
      ∃ reply, (network.send (client.queryRequest banquetUrl)).result = .ok reply ∧
        reply.Flawless client.lineLimit := by
  cases answer : (network.send (client.queryRequest banquetUrl)).result with
  | error error =>
      have fresh : (Consumer.new client.lineLimit).outcome = none := rfl
      have failed : (run client network banquetUrl .never).consumer.outcome = some .failed := by
        rw [run_of_error rfl answer, Consumer.outcome_fail fresh]
      refine iff_of_false (Consumer.not_succeeded_of_failed failed) ?_
      rintro ⟨reply, answered, _⟩
      cases answered
  | ok reply =>
      rw [run_never_of_reply answer, succeeded_endReply_iff]
      constructor
      · intro flawless
        exact ⟨reply, rfl, flawless⟩
      · rintro ⟨other, same, flawless⟩
        cases same
        exact flawless

end QueryRun

/-! ## The exit code -/

namespace Invocation

open Event (messages)

def sinkOf (stream : Consumer) (writer : LineWriter) : TsvSink :=
  stream.sent.foldl TsvSink.handle (TsvSink.new writer)

theorem runHeadless_eq (client : Client) (banquetUrl : String) (network : Network)
    (writer : LineWriter) :
    let query := QueryRun.run client network banquetUrl .never
    let sink := sinkOf query.consumer writer
    let transcript := runHeadless client banquetUrl network writer
    transcript.output = sink.writer.text ∧
      (transcript.exitCode = 0 ↔ verdict query.consumer.outcome sink = .ok ()) ∧
      transcript.seen = query.seen := by
  intro query sink transcript
  have sink_eq : query.consumer.events.foldl TsvSink.handle (TsvSink.new writer) = sink :=
    (Array.foldl_toList _).symm
  change (runHeadless client banquetUrl network writer).output = _ ∧
    ((runHeadless client banquetUrl network writer).exitCode = 0 ↔ _) ∧
    (runHeadless client banquetUrl network writer).seen = _
  simp only [runHeadless]
  rw [sink_eq]
  cases judged : verdict query.consumer.outcome sink with
  | ok => exact ⟨rfl, by simp, rfl⟩
  | error failure => exact ⟨rfl, by simp, rfl⟩

theorem verdict_eq_ok_iff (outcome : Option Outcome) (sink : TsvSink) :
    verdict outcome sink = .ok () ↔
      sink.writeErrors = 0 ∧ (∃ total, outcome = some (.completed total)) ∧ sink.errors = 0 := by
  unfold verdict
  by_cases unwritten : 0 < sink.writeErrors
  · rw [if_pos unwritten]
    constructor
    · intro accepted
      cases accepted
    · rintro ⟨written, _⟩
      omega
  · rw [if_neg unwritten]
    have written : sink.writeErrors = 0 := by omega
    rcases outcome with _ | total | _ | _
    · simp
    · by_cases silent : sink.errors = 0
      · simp [silent, written]
      · simp [silent]
    · simp
    · simp

theorem sinkOf_spec (stream : Consumer) (writer : LineWriter) :
    let lines := (ofEvents stream.sent).map Printed.line
    (sinkOf stream writer).writer = writer.writeAll lines ∧
      (sinkOf stream writer).errors = (messages stream.sent).length ∧
      (sinkOf stream writer).writeErrors = writer.refusals lines +
        if writer.flushes then 0 else stream.sent.countP Event.isComplete := by
  intro lines
  have errors_eq := TsvSink.errors_foldl_handle stream.sent (TsvSink.new writer)
  have writeErrors_eq := TsvSink.writeErrors_foldl_handle stream.sent (TsvSink.new writer)
  have fresh : (TsvSink.new writer).errors = 0 ∧ (TsvSink.new writer).writeErrors = 0 := ⟨rfl, rfl⟩
  rw [fresh.1, Nat.zero_add] at errors_eq
  rw [fresh.2, Nat.zero_add] at writeErrors_eq
  exact ⟨TsvSink.writer_foldl_handle stream.sent (TsvSink.new writer), errors_eq, writeErrors_eq⟩

theorem completions_of_completed {client : Client} {network : Network} {banquetUrl : String}
    {total : Nat}
    (completed : (QueryRun.run client network banquetUrl .never).consumer.outcome =
      some (.completed total)) :
    0 < (QueryRun.run client network banquetUrl .never).consumer.sent.countP Event.isComplete := by
  cases QueryRun.ends_run_never client network banquetUrl with
  | completes earlier counted _ _ sent_eq =>
      rw [sent_eq, List.countP_append]
      simp [Event.isComplete]
  | fails _ _ outcome_eq _ _ => cases outcome_eq.symm.trans completed

theorem runHeadless_spec (client : Client) (banquetUrl : String) (network : Network)
    {writer : LineWriter} (fresh : writer.lines = #[]) :
    let exchange := network.send (client.queryRequest banquetUrl)
    let printed := Body.printed client.lineLimit exchange.received
    let transcript := runHeadless client banquetUrl network writer
    (transcript.exitCode = 0 ↔
      (∃ reply, exchange.result = .ok reply ∧ reply.Flawless client.lineLimit) ∧
        writer.Accepts (printed.map Printed.line) ∧ writer.flushes) ∧
    (writer.Accepts (printed.map Printed.line) → transcript.output = Printed.text printed) := by
  intro exchange printed transcript
  let stream := (QueryRun.run client network banquetUrl .never).consumer
  obtain ⟨output_eq, exitCode_iff, _⟩ := runHeadless_eq client banquetUrl network writer
  obtain ⟨writer_eq, errors_eq, writeErrors_eq⟩ := sinkOf_spec stream writer
  have printed_eq : ofEvents stream.sent = printed :=
    QueryRun.printed_run_never client network banquetUrl
  rw [printed_eq] at writer_eq writeErrors_eq
  refine ⟨?_, ?_⟩
  · rw [exitCode_iff, verdict_eq_ok_iff, ← QueryRun.succeeded_run_never_iff]
    change (sinkOf stream writer).writeErrors = 0 ∧ _ ∧ (sinkOf stream writer).errors = 0 ↔ _
    rw [writeErrors_eq, errors_eq, List.length_eq_zero_iff, Nat.add_eq_zero_iff]
    constructor
    · rintro ⟨⟨accepts, flushed⟩, ⟨total, completed⟩, silent⟩
      have once := completions_of_completed completed
      refine ⟨⟨⟨total, completed⟩, silent⟩, accepts, ?_⟩
      cases flushes : writer.flushes with
      | true => rfl
      | false =>
          rw [flushes, if_neg Bool.false_ne_true] at flushed
          change 0 < stream.sent.countP Event.isComplete at once
          omega
    · rintro ⟨⟨completed, silent⟩, accepts, flushes⟩
      exact ⟨⟨accepts, if_pos flushes⟩, completed, silent⟩
  · intro accepts
    rw [output_eq]
    change (sinkOf stream writer).writer.text = _
    rw [writer_eq]
    exact Printed.text_writeAll fresh accepts

theorem exitCode_runHeadless_le (client : Client) (banquetUrl : String) (network : Network)
    (writer : LineWriter) : (runHeadless client banquetUrl network writer).exitCode ≤ 1 := by
  simp only [runHeadless]
  split
  · exact Nat.zero_le 1
  · exact Nat.le_refl 1

/-- A call that streams a query exits with zero when the reply has no flaw and everything could be
written, and only then.  It prints what the body says, and lines that are no records do not change
how it exits. -/
theorem verdict_of_headless {words : List String} {environment : Environment} {client : Client}
    {banquetUrl : String}
    (planned : plan words environment = .ok (.headless client banquetUrl)) (network : Network)
    {writer : LineWriter} (fresh : writer.lines = #[]) :
    let exchange := network.send (client.queryRequest banquetUrl)
    let printed := Body.printed client.lineLimit exchange.received
    ∃ transcript, RowStream.transcript? words environment network writer = some transcript ∧
      (transcript.exitCode = 0 ↔
        (∃ reply, exchange.result = .ok reply ∧ reply.Flawless client.lineLimit) ∧
          writer.Accepts (printed.map Printed.line) ∧ writer.flushes) ∧
      (writer.Accepts (printed.map Printed.line) → transcript.output = Printed.text printed) ∧
      ∀ (other : Network) (reply noisy : Reply), exchange.result = .ok reply →
        (other.send (client.queryRequest banquetUrl)).result = .ok noisy →
        noisy.status = reply.status → noisy.ending = reply.ending →
        Body.Noisier client.lineLimit reply.chunks.flatten noisy.chunks.flatten →
        ∃ same, RowStream.transcript? words environment other writer = some same ∧
          same.exitCode = transcript.exitCode := by
  intro exchange printed
  have call : ∀ network, RowStream.transcript? words environment network writer =
      some (runHeadless client banquetUrl network writer) := by
    intro network
    rw [RowStream.transcript?, planned]
    rfl
  obtain ⟨exitCode_iff, output_eq⟩ := runHeadless_spec client banquetUrl network fresh
  refine ⟨_, call network, exitCode_iff, output_eq, ?_⟩
  intro other reply noisy answered noisyAnswered status_eq ending_eq noisier
  refine ⟨_, call other, ?_⟩
  obtain ⟨overlong_iff, remainder_eq, unexplained_iff, printed_eq⟩ := noisier.kept
  have flawless_iff : noisy.Flawless client.lineLimit ↔ reply.Flawless client.lineLimit := by
    constructor
    · intro flawless
      exact ⟨status_eq ▸ flawless.succeeds, ending_eq ▸ flawless.clean,
        remainder_eq ▸ flawless.whole, mt overlong_iff.mpr flawless.fits,
        unexplained_iff.mp flawless.unreported⟩
    · intro flawless
      exact ⟨status_eq ▸ flawless.succeeds, ending_eq ▸ flawless.clean,
        remainder_eq ▸ flawless.whole, mt overlong_iff.mp flawless.fits,
        unexplained_iff.mpr flawless.unreported⟩
  have agree : (runHeadless client banquetUrl other writer).exitCode = 0 ↔
      (runHeadless client banquetUrl network writer).exitCode = 0 := by
    rw [(runHeadless_spec client banquetUrl other fresh).1, exitCode_iff]
    simp only [exchange, answered, noisyAnswered, Http.Exchange.received, printed_eq,
      Except.ok.injEq, exists_eq_left', flawless_iff]
  have first := exitCode_runHeadless_le client banquetUrl other writer
  have second := exitCode_runHeadless_le client banquetUrl network writer
  omega

end Invocation

namespace Sample

def environment : Environment := { value? := fun _ => none, file? := fun _ => none }

def loopback : Client := { base := loopbackUrl fallbackPort, lineLimit := defaultLineLimit }

end Sample

/-- A line that is no record comes first, and the writer has room for two lines only. -/
theorem Invocation.verdict_of_headless_noisy :
    let words := ["--headless", "a.sqlite/t"]
    let body := "?\n\x7b\"columns\":[[\"id\",\"T\"]]\x7d\n\x7b\"rows\":[[\"a\"]]\x7d\n"
    let writer : LineWriter := { capacity := some 2, flushes := true, lines := #[] }
    plan words Sample.environment = .ok (.headless Sample.loopback "a.sqlite/t") ∧
      writer.lines = #[] ∧
      ∃ transcript, RowStream.transcript? words Sample.environment (Sample.answering body) writer =
          some transcript ∧
        transcript.exitCode = 0 ∧ transcript.output = "id\na\n" := by
  intro words body writer
  have planned : plan words Sample.environment = .ok (.headless Sample.loopback "a.sqlite/t") := rfl
  have fresh : writer.lines = #[] := rfl
  obtain ⟨transcript, call, exitCode_iff, output_eq, _⟩ :=
    verdict_of_headless planned (Sample.answering body) fresh
  have flawless : Reply.Flawless Sample.loopback.lineLimit
      { status := .ok, chunks := [Bytes.ofText body], ending := .clean } :=
    ⟨rfl, rfl, by decide, by decide, by decide⟩
  have accepts : writer.Accepts
      ((Body.printed Sample.loopback.lineLimit (Bytes.ofText body)).map Printed.line) := by decide
  have text : Printed.text (Body.printed Sample.loopback.lineLimit (Bytes.ofText body)) =
      "id\na\n" := by decide
  exact ⟨planned, fresh, transcript, call, exitCode_iff.mpr ⟨⟨_, rfl, flawless⟩, accepts, rfl⟩,
    (output_eq accepts).trans text⟩

end RowStream
