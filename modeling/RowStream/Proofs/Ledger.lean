import Mathlib.Algebra.GroupWithZero.Nat
import RowStream.Proofs.Accounting

/-!
# What was sent and what was counted

Whatever is done with a stream, and in whatever order, its counters account for the events that it
sent.  `Balanced` is that account.  Every line keeps it, hence every operation on an open stream
does, and an operation on a stream that has ended is not counted.  Errors that the server did not
report and that did not end the stream are `others`: the operations are asked for them one by one,
each with the stream as it finds it (`Operation.tally`).
-/

set_option autoImplicit false

namespace RowStream

namespace Event

def batch? : Event → Option (List Row)
  | .rows batch => some batch
  | _ => none

def batches (events : List Event) : List (List Row) := events.filterMap batch?

theorem batches_append (first second : List Event) :
    batches (first ++ second) = batches first ++ batches second :=
  List.filterMap_append

theorem length_allRows (events : List Event) :
    (allRows events).length = ((batches events).map List.length).sum := by
  induction events with
  | nil => rfl
  | cons event rest inductionHypothesis =>
      have first : allRows (event :: rest) = event.rowsOf ++ allRows rest := rfl
      rw [first, List.length_append, inductionHypothesis]
      cases event with
      | rows batch => exact (List.sum_cons).symm
      | header | error | complete => exact Nat.zero_add _

end Event

open Event (messages batches allRows)

/-! ## Lines -/

namespace Interpreter

theorem lines_interpret (interpreter : Interpreter) (line : Bytes) :
    (interpreter.interpret line).1.stats.frames = interpreter.stats.frames + 1 ∧
      (interpreter.interpret line).1.stats.records +
          (interpreter.interpret line).1.stats.decodeFailures =
        interpreter.stats.records + interpreter.stats.decodeFailures + 1 := by
  rw [stats_interpret]
  refine ⟨rfl, ?_⟩
  simp only [Stats.add, Stats.ofLine]
  split <;> omega

theorem batches_interpret (interpreter : Interpreter) (line : Bytes) :
    batches (interpreter.interpret line).2.events = (Record.batchIn? line).toList := by
  rw [events_interpret, Event.batches_append, Event.batches_append]
  cases Record.reportedIn? line <;> cases Record.headingIn? line <;>
    cases Record.batchIn? line <;> rfl

theorem anyHeader_interpret (interpreter : Interpreter) (line : Bytes) :
    ((interpreter.interpret line).2.events.any fun event => event.header?.isSome) =
      (Record.headingIn? line).isSome := by
  rw [events_interpret, List.any_append, List.any_append]
  cases Record.reportedIn? line <;> cases Record.headingIn? line <;>
    cases Record.batchIn? line <;> rfl

end Interpreter

theorem Record.ne_nil_of_batchIn {line : Bytes} {batch : List Row}
    (held : batchIn? line = some batch) : batch ≠ [] := by
  obtain ⟨record, _, batch_eq⟩ := Option.bind_eq_some_iff.mp held
  unfold batch? at batch_eq
  split at batch_eq
  · cases batch_eq
  · intro empty
    rw [empty] at batch_eq
    simp at batch_eq

namespace Consumer

/-! ## The account -/

def failures (consumer : Consumer) : Nat := if consumer.outcome = some .failed then 1 else 0

theorem failures_of_open {consumer : Consumer} (isOpen : consumer.outcome = none) :
    consumer.failures = 0 := by
  simp [failures, isOpen]

/-- The counters account for the events, `others` of which are errors that are counted nowhere. -/
structure Balanced (others : Nat) (consumer : Consumer) : Prop where
  lines : consumer.stats.frames = consumer.stats.records + consumer.stats.decodeFailures
  filled : ∀ batch ∈ batches consumer.sent, batch ≠ []
  header : consumer.headerSeen = consumer.sent.any fun event => event.header?.isSome
  errors : (messages consumer.sent).length =
    consumer.stats.errorRecords + others + consumer.failures

theorem balanced_new (limit : Nat) : Balanced 0 (new limit) where
  lines := rfl
  filled := fun _ member => nomatch member
  header := rfl
  errors := rfl

theorem Balanced.extend {others added : Nat} {consumer next : Consumer}
    (balanced : Balanced others consumer) {more : List Event}
    (sent_eq : next.sent = consumer.sent ++ more)
    (lines : next.stats.frames = next.stats.records + next.stats.decodeFailures)
    (filled : ∀ batch ∈ batches more, batch ≠ [])
    (header : next.headerSeen =
      (consumer.headerSeen || more.any fun event => event.header?.isSome))
    (errors : next.stats.errorRecords + added + next.failures =
      consumer.stats.errorRecords + consumer.failures + (messages more).length) :
    Balanced (others + added) next where
  lines := lines
  filled := by
    intro batch member
    rw [sent_eq, Event.batches_append] at member
    rcases List.mem_append.mp member with earlier | now
    · exact balanced.filled batch earlier
    · exact filled batch now
  header := by rw [header, sent_eq, List.any_append, balanced.header]
  errors := by
    have before := balanced.errors
    rw [sent_eq, Event.messages_append, List.length_append]
    omega

theorem Balanced.interpretLine {others : Nat} {consumer : Consumer}
    (balanced : Balanced others consumer) (line : Bytes) :
    Balanced others (consumer.interpretLine line) := by
  have counted := consumer.interpreter.errorRecords_interpret line
  have reported : (messages (consumer.interpreter.interpret line).2.events).length =
      if (Record.reportedIn? line).isSome then 1 else 0 := by
    rw [Interpreter.messages_interpret]
    cases Record.reportedIn? line <;> rfl
  change Balanced (others + 0) _
  refine balanced.extend (sent_interpretLine consumer line) ?_ ?_ ?_ ?_
  · obtain ⟨counted, parted⟩ := consumer.interpreter.lines_interpret line
    have before : consumer.interpreter.stats.frames = consumer.interpreter.stats.records +
        consumer.interpreter.stats.decodeFailures := balanced.lines
    rw [← before, ← counted] at parted
    exact parted.symm
  · intro batch member
    rw [Interpreter.batches_interpret] at member
    exact Record.ne_nil_of_batchIn (Option.mem_toList.mp member)
  · rw [Interpreter.anyHeader_interpret]
    exact (consumer.interpreter.headers_interpret line).1
  · change (consumer.interpreter.interpret line).1.stats.errorRecords + 0 + consumer.failures =
      consumer.interpreter.stats.errorRecords + consumer.failures + _
    omega

theorem Balanced.foldl_interpretLine {others : Nat} {consumer : Consumer}
    (balanced : Balanced others consumer) (lines : List Bytes) :
    Balanced others (lines.foldl Consumer.interpretLine consumer) :=
  List.foldlRecOn lines Consumer.interpretLine balanced
    fun _ balanced line _ => balanced.interpretLine line

theorem Balanced.log {others : Nat} {consumer : Consumer} (balanced : Balanced others consumer)
    (notice : Notice) : Balanced others (consumer.log notice) :=
  ⟨balanced.lines, balanced.filled, balanced.header, balanced.errors⟩

theorem Balanced.withDecoder {others : Nat} {consumer : Consumer}
    (balanced : Balanced others consumer) (decoder : FrameDecoder) :
    Balanced others (consumer.withDecoder decoder) :=
  ⟨balanced.lines, balanced.filled, balanced.header, balanced.errors⟩

theorem Balanced.tell {others added : Nat} {consumer next : Consumer}
    (balanced : Balanced others consumer) {event : Event}
    (sent_eq : next.sent = consumer.sent ++ [event])
    (interpreter_eq : next.interpreter = consumer.interpreter)
    (batchless : event.batch? = none) (headless : event.header? = none)
    (errors : added + next.failures = consumer.failures + (messages [event]).length) :
    Balanced (others + added) next := by
  have stats_eq : next.stats = consumer.stats := congrArg Interpreter.stats interpreter_eq
  have headerSeen_eq : next.headerSeen = consumer.headerSeen :=
    congrArg Interpreter.headerSeen interpreter_eq
  refine balanced.extend sent_eq ?_ ?_ ?_ ?_
  · rw [stats_eq]
    exact balanced.lines
  · simp [batches, batchless]
  · simp [headerSeen_eq, headless]
  · rw [stats_eq]
    omega

theorem Balanced.sendError {others : Nat} {consumer : Consumer}
    (balanced : Balanced others consumer) (message : String) :
    Balanced (others + 1) (consumer.send (.error message)) := by
  refine balanced.tell (sent_send consumer _) rfl rfl rfl ?_
  exact Nat.add_comm 1 consumer.failures

theorem Balanced.failWith {others : Nat} {consumer : Consumer}
    (balanced : Balanced others consumer) (isOpen : consumer.outcome = none) (message : String) :
    Balanced others (consumer.failWith message) := by
  change Balanced (others + 0) _
  refine balanced.tell (sent_failWith consumer _) rfl rfl rfl ?_
  rw [failures_of_open isOpen]
  rfl

theorem Balanced.complete {others total : Nat} {consumer : Consumer}
    (balanced : Balanced others consumer) (isOpen : consumer.outcome = none) :
    Balanced others ((consumer.settle (.completed total)).send (.complete total)) := by
  change Balanced (others + 0) _
  refine balanced.tell (sent_send _ _) rfl rfl rfl ?_
  rw [failures_of_open isOpen]
  rfl

theorem Balanced.cancel {others : Nat} {consumer : Consumer} (balanced : Balanced others consumer)
    (isOpen : consumer.outcome = none) : Balanced others (consumer.settle .cancelled) where
  lines := balanced.lines
  filled := balanced.filled
  header := balanced.header
  errors := by
    have before := balanced.errors
    rw [failures_of_open isOpen] at before
    exact before

/-! ## Operations -/

namespace Operation

/-- Adds up what each operation is worth to the stream as it finds it. -/
def tally (worth : Consumer → Operation → Nat) : Consumer → List Operation → Nat
  | _, [] => 0
  | consumer, operation :: rest =>
      worth consumer operation + tally worth (operation.apply consumer) rest

def reports (consumer : Consumer) : Operation → Nat
  | .report _ => if consumer.isTerminated then 0 else 1
  | _ => 0

def discards (consumer : Consumer) : Operation → Nat
  | .finish => if consumer.isTerminated || consumer.buffered = 0 then 0 else 1
  | _ => 0

/-- Errors that no counter of the stream counts. -/
def uncounted (consumer : Consumer) (operation : Operation) : Nat :=
  reports consumer operation + discards consumer operation

theorem tally_uncounted (consumer : Consumer) (operations : List Operation) :
    tally uncounted consumer operations =
      tally reports consumer operations + tally discards consumer operations := by
  induction operations generalizing consumer with
  | nil => rfl
  | cons operation rest inductionHypothesis =>
      rw [tally, tally, tally, inductionHypothesis, uncounted]
      omega

theorem uncounted_finish {consumer : Consumer} (isOpen : consumer.outcome = none) :
    uncounted consumer .finish = if consumer.buffered = 0 then 0 else 1 := by
  simp [uncounted, reports, discards, isTerminated, isOpen]

theorem uncounted_report {consumer : Consumer} (isOpen : consumer.outcome = none)
    (message : String) : uncounted consumer (.report message) = 1 := by
  simp [uncounted, reports, discards, isTerminated, isOpen]

theorem uncounted_of_ended {consumer : Consumer} (ended : consumer.outcome.isSome)
    (operation : Operation) : uncounted consumer operation = 0 := by
  cases operation <;> simp [uncounted, reports, discards, isTerminated, ended]

theorem tally_uncounted_of_ended {consumer : Consumer} (ended : consumer.outcome.isSome)
    (operations : List Operation) : tally uncounted consumer operations = 0 := by
  induction operations with
  | nil => rfl
  | cons operation rest inductionHypothesis =>
      rw [tally, uncounted_of_ended ended, apply_of_ended ended, inductionHypothesis]

theorem tally_discards_le (consumer : Consumer) (operations : List Operation) :
    tally discards consumer operations ≤ 1 := by
  induction operations generalizing consumer with
  | nil => exact Nat.zero_le 1
  | cons operation rest inductionHypothesis =>
      have later := inductionHypothesis (operation.apply consumer)
      cases operation with
      | finish =>
          have ended : (finish.apply consumer).outcome.isSome := by
            cases outcome_eq : consumer.outcome with
            | none =>
                rw [apply, finish_of_open outcome_eq]
                rfl
            | some outcome =>
                rw [apply_of_ended (by rw [outcome_eq]; rfl), outcome_eq]
                rfl
          have nothing := tally_uncounted_of_ended ended rest
          rw [tally_uncounted] at nothing
          rw [tally, discards]
          split <;> omega
      | feed | fail | report | cancel =>
          change 0 + tally discards _ rest ≤ 1
          omega

end Operation

open Operation (tally reports discards uncounted)

def acceptedReports (limit : Nat) (operations : List Operation) : Nat :=
  tally reports (new limit) operations

def discardedLines (limit : Nat) (operations : List Operation) : Nat :=
  tally discards (new limit) operations

theorem Balanced.feed {others limit : Nat} {consumer : Consumer}
    (balanced : Balanced others consumer) (isOpen : consumer.Open limit) (chunk : Bytes) :
    Balanced others (consumer.feed chunk) := by
  have counted := balanced.foldl_interpretLine (consumer.completed chunk)
  obtain ⟨goesOn, fed | fed⟩ := isOpen.feed_cases chunk
  · rw [fed]
    exact counted.withDecoder _
  · rw [fed]
    exact ((counted.log _).failWith goesOn _).withDecoder _

theorem Balanced.finish {others limit : Nat} {consumer : Consumer}
    (balanced : Balanced others consumer) (isOpen : consumer.Open limit) :
    Balanced (others + uncounted consumer .finish) consumer.finish := by
  have reported : Balanced (others + uncounted consumer .finish) consumer.reportTruncation := by
    rw [Operation.uncounted_finish isOpen.outcome_eq, reportTruncation,
      FrameDecoder.finish_of_sound isOpen.sound, buffered]
    split
    · exact balanced
    · exact (balanced.log _).sendError _
  rw [finish_of_open isOpen.outcome_eq]
  exact reported.complete ((outcome_reportTruncation consumer).trans isOpen.outcome_eq)

theorem Balanced.apply {others limit : Nat} {consumer : Consumer}
    (balanced : Balanced others consumer) (isOpen : consumer.Open limit) (operation : Operation) :
    Balanced (others + uncounted consumer operation) (operation.apply consumer) := by
  have outcome_eq := isOpen.outcome_eq
  cases operation with
  | feed chunk => exact balanced.feed isOpen chunk
  | finish => exact balanced.finish isOpen
  | fail message =>
      rw [Operation.apply, fail_of_open outcome_eq]
      exact (balanced.log _).failWith outcome_eq message
  | report message =>
      rw [Operation.apply, report_of_open outcome_eq, Operation.uncounted_report outcome_eq]
      exact (balanced.log _).sendError message
  | cancel =>
      rw [Operation.apply, cancel_of_open outcome_eq]
      exact balanced.cancel outcome_eq

theorem Balanced.foldl_apply {others limit : Nat} {consumer : Consumer}
    (balanced : Balanced others consumer) (isOpen : consumer.Open limit)
    (operations : List Operation) :
    Balanced (others + tally uncounted consumer operations)
      (operations.foldl Operation.apply consumer) := by
  induction operations generalizing others consumer with
  | nil => exact balanced
  | cons operation rest inductionHypothesis =>
      have next := balanced.apply isOpen operation
      rw [List.foldl_cons, tally, ← Nat.add_assoc]
      rcases isOpen.apply operation with stillOpen | ended
      · exact inductionHypothesis next stillOpen
      · rw [foldl_apply_of_ended ended, Operation.tally_uncounted_of_ended ended]
        exact next

theorem balanced_run (limit : Nat) (operations : List Operation) :
    Balanced (acceptedReports limit operations + discardedLines limit operations)
      (run limit operations) := by
  have total := (balanced_new limit).foldl_apply (open_new limit) operations
  rw [Nat.zero_add, Operation.tally_uncounted] at total
  exact total

theorem total_of_sent {limit total : Nat} {operations : List Operation}
    (member : .complete total ∈ (run limit operations).sent) :
    total = (run limit operations).stats.rows := by
  cases outcome_eq : (run limit operations).outcome with
  | none => cases (open_run_of_outcome outcome_eq).incomplete _ member
  | some outcome =>
      obtain ⟨before, _, _, _, wasOpen, _, advanced⟩ := exists_ending outcome_eq
      cases advanced with
      | goesOn isOpen => cases isOpen.incomplete _ member
      | completes _ earlier incomplete sent_eq =>
          rw [sent_eq] at member
          rcases List.mem_append.mp member with inEarlier | last
          · cases incomplete _ inEarlier
          · cases List.mem_singleton.mp last
            rfl
      | fails _ _ _ earlier incomplete sent_eq =>
          rw [sent_eq] at member
          rcases List.mem_append.mp member with inEarlier | last
          · cases incomplete _ inEarlier
          · cases List.mem_singleton.mp last
      | cancels _ _ sent_eq =>
          rw [sent_eq] at member
          cases (open_run_of_outcome wasOpen).incomplete _ member

/-- After any operations in any order, the counters account for the events. -/
theorem run_balanced (limit : Nat) (operations : List Operation) :
    let stream := run limit operations
    stream.stats.frames = stream.stats.records + stream.stats.decodeFailures ∧
      stream.stats.rows = stream.rowsSeen ∧
      stream.rowsSeen = ((batches stream.sent).map List.length).sum ∧
      (∀ batch, .rows batch ∈ stream.sent → batch ≠ []) ∧
      (stream.headerSeen = true ↔ ∃ columns total, .header columns total ∈ stream.sent) ∧
      (messages stream.sent).length =
        stream.stats.errorRecords + acceptedReports limit operations +
          discardedLines limit operations +
          (if stream.outcome = some .failed then 1 else 0) ∧
      discardedLines limit operations ≤ 1 ∧
      ∀ total, .complete total ∈ stream.sent → total = stream.stats.rows := by
  intro stream
  have balanced := balanced_run limit operations
  refine ⟨balanced.lines, rfl, ?_, ?_, ?_, ?_, ?_, ?_⟩
  · rw [← Event.length_allRows]
    exact tallied_run limit operations
  · intro batch member
    exact balanced.filled batch (List.mem_filterMap.mpr ⟨.rows batch, member, rfl⟩)
  · rw [balanced.header, List.any_eq_true]
    constructor
    · rintro ⟨event, member, isHeader⟩
      cases event with
      | header columns total => exact ⟨columns, total, member⟩
      | rows | error | complete => cases isHeader
    · rintro ⟨columns, total, member⟩
      exact ⟨.header columns total, member, rfl⟩
  · have errors := balanced.errors
    rw [← Nat.add_assoc] at errors
    exact errors
  · exact Operation.tally_discards_le (new limit) operations
  · intro total member
    exact total_of_sent member

end Consumer

end RowStream
