import RowStream.Proofs.Ledger

/-!
# What goes to the log

Two warnings are about headers.  Rows that come before any header are noticed once, at the first
batch, and every header behind the first one is noticed.  Which of them were logged can be read off
the events that were sent (`Noticed`): the two flags of an interpreter are what it remembers of
those.  All other warnings are due to one line or to one operation, one each (`warningsDue`), and
the only entry of a higher level is the one of a stream that fails.
-/

set_option autoImplicit false

namespace RowStream

namespace Event

def opensWithRows : List Event → Bool
  | [] => false
  | .rows _ :: _ => true
  | .header _ _ :: _ => false
  | .error _ :: rest => opensWithRows rest
  | .complete _ :: rest => opensWithRows rest

theorem opensWithRows_iff (events : List Event) :
    opensWithRows events = true ↔ ∃ before batch after, events = before ++ .rows batch :: after ∧
      ∀ event ∈ before, event.header? = none ∧ event.batch? = none := by
  induction events with
  | nil => simp [opensWithRows]
  | cons event rest inductionHypothesis =>
      have skip : event.header? = none → event.batch? = none →
          ((∃ before batch after, rest = before ++ .rows batch :: after ∧
              ∀ other ∈ before, other.header? = none ∧ other.batch? = none) ↔
            ∃ before batch after, event :: rest = before ++ .rows batch :: after ∧
              ∀ other ∈ before, other.header? = none ∧ other.batch? = none) := by
        intro headless batchless
        constructor
        · rintro ⟨before, batch, after, rfl, quiet⟩
          exact ⟨event :: before, batch, after, rfl, by simpa [headless, batchless] using quiet⟩
        · rintro ⟨before, batch, after, shape, quiet⟩
          cases before with
          | nil =>
              cases shape
              cases batchless
          | cons first others =>
              cases shape
              exact ⟨others, batch, after, rfl, fun other member =>
                quiet other (List.mem_cons_of_mem _ member)⟩
      cases event with
      | rows batch => exact iff_of_true rfl ⟨[], batch, rest, rfl, by simp⟩
      | header columns total =>
          refine iff_of_false Bool.false_ne_true ?_
          rintro ⟨before, batch, after, shape, quiet⟩
          cases before with
          | nil => cases shape
          | cons first others =>
              cases shape
              cases (quiet _ List.mem_cons_self).1
      | error message => exact inductionHypothesis.trans (skip rfl rfl)
      | complete total => exact inductionHypothesis.trans (skip rfl rfl)

theorem opensWithRows_append (first second : List Event) :
    opensWithRows (first ++ second) =
      (opensWithRows first ||
        (!(first.any fun event => event.header?.isSome) && opensWithRows second)) := by
  induction first with
  | nil => simp [opensWithRows]
  | cons event rest inductionHypothesis =>
      cases event <;> simp [opensWithRows, header?, inductionHypothesis]

end Event

open Event (opensWithRows)
open Record (headingIn? batchIn? reportedIn?)

namespace Notice

/-- A warning that is not about headers. -/
def isFurther (notice : Notice) : Bool :=
  notice.level = .warning ∧ notice ≠ .rowsBeforeHeader ∧ notice ≠ .secondHeader

def ofLine (line : Bytes) : List Notice :=
  match Record.decode? line with
  | none => [.undecodable line.length]
  | some record => (record.reportedError?.map .serverError).toList

theorem ofLine_cases (line : Bytes) :
    ofLine line = [] ∨ ofLine line = [.undecodable line.length] ∨
      ∃ message, ofLine line = [.serverError message] := by
  unfold ofLine
  cases Record.decode? line with
  | none => exact Or.inr (Or.inl rfl)
  | some record =>
      cases error_eq : record.reportedError? with
      | none => simp [error_eq]
      | some message => exact Or.inr (Or.inr ⟨message, by simp [error_eq]⟩)

theorem filter_ofLine (line : Bytes) :
    (ofLine line).filter isFurther = ofLine line ∧
      (ofLine line).countP (·.level = .error) = 0 := by
  rcases ofLine_cases line with none_eq | line_eq | ⟨message, error_eq⟩
  · simp [none_eq]
  · simp [line_eq, isFurther, level]
  · simp [error_eq, isFurther, level]

theorem count_ofLine (line : Bytes) :
    (ofLine line).count .secondHeader = 0 ∧ (ofLine line).count .rowsBeforeHeader = 0 := by
  rcases ofLine_cases line with none_eq | line_eq | ⟨message, error_eq⟩
  · simp [none_eq]
  · simp [line_eq]
  · simp [error_eq]

theorem length_ofLine (line : Bytes) :
    (ofLine line).length =
      (Stats.ofLine line).decodeFailures + (Stats.ofLine line).errorRecords := by
  unfold ofLine Stats.ofLine reportedIn?
  cases Record.decode? line with
  | none => rfl
  | some record =>
      cases error_eq : record.reportedError? <;> simp [error_eq]

end Notice

/-! ## Lines -/

namespace Interpreter

/-- The warnings about headers that a line gives rise to, by what it holds and what came before. -/
def headerNotices (interpreter : Interpreter) (heading batch : Bool) : List Notice :=
  (if heading && interpreter.headerSeen then [.secondHeader] else []) ++
    if batch && !(interpreter.headerSeen || heading) && !interpreter.warnedHeaderless then
      [.rowsBeforeHeader]
    else []

theorem notices_dispatch (interpreter : Interpreter) (record : Record) :
    (interpreter.dispatch record).2.notices =
        (record.reportedError?.map Notice.serverError).toList ++
          interpreter.headerNotices record.heading?.isSome record.batch?.isSome ∧
      (interpreter.dispatch record).1.warnedHeaderless =
        (interpreter.warnedHeaderless ||
          record.batch?.isSome && !(interpreter.headerSeen || record.heading?.isSome)) := by
  cases error_eq : record.reportedError? with
  | some message =>
      obtain ⟨noHeading, noBatch⟩ := Record.alone_of_reported error_eq
      rw [dispatch_of_reported _ error_eq, noHeading, noBatch]
      simp [onError, headerNotices]
  | none =>
      obtain ⟨heading_eq, batch_eq⟩ := Record.of_unreported error_eq
      rw [dispatch_of_unreported _ error_eq, heading_eq, batch_eq]
      obtain ⟨columns, rows, total, error⟩ := record
      obtain ⟨seen, advertised, warned, stats⟩ := interpreter
      -- An empty batch is none, so rows have three cases.
      rcases rows with _ | _ | _ <;> cases columns <;> cases seen <;> cases warned <;>
        exact ⟨rfl, rfl⟩

theorem notices_interpret (interpreter : Interpreter) (line : Bytes) :
    (interpreter.interpret line).2.notices =
        Notice.ofLine line ++
          interpreter.headerNotices (headingIn? line).isSome (batchIn? line).isSome ∧
      (interpreter.interpret line).1.warnedHeaderless =
        (interpreter.warnedHeaderless ||
          (batchIn? line).isSome && !(interpreter.headerSeen || (headingIn? line).isSome)) := by
  unfold interpret Notice.ofLine headingIn? batchIn?
  cases Record.decode? line with
  | none => simp [headerNotices]
  | some record => exact notices_dispatch _ record

/-- An interpreter remembers of the events which warnings about headers were logged. -/
structure Noticed (interpreter : Interpreter) (events : List Event) (notices : List Notice) :
    Prop where
  seen : interpreter.headerSeen = events.any fun event => event.header?.isSome
  warned : interpreter.warnedHeaderless = opensWithRows events
  headerless : notices.count .rowsBeforeHeader = if interpreter.warnedHeaderless then 1 else 0
  second : notices.count .secondHeader = events.countP (fun event => event.header?.isSome) - 1

theorem noticed_new : Noticed new [] [] := ⟨rfl, rfl, rfl, rfl⟩

theorem filter_headerNotices (interpreter : Interpreter) (heading batch : Bool) :
    (interpreter.headerNotices heading batch).filter Notice.isFurther = [] ∧
      (interpreter.headerNotices heading batch).countP (·.level = .error) = 0 := by
  unfold headerNotices
  cases heading <;> cases batch <;> cases interpreter.headerSeen <;>
    cases interpreter.warnedHeaderless <;> decide

theorem count_headerNotices (interpreter : Interpreter) (heading batch : Bool) :
    (interpreter.headerNotices heading batch).count .secondHeader =
        (if heading && interpreter.headerSeen then 1 else 0) ∧
      (interpreter.headerNotices heading batch).count .rowsBeforeHeader =
        if batch && !(interpreter.headerSeen || heading) && !interpreter.warnedHeaderless then 1
        else 0 := by
  unfold headerNotices
  cases heading <;> cases batch <;> cases interpreter.headerSeen <;>
    cases interpreter.warnedHeaderless <;> decide

theorem headings_interpret (interpreter : Interpreter) (line : Bytes) :
    ((interpreter.interpret line).2.events.countP fun event => event.header?.isSome) =
        (if (headingIn? line).isSome then 1 else 0) ∧
      opensWithRows (interpreter.interpret line).2.events =
        ((batchIn? line).isSome && !(headingIn? line).isSome) := by
  rw [events_interpret]
  cases reportedIn? line <;> cases headingIn? line <;> cases batchIn? line <;> exact ⟨rfl, rfl⟩

theorem Noticed.interpret {interpreter : Interpreter} {events : List Event}
    {notices : List Notice} (noticed : interpreter.Noticed events notices) (line : Bytes) :
    (interpreter.interpret line).1.Noticed (events ++ (interpreter.interpret line).2.events)
      (notices ++ (interpreter.interpret line).2.notices) := by
  obtain ⟨notices_eq, warned_eq⟩ := notices_interpret interpreter line
  obtain ⟨headers_eq, opens_eq⟩ := headings_interpret interpreter line
  obtain ⟨noSecond, noHeaderless⟩ := Notice.count_ofLine line
  obtain ⟨second_eq, headerless_eq⟩ :=
    interpreter.count_headerNotices (headingIn? line).isSome (batchIn? line).isSome
  refine ⟨?_, ?_, ?_, ?_⟩
  · rw [(headers_interpret interpreter line).1, List.any_append, anyHeader_interpret, noticed.seen]
  · rw [warned_eq, Event.opensWithRows_append, opens_eq, noticed.warned, noticed.seen]
    cases events.any fun event => event.header?.isSome <;> cases (headingIn? line).isSome <;> simp
  · rw [notices_eq, List.count_append, List.count_append, noHeaderless, headerless_eq, warned_eq,
      noticed.headerless]
    cases interpreter.warnedHeaderless <;> cases interpreter.headerSeen <;>
      cases (headingIn? line).isSome <;> cases (batchIn? line).isSome <;> rfl
  · rw [notices_eq, List.count_append, List.count_append, noSecond, second_eq, noticed.second,
      List.countP_append, headers_eq]
    have seen_iff : interpreter.headerSeen = true ↔
        0 < events.countP fun event => event.header?.isSome := by
      rw [noticed.seen, List.any_eq_true, List.countP_pos_iff]
    generalize events.countP (fun event => event.header?.isSome) = headers at seen_iff ⊢
    cases (headingIn? line).isSome with
    | false => simp
    | true =>
        simp only [Bool.true_and, if_true, seen_iff]
        split <;> omega

theorem Noticed.aside {interpreter : Interpreter} {events more : List Event}
    {notices extra : List Notice} (noticed : interpreter.Noticed events notices)
    (quiet : ∀ event ∈ more, event.header? = none ∧ event.batch? = none)
    (apart : ∀ notice ∈ extra, notice ≠ .secondHeader ∧ notice ≠ .rowsBeforeHeader) :
    interpreter.Noticed (events ++ more) (notices ++ extra) := by
  have noHeader : more.any (fun event => event.header?.isSome) = false := by
    rw [List.any_eq_false]
    intro event member
    simp [(quiet event member).1]
  have noHeaders : more.countP (fun event => event.header?.isSome) = 0 := by
    rw [List.countP_eq_zero]
    intro event member
    simp [(quiet event member).1]
  have noRows : opensWithRows more = false := by
    rw [Bool.eq_false_iff, ne_eq, Event.opensWithRows_iff]
    rintro ⟨before, batch, after, rfl, _⟩
    cases (quiet (.rows batch) (by simp)).2
  refine ⟨?_, ?_, ?_, ?_⟩
  · rw [List.any_append, noticed.seen, noHeader, Bool.or_false]
  · rw [Event.opensWithRows_append, noRows, Bool.and_false, Bool.or_false, noticed.warned]
  · rw [List.count_append, noticed.headerless,
      List.count_eq_zero.mpr fun member => (apart _ member).2 rfl, Nat.add_zero]
  · rw [List.count_append, noticed.second, List.countP_append,
      List.count_eq_zero.mpr fun member => (apart _ member).1 rfl, noHeaders, Nat.add_zero,
      Nat.add_zero]

end Interpreter

namespace Consumer

def logged (consumer : Consumer) : List Notice := consumer.notices.toList

@[simp] theorem logged_send (consumer : Consumer) (event : Event) :
    (consumer.send event).logged = consumer.logged := rfl

@[simp] theorem logged_settle (consumer : Consumer) (outcome : Outcome) :
    (consumer.settle outcome).logged = consumer.logged := rfl

@[simp] theorem logged_log (consumer : Consumer) (notice : Notice) :
    (consumer.log notice).logged = consumer.logged ++ [notice] := by
  simp [logged, log]

@[simp] theorem logged_failWith (consumer : Consumer) (message : String) :
    (consumer.failWith message).logged = consumer.logged := rfl

@[simp] theorem logged_interpretLine (consumer : Consumer) (line : Bytes) :
    (consumer.interpretLine line).logged =
      consumer.logged ++ (consumer.interpreter.interpret line).2.notices := by
  simp [logged, interpretLine]

/-! ## What is due -/

namespace Operation

def warnings (consumer : Consumer) : Operation → List Notice
  | .feed chunk => (consumer.completed chunk).flatMap Notice.ofLine
  | .finish => if consumer.buffered = 0 then [] else [.truncated consumer.buffered]
  | .report message => [.reported message]
  | .fail _ => []
  | .cancel => []

def warningsDue : Consumer → List Operation → List Notice
  | _, [] => []
  | consumer, operation :: rest =>
      (if consumer.isTerminated then [] else warnings consumer operation) ++
        warningsDue (operation.apply consumer) rest

theorem warningsDue_of_ended {consumer : Consumer} (ended : consumer.outcome.isSome)
    (operations : List Operation) : warningsDue consumer operations = [] := by
  induction operations with
  | nil => rfl
  | cons operation rest inductionHypothesis =>
      rw [warningsDue, apply_of_ended ended, inductionHypothesis, isTerminated, if_pos ended]
      rfl

end Operation

open Operation (tally uncounted warningsDue)

/-- The log accounts for the events and the outcome, and besides it holds the warnings `due`, which
the counters account for but for `others` of them. -/
structure Journal (others : Nat) (due : List Notice) (consumer : Consumer) : Prop where
  noticed : consumer.interpreter.Noticed consumer.sent consumer.logged
  further : consumer.logged.filter Notice.isFurther = due
  counted : due.length = consumer.stats.decodeFailures + consumer.stats.errorRecords + others
  errors : consumer.logged.countP (·.level = .error) = consumer.failures

theorem journal_new (limit : Nat) : Journal 0 [] (new limit) :=
  ⟨Interpreter.noticed_new, rfl, rfl, rfl⟩

section

variable {others : Nat} {due : List Notice} {consumer : Consumer}

theorem Journal.interpretLine (journal : Journal others due consumer) (line : Bytes) :
    Journal others (due ++ Notice.ofLine line) (consumer.interpretLine line) := by
  obtain ⟨notices_eq, _⟩ := consumer.interpreter.notices_interpret line
  obtain ⟨kept, noError⟩ := Notice.filter_ofLine line
  obtain ⟨dropped, noErrorEither⟩ := consumer.interpreter.filter_headerNotices
    (Record.headingIn? line).isSome (Record.batchIn? line).isSome
  have stats_eq : (consumer.interpretLine line).stats = consumer.stats.add (.ofLine line) :=
    consumer.interpreter.stats_interpret line
  refine ⟨?_, ?_, ?_, ?_⟩
  · rw [sent_interpretLine, logged_interpretLine]
    exact journal.noticed.interpret line
  · rw [logged_interpretLine, notices_eq, List.filter_append, List.filter_append, journal.further,
      kept, dropped, List.append_nil]
  · rw [List.length_append, journal.counted, Notice.length_ofLine, stats_eq]
    simp only [Stats.add]
    omega
  · rw [logged_interpretLine, notices_eq, List.countP_append, List.countP_append, noError,
      noErrorEither]
    exact journal.errors

theorem Journal.foldl_interpretLine (journal : Journal others due consumer) (lines : List Bytes) :
    Journal others (due ++ lines.flatMap Notice.ofLine)
      (lines.foldl Consumer.interpretLine consumer) := by
  induction lines generalizing due consumer with
  | nil => simpa using journal
  | cons line rest inductionHypothesis =>
      rw [List.flatMap_cons, ← List.append_assoc]
      exact inductionHypothesis (journal.interpretLine line)

theorem Journal.aside (journal : Journal others due consumer) (events : List Event)
    (notices : List Notice) {next : Consumer}
    (interpreter_eq : next.interpreter = consumer.interpreter)
    (sent_eq : next.sent = consumer.sent ++ events)
    (logged_eq : next.logged = consumer.logged ++ notices)
    (quiet : ∀ event ∈ events, event.header? = none ∧ event.batch? = none)
    (apart : ∀ notice ∈ notices, notice ≠ .secondHeader ∧ notice ≠ .rowsBeforeHeader)
    (errors : next.failures = consumer.failures + notices.countP (·.level = .error)) :
    Journal (others + (notices.filter Notice.isFurther).length)
      (due ++ notices.filter Notice.isFurther) next where
  noticed := by
    rw [interpreter_eq, sent_eq, logged_eq]
    exact journal.noticed.aside quiet apart
  further := by rw [logged_eq, List.filter_append, journal.further]
  counted := by
    have stats_eq : next.stats = consumer.stats := congrArg Interpreter.stats interpreter_eq
    rw [List.length_append, journal.counted, stats_eq, Nat.add_assoc]
  errors := by rw [logged_eq, List.countP_append, journal.errors, errors]

theorem Journal.withDecoder (journal : Journal others due consumer) (decoder : FrameDecoder) :
    Journal others due (consumer.withDecoder decoder) :=
  ⟨journal.noticed, journal.further, journal.counted, journal.errors⟩

theorem Journal.failWith (journal : Journal others due consumer) (isOpen : consumer.outcome = none)
    {notice : Notice} (grave : notice.level = .error) (message : String) :
    Journal others due ((consumer.log notice).failWith message) := by
  have failed : Journal _ _ ((consumer.log notice).failWith message) :=
    journal.aside [.error message] [notice] rfl (by simp) (by simp)
    (by simp [Event.header?, Event.batch?])
    (by
      rw [List.forall_mem_singleton]
      constructor <;>
        · rintro rfl
          cases grave)
    (by
      rw [failures_of_open isOpen]
      simp [grave, failures, Consumer.failWith, send, settle])
  simpa [Notice.isFurther, grave] using failed

theorem Journal.feed {limit : Nat} (journal : Journal others due consumer)
    (isOpen : consumer.Open limit) (chunk : Bytes) :
    Journal others (due ++ (consumer.completed chunk).flatMap Notice.ofLine)
      (consumer.feed chunk) := by
  have told := journal.foldl_interpretLine (consumer.completed chunk)
  obtain ⟨goesOn, fed | fed⟩ := isOpen.feed_cases chunk
  · rw [fed]
    exact told.withDecoder _
  · rw [fed]
    exact (told.failWith goesOn rfl _).withDecoder _

theorem Journal.reportTruncation (journal : Journal others due consumer)
    (sound : consumer.decoder.Sound) :
    Journal (others + if consumer.buffered = 0 then 0 else 1)
      (due ++ Operation.warnings consumer .finish) consumer.reportTruncation := by
  rw [Consumer.reportTruncation, FrameDecoder.finish_of_sound sound, Operation.warnings, buffered]
  by_cases whole : consumer.decoder.buffered = 0
  · simpa [whole] using journal
  · simp only [if_neg whole]
    exact journal.aside [.truncated consumer.decoder.buffered]
      [.truncated consumer.decoder.buffered] rfl (by simp) (by simp)
      (by simp [Event.truncated, Event.header?, Event.batch?]) (by simp)
      (by simp [Notice.level]; rfl)

theorem Journal.complete (journal : Journal others due consumer) (isOpen : consumer.outcome = none)
    (total : Nat) :
    Journal others due ((consumer.settle (.completed total)).send (.complete total)) := by
  have told : Journal _ _ ((consumer.settle (.completed total)).send (.complete total)) :=
    journal.aside [.complete total] [] rfl (by simp) (by simp)
      (by simp [Event.header?, Event.batch?]) (by simp) (by
        rw [failures_of_open isOpen]
        rfl)
  simpa using told

theorem Journal.apply {limit : Nat} (journal : Journal others due consumer)
    (isOpen : consumer.Open limit) (operation : Operation) :
    Journal (others + uncounted consumer operation)
      (due ++ Operation.warnings consumer operation) (operation.apply consumer) := by
  have outcome_eq := isOpen.outcome_eq
  cases operation with
  | feed chunk => exact journal.feed isOpen chunk
  | finish =>
      have stillOpen := (outcome_reportTruncation consumer).trans outcome_eq
      rw [Operation.apply, finish_of_open outcome_eq, Operation.uncounted_finish outcome_eq]
      exact (journal.reportTruncation isOpen.sound).complete stillOpen _
  | fail message =>
      rw [Operation.apply, fail_of_open outcome_eq, Operation.warnings, List.append_nil]
      exact journal.failWith outcome_eq rfl message
  | report message =>
      rw [Operation.apply, report_of_open outcome_eq, Operation.uncounted_report outcome_eq]
      exact journal.aside [.error message] [.reported message] rfl
        (by simp) (by simp) (by simp [Event.header?, Event.batch?]) (by simp) rfl
  | cancel =>
      have settled : Journal _ _ (consumer.settle .cancelled) :=
        journal.aside [] [] rfl (by simp) (by simp) (by simp) (by simp) (by
          rw [failures_of_open outcome_eq]
          rfl)
      rw [Operation.apply, cancel_of_open outcome_eq]
      exact settled

theorem Journal.foldl_apply {limit : Nat} (journal : Journal others due consumer)
    (isOpen : consumer.Open limit) (operations : List Operation) :
    Journal (others + tally uncounted consumer operations)
      (due ++ warningsDue consumer operations) (operations.foldl Operation.apply consumer) := by
  induction operations generalizing others due consumer with
  | nil => simpa [tally, warningsDue] using journal
  | cons operation rest inductionHypothesis =>
      have next := journal.apply isOpen operation
      have notEnded : consumer.isTerminated = false := by simp [isTerminated, isOpen.outcome_eq]
      rw [List.foldl_cons, tally, warningsDue, notEnded, if_neg Bool.false_ne_true,
        ← Nat.add_assoc, ← List.append_assoc]
      rcases isOpen.apply operation with stillOpen | ended
      · exact inductionHypothesis next stillOpen
      · rw [foldl_apply_of_ended ended, Operation.tally_uncounted_of_ended ended,
          Operation.warningsDue_of_ended ended, List.append_nil]
        exact next

end

theorem journal_run (limit : Nat) (operations : List Operation) :
    Journal (acceptedReports limit operations + discardedLines limit operations)
      (warningsDue (new limit) operations) (run limit operations) := by
  have journal := (journal_new limit).foldl_apply (open_new limit) operations
  rw [Nat.zero_add, List.nil_append, Operation.tally_uncounted] at journal
  exact journal

/-- After any operations in any order, the log holds one warning if rows came before any header,
one for each header behind the first, one for each line that is no record or reports an error, one
for each error that was reported and one for a truncated line, and an error if the stream failed.
Nothing is logged any more once there is an outcome. -/
theorem run_logged (limit : Nat) (operations : List Operation) :
    let stream := run limit operations
    let due := warningsDue (new limit) operations
    let rowsFirst := ∃ before batch after, stream.sent = before ++ .rows batch :: after ∧
      ∀ event ∈ before, event.header? = none ∧ event.batch? = none
    (rowsFirst → stream.logged.count .rowsBeforeHeader = 1) ∧
    (¬ rowsFirst → stream.logged.count .rowsBeforeHeader = 0) ∧
    stream.logged.count .secondHeader =
      stream.sent.countP (fun event => event.header?.isSome) - 1 ∧
    (stream.logged.filter fun notice => notice.level = .warning ∧
      notice ≠ .rowsBeforeHeader ∧ notice ≠ .secondHeader) = due ∧
    due.length = stream.stats.decodeFailures + stream.stats.errorRecords +
      acceptedReports limit operations + discardedLines limit operations ∧
    stream.logged.countP (·.level = .error) = (if stream.outcome = some .failed then 1 else 0) ∧
    (stream.outcome.isSome →
      ∀ later, (run limit (operations ++ later)).logged = stream.logged) := by
  intro stream due rowsFirst
  have journal : Journal _ due stream := journal_run limit operations
  have opens_iff : opensWithRows stream.sent = true ↔ rowsFirst := Event.opensWithRows_iff _
  have headerless := journal.noticed.headerless
  rw [journal.noticed.warned] at headerless
  refine ⟨?_, ?_, journal.noticed.second, journal.further, ?_, journal.errors, ?_⟩
  · intro first
    rw [if_pos (opens_iff.mpr first)] at headerless
    exact headerless
  · intro notFirst
    rw [if_neg (mt opens_iff.mp notFirst)] at headerless
    exact headerless
  · have counted := journal.counted
    rw [← Nat.add_assoc] at counted
    exact counted
  · intro ended later
    rw [run_append]
    exact congrArg logged (foldl_apply_of_ended ended later)

-- A record with rows of its own heads them, and an empty batch is none.
example :
    (run 100 [.feed (Bytes.ofText "\x7b\"rows\":[]\x7d\n"),
      .feed (Bytes.ofText "\x7b\"columns\":[],\"rows\":[[1]]\x7d\n")]).logged = [] ∧
    (run 100 [.feed (Bytes.ofText "\x7b\"rows\":[[1]]\x7d\n?\n"), .cancel,
      .report "late"]).logged = [.rowsBeforeHeader, .undecodable 1] := by
  decide +kernel

end Consumer

end RowStream
