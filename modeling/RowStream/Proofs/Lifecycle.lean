import RowStream.Proofs.Feeding

/-!
# The life of a stream

A stream is open until one operation ends it, and nothing changes it after that.  `advance` says
all that one operation can do to an open stream: it goes on, it completes, it fails or it is
cancelled, and in each case which events are sent last.  `exists_ending` finds the operation that
ended a stream among those of a run, and `run_lifecycle` reads off what outcome and events have to
do with each other.
-/

set_option autoImplicit false

namespace RowStream.Consumer

open Event (Incomplete)

def Operation.failure? (limit : Nat) : Operation → Option String
  | .feed _ => some ("Line exceeds maximum " ++ toString limit ++ " bytes")
  | .fail message => some message
  | _ => none

structure Open (limit : Nat) (consumer : Consumer) : Prop where
  outcome_eq : consumer.outcome = none
  sound : consumer.decoder.Sound
  limit_eq : consumer.decoder.limit = limit
  incomplete : Incomplete consumer.sent

/-- What one operation can do to an open stream. -/
inductive Advanced (limit : Nat) (consumer : Consumer) (operation : Operation)
    (next : Consumer) : Prop where
  | goesOn (isOpen : next.Open limit)
  | completes (outcome_eq : next.outcome = some (.completed next.rowsSeen))
      (earlier : List Event) (incomplete : Incomplete earlier)
      (sent_eq : next.sent = earlier ++ [.complete next.rowsSeen]) (empty : next.buffered = 0)
  | fails (message : String) (cause : operation.failure? limit = some message)
      (outcome_eq : next.outcome = some .failed) (earlier : List Event)
      (incomplete : Incomplete earlier) (sent_eq : next.sent = earlier ++ [.error message])
      (empty : next.buffered = 0)
  | cancels (cause : operation = .cancel) (outcome_eq : next.outcome = some .cancelled)
      (sent_eq : next.sent = consumer.sent) (empty : next.buffered = 0)

theorem incomplete_append {first second : List Event} (firstIncomplete : Incomplete first)
    (secondIncomplete : Incomplete second) : Incomplete (first ++ second) := by
  intro event member
  rcases List.mem_append.mp member with inFirst | inSecond
  · exact firstIncomplete event inFirst
  · exact secondIncomplete event inSecond

theorem incomplete_error (message : String) : Incomplete [.error message] := by
  intro event member
  obtain rfl := List.mem_singleton.mp member
  rfl

theorem open_new (limit : Nat) : (new limit).Open limit where
  outcome_eq := rfl
  sound := FrameDecoder.sound_new limit
  limit_eq := rfl
  incomplete := by simp [Incomplete, sent, new]

theorem incomplete_foldl_interpretLine {consumer : Consumer} (incomplete : Incomplete consumer.sent)
    (lines : List Bytes) : Incomplete (lines.foldl interpretLine consumer).sent := by
  rw [sent_foldl_interpretLine]
  exact incomplete_append incomplete (consumer.interpreter.incomplete_interpretAll lines)

/-- The lines that a chunk completes, up to one that is too long. -/
def completed (consumer : Consumer) (chunk : Bytes) : List Bytes :=
  (consumer.decoder.append chunk).upcoming.filterMap Except.toOption

theorem completed_eq {consumer : Consumer} {chunk : Bytes} {lines : List Bytes}
    {rest : List Frame}
    (upcoming_eq : (consumer.decoder.append chunk).upcoming = lines.map .ok ++ rest)
    (noLine : rest.filterMap Except.toOption = []) : consumer.completed chunk = lines := by
  rw [completed, upcoming_eq, List.filterMap_append, noLine, List.append_nil, List.filterMap_map]
  exact List.filterMap_some

theorem Open.feed_cases {limit : Nat} {consumer : Consumer} (isOpen : consumer.Open limit)
    (chunk : Bytes) :
    let read := (consumer.completed chunk).foldl interpretLine consumer
    read.outcome = none ∧
      (consumer.feed chunk = read.withDecoder (consumer.decoder.append chunk).drained ∨
        consumer.feed chunk =
          (read.take (.error (.lineTooLong limit))).withDecoder (FrameDecoder.poison limit)) := by
  intro read
  refine ⟨(outcome_foldl_interpretLine _ consumer).trans isOpen.outcome_eq, ?_⟩
  have limit_eq : (consumer.decoder.append chunk).limit = limit := by
    rw [FrameDecoder.limit_append, isOpen.limit_eq]
  obtain ⟨lines, upcoming_eq | ⟨upcoming_eq, poisoned⟩⟩ :=
    (consumer.decoder.append chunk).exists_upcoming_eq
  · have lines_eq : consumer.completed chunk = lines :=
      completed_eq (upcoming_eq.trans (List.append_nil _).symm) rfl
    left
    rw [feed_eq isOpen.outcome_eq isOpen.sound, upcoming_eq, List.foldl_map, ← lines_eq]
    rfl
  · have lines_eq : consumer.completed chunk = lines := completed_eq upcoming_eq rfl
    right
    rw [feed_eq isOpen.outcome_eq isOpen.sound, poisoned, upcoming_eq, List.foldl_append,
      List.foldl_map, limit_eq, ← lines_eq]
    rfl

theorem advance_feed {limit : Nat} {consumer : Consumer} (isOpen : consumer.Open limit)
    (chunk : Bytes) : Advanced limit consumer (.feed chunk) (consumer.feed chunk) := by
  have incomplete := incomplete_foldl_interpretLine isOpen.incomplete (consumer.completed chunk)
  obtain ⟨goesOn, fed | fed⟩ := isOpen.feed_cases chunk
  · rw [fed]
    refine .goesOn ⟨goesOn, FrameDecoder.sound_drained _, ?_, incomplete⟩
    exact (FrameDecoder.limit_drained _).trans
      ((FrameDecoder.limit_append _ chunk).trans isOpen.limit_eq)
  · rw [fed]
    exact .fails _ rfl rfl _ incomplete (sent_failWith _ _) rfl

theorem advance {limit : Nat} {consumer : Consumer} (isOpen : consumer.Open limit)
    (operation : Operation) : Advanced limit consumer operation (operation.apply consumer) := by
  have outcome_eq := isOpen.outcome_eq
  cases operation with
  | feed chunk => exact advance_feed isOpen chunk
  | finish =>
      have incomplete : Incomplete consumer.reportTruncation.sent := by
        rw [sent_reportTruncation]
        refine incomplete_append isOpen.incomplete ?_
        cases consumer.decoder.finish.1 with
        | none => simp [Incomplete]
        | some length => exact incomplete_error _
      rw [Operation.apply, finish_of_open outcome_eq]
      have rows_eq : ((consumer.reportTruncation.settle (.completed consumer.rowsSeen)).send
          (.complete consumer.rowsSeen)).rowsSeen = consumer.rowsSeen :=
        congrArg (·.stats.rows) (interpreter_reportTruncation consumer)
      refine .completes ?_ _ incomplete ?_ ?_
      · rw [rows_eq]
        rfl
      · rw [rows_eq, sent_send, sent_settle]
      · rw [buffered_send, buffered_settle]
  | fail message =>
      rw [Operation.apply, fail_of_open outcome_eq]
      exact .fails message rfl rfl _ isOpen.incomplete (sent_failWith _ _) (buffered_failWith _ _)
  | report message =>
      rw [Operation.apply, report_of_open outcome_eq]
      refine .goesOn ⟨outcome_eq, isOpen.sound, isOpen.limit_eq, ?_⟩
      rw [sent_send, sent_log]
      exact incomplete_append isOpen.incomplete (incomplete_error message)
  | cancel =>
      rw [Operation.apply, cancel_of_open outcome_eq]
      exact .cancels rfl rfl rfl (buffered_settle _ _)

theorem Open.apply {limit : Nat} {consumer : Consumer} (isOpen : consumer.Open limit)
    (operation : Operation) :
    (operation.apply consumer).Open limit ∨ (operation.apply consumer).outcome.isSome := by
  cases advance isOpen operation with
  | goesOn stillOpen => exact Or.inl stillOpen
  | completes outcome_eq | fails _ _ outcome_eq | cancels _ outcome_eq =>
      exact Or.inr (by rw [outcome_eq]; rfl)

/-- Operations leave an open stream open, or one of them ended it. -/
theorem foldl_apply_cases {limit : Nat} {consumer : Consumer} (isOpen : consumer.Open limit)
    (operations : List Operation) :
    (operations.foldl Operation.apply consumer).Open limit ∨
      ∃ before operation after, operations = before ++ operation :: after ∧
        (before.foldl Operation.apply consumer).Open limit ∧
        (operation.apply (before.foldl Operation.apply consumer)).outcome.isSome ∧
        operations.foldl Operation.apply consumer =
          operation.apply (before.foldl Operation.apply consumer) := by
  induction operations generalizing consumer with
  | nil => exact Or.inl isOpen
  | cons operation rest inductionHypothesis =>
      rcases isOpen.apply operation with stillOpen | ended
      · rcases inductionHypothesis stillOpen with
          stays | ⟨before, last, after, shape, wasOpen, found⟩
        · exact Or.inl stays
        · exact Or.inr ⟨operation :: before, last, after, by rw [shape]; rfl, wasOpen, found⟩
      · exact Or.inr ⟨[], operation, rest, rfl, isOpen, ended, foldl_apply_of_ended ended rest⟩

theorem exists_ending {limit : Nat} {operations : List Operation} {outcome : Outcome}
    (ended : (run limit operations).outcome = some outcome) :
    ∃ before operation after, operations = before ++ operation :: after ∧
      (run limit before).outcome = none ∧
      run limit (before ++ [operation]) = run limit operations ∧
      Advanced limit (run limit before) operation (run limit operations) := by
  rcases foldl_apply_cases (open_new limit) operations with
    isOpen | ⟨before, operation, after, shape, wasOpen, _, result⟩
  · have none_eq : (run limit operations).outcome = none := isOpen.outcome_eq
    simp [none_eq] at ended
  · have advanced := advance wasOpen operation
    rw [← result] at advanced
    refine ⟨before, operation, after, shape, wasOpen.outcome_eq, ?_, advanced⟩
    rw [run_append]
    exact result.symm

theorem open_run_of_outcome {limit : Nat} {operations : List Operation}
    (isOpen : (run limit operations).outcome = none) : (run limit operations).Open limit := by
  rcases foldl_apply_cases (open_new limit) operations with
    stillOpen | ⟨_, _, _, _, _, ended, result⟩
  · exact stillOpen
  · rw [← result] at ended
    change (run limit operations).outcome.isSome at ended
    simp [isOpen] at ended

/-! ## Outcome and events -/

def completions (events : List Event) : Nat := events.countP Event.isComplete

theorem completions_of_incomplete {events : List Event} (incomplete : Incomplete events) :
    completions events = 0 := by
  rw [completions, List.countP_eq_zero]
  intro event member
  simp [incomplete event member]

theorem completions_concat {earlier : List Event} (incomplete : Incomplete earlier)
    (event : Event) :
    completions (earlier ++ [event]) = if event.isComplete then 1 else 0 := by
  rw [completions, List.countP_append, ← completions, completions_of_incomplete incomplete,
    List.countP_singleton, Nat.zero_add]

theorem buffered_of_ended {limit : Nat} {operations : List Operation} {outcome : Outcome}
    (ended : (run limit operations).outcome = some outcome) :
    (run limit operations).buffered = 0 := by
  obtain ⟨_, _, _, _, _, _, advanced⟩ := exists_ending ended
  cases advanced with
  | goesOn isOpen => simp [isOpen.outcome_eq] at ended
  | completes _ _ _ _ empty => exact empty
  | fails _ _ _ _ _ _ empty => exact empty
  | cancels _ _ _ empty => exact empty

theorem exists_sent_of_completed {limit : Nat} {operations : List Operation} {total : Nat}
    (completed : (run limit operations).outcome = some (.completed total)) :
    ∃ earlier, Incomplete earlier ∧
      (run limit operations).sent = earlier ++ [.complete total] := by
  obtain ⟨_, _, _, _, _, _, advanced⟩ := exists_ending completed
  cases advanced with
  | goesOn isOpen => simp [isOpen.outcome_eq] at completed
  | completes outcome_eq earlier incomplete sent_eq _ =>
      rw [outcome_eq] at completed
      obtain rfl : (run limit operations).rowsSeen = total := by simpa using completed
      exact ⟨earlier, incomplete, sent_eq⟩
  | fails _ _ outcome_eq => simp [outcome_eq] at completed
  | cancels _ outcome_eq => simp [outcome_eq] at completed

theorem sent_of_completed {limit : Nat} {operations : List Operation} {total : Nat}
    (completed : (run limit operations).outcome = some (.completed total)) :
    completions (run limit operations).sent = 1 ∧
      (run limit operations).sent.getLast? = some (.complete total) := by
  obtain ⟨earlier, incomplete, sent_eq⟩ := exists_sent_of_completed completed
  rw [sent_eq, completions_concat incomplete, List.getLast?_concat]
  exact ⟨rfl, rfl⟩

theorem exists_sent_of_failed {limit : Nat} {operations : List Operation}
    (failed : (run limit operations).outcome = some .failed) :
    ∃ before operation after earlier message, operations = before ++ operation :: after ∧
      (run limit before).outcome = none ∧
      (run limit (before ++ [operation])).outcome = some .failed ∧
      operation.failure? limit = some message ∧ Incomplete earlier ∧
      (run limit operations).sent = earlier ++ [.error message] := by
  obtain ⟨before, operation, after, shape, wasOpen, unchanged, advanced⟩ := exists_ending failed
  cases advanced with
  | goesOn isOpen => simp [isOpen.outcome_eq] at failed
  | completes outcome_eq => simp [outcome_eq] at failed
  | fails message cause outcome_eq earlier incomplete sent_eq _ =>
      refine ⟨before, operation, after, earlier, message, shape, wasOpen, ?_, cause, incomplete,
        sent_eq⟩
      rw [unchanged, failed]
  | cancels _ outcome_eq => simp [outcome_eq] at failed

theorem sent_of_failed {limit : Nat} {operations : List Operation}
    (failed : (run limit operations).outcome = some .failed) :
    completions (run limit operations).sent = 0 ∧
      ∃ before operation after message, operations = before ++ operation :: after ∧
        (run limit before).outcome = none ∧
        (run limit (before ++ [operation])).outcome = some .failed ∧
        operation.failure? limit = some message ∧
        (run limit operations).sent.getLast? = some (.error message) := by
  obtain ⟨before, operation, after, earlier, message, shape, wasOpen, ended, cause, incomplete,
    sent_eq⟩ := exists_sent_of_failed failed
  rw [sent_eq, completions_concat incomplete, List.getLast?_concat]
  exact ⟨rfl, before, operation, after, message, shape, wasOpen, ended, cause, rfl⟩

theorem sent_of_cancelled {limit : Nat} {operations : List Operation}
    (cancelled : (run limit operations).outcome = some .cancelled) :
    completions (run limit operations).sent = 0 ∧
      ∃ before after, operations = before ++ .cancel :: after ∧
        (run limit before).outcome = none ∧
        (run limit operations).sent = (run limit before).sent := by
  obtain ⟨before, operation, after, shape, wasOpen, _, advanced⟩ := exists_ending cancelled
  cases advanced with
  | goesOn isOpen => simp [isOpen.outcome_eq] at cancelled
  | completes outcome_eq => simp [outcome_eq] at cancelled
  | fails _ _ outcome_eq => simp [outcome_eq] at cancelled
  | cancels cause _ sent_eq _ =>
      subst cause
      refine ⟨?_, before, after, shape, wasOpen, sent_eq⟩
      rw [sent_eq]
      exact completions_of_incomplete (open_run_of_outcome wasOpen).incomplete

/-- At every moment of every run, the outcome says how the events end. -/
theorem run_lifecycle (limit : Nat) (operations : List Operation) :
    let stream := run limit operations
    (stream.outcome.isSome →
      stream.buffered = 0 ∧ ∀ later, run limit (operations ++ later) = stream) ∧
    (∀ total, stream.outcome = some (.completed total) ↔
      completions stream.sent = 1 ∧ stream.sent.getLast? = some (.complete total)) ∧
    (stream.outcome = some .failed → completions stream.sent = 0 ∧
      ∃ before operation after message, operations = before ++ operation :: after ∧
        (run limit before).outcome = none ∧
        (run limit (before ++ [operation])).outcome = some .failed ∧
        operation.failure? limit = some message ∧
        stream.sent.getLast? = some (.error message)) ∧
    (stream.outcome = some .cancelled → completions stream.sent = 0 ∧
      ∃ before after, operations = before ++ .cancel :: after ∧
        (run limit before).outcome = none ∧ stream.sent = (run limit before).sent) ∧
    (stream.outcome = none → completions stream.sent = 0) := by
  intro stream
  have noneYet : stream.outcome = none → completions stream.sent = 0 := fun isOpen =>
    completions_of_incomplete (open_run_of_outcome isOpen).incomplete
  refine ⟨?_, ?_, sent_of_failed, sent_of_cancelled, noneYet⟩
  · intro ended
    obtain ⟨outcome, outcome_eq⟩ := Option.isSome_iff_exists.mp ended
    refine ⟨buffered_of_ended outcome_eq, fun later => ?_⟩
    rw [run_append]
    exact foldl_apply_of_ended ended later
  · intro total
    refine ⟨sent_of_completed, ?_⟩
    rintro ⟨once, last⟩
    cases outcome_eq : stream.outcome with
    | none => exact absurd ((noneYet outcome_eq).symm.trans once) (by decide)
    | some outcome =>
        cases outcome with
        | completed other =>
            have same : some (Event.complete other) = some (.complete total) :=
              (sent_of_completed outcome_eq).2.symm.trans last
            obtain rfl : other = total := by simpa using same
            rfl
        | failed => exact absurd ((sent_of_failed outcome_eq).1.symm.trans once) (by decide)
        | cancelled => exact absurd ((sent_of_cancelled outcome_eq).1.symm.trans once) (by decide)

end RowStream.Consumer
