import RowStream.Proofs.Interpretation
import RowStream.Stream.Consumer

/-!
# The operations of a consumer

The five things that can be done with a stream are one type, `Operation`, and `run` does some of
them one after the other to a stream that is new.  An operation on a stream that has an outcome
does nothing; the equations here say what each one does to a stream that is open.  What holds of a
stream through every piece of every operation is `Preserved`.
-/

set_option autoImplicit false

namespace RowStream

/-- The error of a body that ends inside a line, of which it has so many bytes. -/
def Event.truncated (length : Nat) : Event :=
  .error ("Truncated record at end of stream (" ++ toString length ++ " bytes discarded)")

namespace Consumer

inductive Operation where
  | feed (chunk : Bytes)
  | finish
  | fail (message : String)
  | report (message : String)
  | cancel
  deriving DecidableEq, Repr

def Operation.apply (consumer : Consumer) : Operation → Consumer
  | .feed chunk => consumer.feed chunk
  | .finish => consumer.finish
  | .fail message => consumer.fail message
  | .report message => consumer.report message
  | .cancel => consumer.cancel

def run (limit : Nat) (operations : List Operation) : Consumer :=
  operations.foldl Operation.apply (new limit)

theorem run_append (limit : Nat) (before after : List Operation) :
    run limit (before ++ after) = after.foldl Operation.apply (run limit before) := by
  rw [run, List.foldl_append, run]

theorem run_map_feed (limit : Nat) (chunks : List Bytes) :
    run limit (chunks.map .feed) = chunks.foldl feed (new limit) := by
  rw [run, List.foldl_map]
  rfl

def sent (consumer : Consumer) : List Event := consumer.events.toList

@[simp] theorem sent_send (consumer : Consumer) (event : Event) :
    (consumer.send event).sent = consumer.sent ++ [event] := by
  simp [sent, send]

@[simp] theorem sent_log (consumer : Consumer) (notice : Notice) :
    (consumer.log notice).sent = consumer.sent := rfl

@[simp] theorem sent_settle (consumer : Consumer) (outcome : Outcome) :
    (consumer.settle outcome).sent = consumer.sent := rfl

@[simp] theorem sent_failWith (consumer : Consumer) (message : String) :
    (consumer.failWith message).sent = consumer.sent ++ [.error message] := by
  simp [failWith]

@[simp] theorem sent_interpretLine (consumer : Consumer) (line : Bytes) :
    (consumer.interpretLine line).sent =
      consumer.sent ++ (consumer.interpreter.interpret line).2.events := by
  simp [sent, interpretLine]

@[simp] theorem buffered_settle (consumer : Consumer) (outcome : Outcome) :
    (consumer.settle outcome).buffered = 0 := by
  simp only [settle, buffered, FrameDecoder.finish]
  split <;> rfl

@[simp] theorem buffered_send (consumer : Consumer) (event : Event) :
    (consumer.send event).buffered = consumer.buffered := rfl

@[simp] theorem buffered_failWith (consumer : Consumer) (message : String) :
    (consumer.failWith message).buffered = 0 := by
  simp [failWith]

/-! ## Streams with an outcome -/

theorem apply_of_ended {consumer : Consumer} (ended : consumer.outcome.isSome)
    (operation : Operation) : operation.apply consumer = consumer := by
  cases operation <;>
    simp [Operation.apply, feed, finish, fail, report, cancel, isTerminated, ended]

theorem foldl_apply_of_ended {consumer : Consumer} (ended : consumer.outcome.isSome)
    (operations : List Operation) : operations.foldl Operation.apply consumer = consumer := by
  induction operations with
  | nil => rfl
  | cons operation rest inductionHypothesis =>
      rw [List.foldl_cons, apply_of_ended ended, inductionHypothesis]

/-! ## Open streams -/

def reportTruncation (consumer : Consumer) : Consumer :=
  match consumer.decoder.finish.1 with
  | none => consumer
  | some length => (consumer.log (.truncated length)).send (.truncated length)

theorem interpreter_reportTruncation (consumer : Consumer) :
    consumer.reportTruncation.interpreter = consumer.interpreter := by
  unfold reportTruncation
  split <;> rfl

theorem outcome_reportTruncation (consumer : Consumer) :
    consumer.reportTruncation.outcome = consumer.outcome := by
  unfold reportTruncation
  split <;> rfl

theorem sent_reportTruncation (consumer : Consumer) :
    consumer.reportTruncation.sent =
      consumer.sent ++ (consumer.decoder.finish.1.map Event.truncated).toList := by
  unfold reportTruncation
  split
  · rename_i whole
    simp [whole]
  · rename_i length cut
    simp [cut]

theorem finish_of_open {consumer : Consumer} (isOpen : consumer.outcome = none) :
    consumer.finish =
      (consumer.reportTruncation.settle (.completed consumer.rowsSeen)).send
        (.complete consumer.rowsSeen) := by
  simp only [finish, isTerminated, isOpen, Option.isSome_none, Bool.false_eq_true, if_false]
  rfl

theorem fail_of_open {consumer : Consumer} (isOpen : consumer.outcome = none) (message : String) :
    consumer.fail message = (consumer.log (.failed message)).failWith message := by
  simp [fail, isTerminated, isOpen]

theorem report_of_open {consumer : Consumer} (isOpen : consumer.outcome = none)
    (message : String) :
    consumer.report message = (consumer.log (.reported message)).send (.error message) := by
  simp [report, isTerminated, isOpen]

theorem cancel_of_open {consumer : Consumer} (isOpen : consumer.outcome = none) :
    consumer.cancel = consumer.settle .cancelled := by
  simp [cancel, isTerminated, isOpen]

/-! ## Pieces of operations -/

/-- A property that no piece of an operation breaks: a line, an error, the completion, a notice,
another decoder or an outcome. -/
structure Preserved (property : Consumer → Prop) : Prop where
  line : ∀ {consumer}, property consumer → ∀ line, property (consumer.interpretLine line)
  error : ∀ {consumer}, property consumer → ∀ message, property (consumer.send (.error message))
  complete : ∀ {consumer}, property consumer → ∀ total, property (consumer.send (.complete total))
  notice : ∀ {consumer}, property consumer → ∀ notice, property (consumer.log notice)
  decoder : ∀ {consumer}, property consumer → ∀ decoder, property { consumer with decoder }
  outcome : ∀ {consumer}, property consumer → ∀ outcome, property (consumer.settle outcome)

section

variable {property : Consumer → Prop} {consumer : Consumer}

theorem Preserved.failWith (preserved : Preserved property) (holds : property consumer)
    (message : String) : property (consumer.failWith message) :=
  preserved.error (preserved.outcome holds .failed) message

theorem Preserved.absorb (preserved : Preserved property) (holds : property consumer)
    (count : Nat) : property (Consumer.absorb count consumer) := by
  induction count generalizing consumer with
  | zero => exact holds
  | succ count inductionHypothesis =>
      unfold Consumer.absorb
      split
      · exact preserved.decoder holds _
      · exact inductionHypothesis (preserved.line (preserved.decoder holds _) _)
      · exact preserved.failWith (preserved.notice (preserved.decoder holds _) _) _

theorem Preserved.apply (preserved : Preserved property) (holds : property consumer)
    (operation : Operation) : property (operation.apply consumer) := by
  cases outcome_eq : consumer.outcome with
  | some outcome =>
      rw [apply_of_ended (by rw [outcome_eq]; rfl)]
      exact holds
  | none =>
      cases operation with
      | feed chunk =>
          rw [Operation.apply, feed, if_neg (by simp [isTerminated, outcome_eq])]
          exact preserved.absorb (preserved.decoder holds _) _
      | finish =>
          have reported : property consumer.reportTruncation := by
            unfold reportTruncation
            split
            · exact holds
            · exact preserved.error (preserved.notice holds _) _
          rw [Operation.apply, finish_of_open outcome_eq]
          exact preserved.complete (preserved.outcome reported _) _
      | fail message =>
          rw [Operation.apply, fail_of_open outcome_eq]
          exact preserved.failWith (preserved.notice holds _) message
      | report message =>
          rw [Operation.apply, report_of_open outcome_eq]
          exact preserved.error (preserved.notice holds _) message
      | cancel =>
          rw [Operation.apply, cancel_of_open outcome_eq]
          exact preserved.outcome holds _

end

theorem Preserved.run {property : Consumer → Prop} (preserved : Preserved property) {limit : Nat}
    (start : property (new limit)) (operations : List Operation) :
    property (Consumer.run limit operations) :=
  List.foldlRecOn operations Operation.apply start
    fun _ holds operation _ => preserved.apply holds operation

end Consumer

end RowStream
