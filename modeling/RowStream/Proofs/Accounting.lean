import RowStream.Proofs.Contents
import RowStream.Proofs.EventFold
import RowStream.Proofs.Lifecycle

/-!
# What a stream has counted

The counters of a stream agree with what it sent: as many rows as its batches hold, and as many
error records as lines in which the server reported an error.  One line keeps this, hence every
list of lines, and an operation keeps it, hence every run.
-/

set_option autoImplicit false

namespace RowStream

open Event (allRows Incomplete)

theorem Event.allRows_append (first second : List Event) :
    allRows (first ++ second) = allRows first ++ allRows second :=
  List.flatMap_append

theorem Event.messages_append (first second : List Event) :
    messages (first ++ second) = messages first ++ messages second :=
  List.filterMap_append

namespace Interpreter

/-! ## Rows -/

theorem rows_interpret (interpreter : Interpreter) (line : Bytes) :
    (interpreter.interpret line).1.stats.rows =
      interpreter.stats.rows + (allRows (interpreter.interpret line).2.events).length := by
  rw [stats_interpret, events_interpret]
  cases batch_eq : Record.batchIn? line <;> cases Record.reportedIn? line <;>
    cases Record.headingIn? line <;>
    simp [Stats.add, Stats.ofLine, batch_eq, allRows, Event.rowsOf, announce]

theorem rows_interpretAll (interpreter : Interpreter) (lines : List Bytes) :
    (interpreter.interpretAll lines).1.stats.rows =
      interpreter.stats.rows + (allRows (interpreter.interpretAll lines).2.events).length := by
  induction lines generalizing interpreter with
  | nil => rfl
  | cons line rest inductionHypothesis =>
      have first := rows_interpret interpreter line
      have later := inductionHypothesis (interpreter.interpret line).1
      have together : (interpreter.interpretAll (line :: rest)).2.events =
          (interpreter.interpret line).2.events ++
            ((interpreter.interpret line).1.interpretAll rest).2.events := rfl
      rw [together, Event.allRows_append, List.length_append]
      change ((interpreter.interpret line).1.interpretAll rest).1.stats.rows = _
      omega

/-! ## Error records -/

theorem errorRecords_interpret (interpreter : Interpreter) (line : Bytes) :
    (interpreter.interpret line).1.stats.errorRecords =
      interpreter.stats.errorRecords + if (Record.reportedIn? line).isSome then 1 else 0 := by
  rw [stats_interpret]
  rfl

theorem messages_interpret (interpreter : Interpreter) (line : Bytes) :
    Event.messages (interpreter.interpret line).2.events = (Record.reportedIn? line).toList := by
  rw [events_interpret, Event.messages_append, Event.messages_append]
  cases Record.reportedIn? line <;> cases Record.headingIn? line <;>
    cases Record.batchIn? line <;> rfl

theorem errorRecords_interpretAll (interpreter : Interpreter) (lines : List Bytes) :
    (interpreter.interpretAll lines).1.stats.errorRecords =
      interpreter.stats.errorRecords +
        lines.countP fun line => (Record.reportedIn? line).isSome := by
  induction lines generalizing interpreter with
  | nil => rfl
  | cons line rest inductionHypothesis =>
      have first := errorRecords_interpret interpreter line
      have later := inductionHypothesis (interpreter.interpret line).1
      rw [List.countP_cons]
      change ((interpreter.interpret line).1.interpretAll rest).1.stats.errorRecords = _
      omega

end Interpreter

namespace Consumer

def Tallied (consumer : Consumer) : Prop := consumer.rowsSeen = (allRows consumer.sent).length

theorem Tallied.send {consumer : Consumer} (tallied : consumer.Tallied) {event : Event}
    (rowless : event.rowsOf = []) : (consumer.send event).Tallied := by
  have alone : allRows [event] = [] := by simp [allRows, rowless]
  rw [Tallied, sent_send, Event.allRows_append, alone, List.append_nil]
  exact tallied

theorem Tallied.interpretLine {consumer : Consumer} (tallied : consumer.Tallied) (line : Bytes) :
    (consumer.interpretLine line).Tallied := by
  have counted := consumer.interpreter.rows_interpret line
  have before : consumer.interpreter.stats.rows = (allRows consumer.sent).length := tallied
  rw [Tallied, sent_interpretLine, Event.allRows_append, List.length_append, ← before]
  exact counted

theorem preserved_tallied : Preserved Tallied where
  line := Tallied.interpretLine
  error := fun tallied _ => tallied.send rfl
  complete := fun tallied _ => tallied.send rfl
  notice := fun tallied _ => tallied
  decoder := fun tallied _ => tallied
  outcome := fun tallied _ => tallied

theorem tallied_run (limit : Nat) (operations : List Operation) : (run limit operations).Tallied :=
  preserved_tallied.run rfl operations

/-- A completed stream says how many rows it sent. -/
theorem total_of_completed {limit : Nat} {operations : List Operation} {total : Nat}
    (completed : (run limit operations).outcome = some (.completed total)) :
    total = (allRows (run limit operations).sent).length := by
  have tallied := tallied_run limit operations
  obtain ⟨_, _, _, _, _, _, advanced⟩ := exists_ending completed
  cases advanced with
  | goesOn isOpen => cases isOpen.outcome_eq.symm.trans completed
  | completes outcome_eq =>
      have same : some (Outcome.completed (run limit operations).rowsSeen) =
          some (.completed total) := outcome_eq.symm.trans completed
      obtain rfl : (run limit operations).rowsSeen = total := by simpa using same
      exact tallied
  | fails _ _ outcome_eq => cases outcome_eq.symm.trans completed
  | cancels _ outcome_eq => cases outcome_eq.symm.trans completed

end Consumer

end RowStream
