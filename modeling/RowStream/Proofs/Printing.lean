import RowStream.Proofs.Accounting
import RowStream.Tsv

/-!
# What a sink prints

A sink prints one line for every header and for every row, in the order of the events, and counts
what its writer does not take (`writer_foldl_handle`, `writeErrors_foldl_handle`).  Errors and the
end of a stream print nothing.

`LineWriter.refusals` follows a writer through some lines.  It says nothing of why a line is
refused, and the lines behind a refused one may be taken again.
-/

set_option autoImplicit false

namespace RowStream

namespace LineWriter

def writeAll (writer : LineWriter) (lines : List String) : LineWriter :=
  lines.foldl (fun writer line => (writer.write line).2) writer

/-- How many of some lines a writer refuses. -/
def refusals : LineWriter → List String → Nat
  | _, [] => 0
  | writer, line :: rest =>
      (if (writer.write line).1 then 0 else 1) + refusals (writer.write line).2 rest

def Accepts (writer : LineWriter) (lines : List String) : Prop := writer.refusals lines = 0

instance (writer : LineWriter) (lines : List String) : Decidable (writer.Accepts lines) :=
  inferInstanceAs (Decidable (writer.refusals lines = 0))

theorem writeAll_append (writer : LineWriter) (first second : List String) :
    writer.writeAll (first ++ second) = (writer.writeAll first).writeAll second :=
  List.foldl_append

theorem refusals_append (writer : LineWriter) (first second : List String) :
    writer.refusals (first ++ second) =
      writer.refusals first + (writer.writeAll first).refusals second := by
  induction first generalizing writer with
  | nil => exact (Nat.zero_add _).symm
  | cons line rest inductionHypothesis =>
      have later := inductionHypothesis (writer.write line).2
      change _ + ((writer.write line).2.refusals (rest ++ second)) =
        (_ + (writer.write line).2.refusals rest) +
          ((writer.write line).2.writeAll rest).refusals second
      omega

theorem accepts_cons (writer : LineWriter) (line : String) (rest : List String) :
    writer.Accepts (line :: rest) ↔
      (writer.write line).1 = true ∧ (writer.write line).2.Accepts rest := by
  simp only [Accepts, refusals]
  cases (writer.write line).1 <;> simp

theorem flushes_write (writer : LineWriter) (line : String) :
    (writer.write line).2.flushes = writer.flushes := by
  unfold write
  split
  · rfl
  · split <;> rfl

theorem flushes_writeAll (writer : LineWriter) (lines : List String) :
    (writer.writeAll lines).flushes = writer.flushes := by
  induction lines generalizing writer with
  | nil => rfl
  | cons line rest inductionHypothesis =>
      exact (inductionHypothesis _).trans (writer.flushes_write line)

theorem lines_write {writer : LineWriter} {line : String} (taken : (writer.write line).1 = true) :
    (writer.write line).2.lines = writer.lines.push line := by
  unfold write at taken ⊢
  split at taken
  · cases taken
  · rename_i steady
    rw [if_neg steady]
    split at taken
    · rfl
    · cases taken
    · rfl

theorem lines_writeAll {writer : LineWriter} {lines : List String}
    (accepts : writer.Accepts lines) :
    (writer.writeAll lines).lines.toList = writer.lines.toList ++ lines := by
  induction lines generalizing writer with
  | nil => exact (List.append_nil _).symm
  | cons line rest inductionHypothesis =>
      obtain ⟨taken, restTaken⟩ := (accepts_cons writer line rest).mp accepts
      have first : (writer.write line).2.lines.toList = writer.lines.toList ++ [line] := by
        rw [lines_write taken, Array.toList_push]
      refine (inductionHypothesis restTaken).trans ?_
      rw [first, List.append_assoc, List.singleton_append]

theorem text_eq (writer : LineWriter) :
    writer.text = String.join (writer.lines.toList.map (· ++ "\n")) := by
  have one : ∀ text line : String, text ++ line ++ "\n" = text ++ (line ++ "\n") := fun text line =>
    String.append_assoc
  simp only [text, one, String.join, List.foldl_map, Array.foldl_toList]

end LineWriter

inductive Printed where
  | header (columns : List Column)
  | row (cells : Row)

namespace Printed

def line : Printed → String
  | .header columns => TsvSink.line (columns.map Column.name)
  | .row cells => TsvSink.line (cells.map Cell.display)

def columns? : Printed → Option (List Column)
  | .header columns => some columns
  | .row _ => none

def row? : Printed → Option Row
  | .header _ => none
  | .row cells => some cells

def ofEvent : Event → List Printed
  | .header columns _ => [.header columns]
  | .rows batch => batch.map .row
  | .error _ => []
  | .complete _ => []

def ofEvents (events : List Event) : List Printed := events.flatMap ofEvent

def text (printed : List Printed) : String :=
  String.join (printed.map fun entry => entry.line ++ "\n")

theorem ofEvents_append (first second : List Event) :
    ofEvents (first ++ second) = ofEvents first ++ ofEvents second :=
  List.flatMap_append

theorem rows_ofEvents (events : List Event) :
    (ofEvents events).filterMap row? = Event.allRows events := by
  have rows : ∀ batch : List Row, (batch.map Printed.row).filterMap row? = batch := fun batch =>
    (List.filterMap_map).trans List.filterMap_some
  induction events with
  | nil => rfl
  | cons event rest inductionHypothesis =>
      have one : (ofEvent event).filterMap row? = event.rowsOf := by
        cases event with
        | rows batch => exact rows batch
        | header | error | complete => rfl
      change ((ofEvent event) ++ ofEvents rest).filterMap row? =
        event.rowsOf ++ Event.allRows rest
      rw [List.filterMap_append, one, inductionHypothesis]

theorem columns_ofEvents (events : List Event) :
    (ofEvents events).filterMap columns? = (events.filterMap Event.header?).map Prod.fst := by
  have rows : ∀ batch : List Row, (batch.map Printed.row).filterMap columns? = [] := by
    intro batch
    rw [List.filterMap_map, List.filterMap_eq_nil_iff]
    exact fun _ _ => rfl
  induction events with
  | nil => rfl
  | cons event rest inductionHypothesis =>
      change ((ofEvent event) ++ ofEvents rest).filterMap columns? = _
      rw [List.filterMap_append, inductionHypothesis]
      cases event with
      | rows batch => rw [ofEvent, rows]; rfl
      | header | error | complete => rfl

theorem text_writeAll {writer : LineWriter} (fresh : writer.lines = #[]) {printed : List Printed}
    (accepts : writer.Accepts (printed.map line)) :
    (writer.writeAll (printed.map line)).text = text printed := by
  have taken := LineWriter.lines_writeAll accepts
  rw [fresh, List.nil_append] at taken
  rw [LineWriter.text_eq, taken, text, List.map_map]
  rfl

end Printed

namespace TsvSink

open Printed (ofEvent ofEvents)

theorem foldl_writeLine (rows : List Row) (sink : TsvSink) :
    rows.foldl (fun sink row => sink.writeLine (row.map Cell.display)) sink =
      { sink with
        writer := sink.writer.writeAll ((rows.map Printed.row).map Printed.line)
        writeErrors := sink.writeErrors +
          sink.writer.refusals ((rows.map Printed.row).map Printed.line) } := by
  induction rows generalizing sink with
  | nil => rfl
  | cons row rest inductionHypothesis =>
      rw [List.foldl_cons, inductionHypothesis]
      simp only [writeLine, LineWriter.writeAll, LineWriter.refusals, List.map_cons,
        List.foldl_cons, Printed.line]
      split <;> simp [Nat.add_assoc]

def flushErrors (writer : LineWriter) (event : Event) : Nat :=
  if event.isComplete && !writer.flushes then 1 else 0

/-- What one event does to a sink, apart from what goes to the terminal. -/
theorem handle_spec (sink : TsvSink) (event : Event) :
    (sink.handle event).writer = sink.writer.writeAll ((ofEvent event).map Printed.line) ∧
      (sink.handle event).errors = sink.errors + event.message?.toList.length ∧
      (sink.handle event).writeErrors = sink.writeErrors +
        sink.writer.refusals ((ofEvent event).map Printed.line) +
        flushErrors sink.writer event := by
  cases event with
  | header columns total =>
      simp only [handle, writeLine, ofEvent, List.map_cons, List.map_nil, LineWriter.writeAll,
        LineWriter.refusals, List.foldl_cons, List.foldl_nil, Printed.line, flushErrors]
      refine ⟨trivial, rfl, ?_⟩
      split <;> rfl
  | rows batch =>
      rw [handle, foldl_writeLine]
      exact ⟨rfl, rfl, rfl⟩
  | error message => exact ⟨rfl, rfl, rfl⟩
  | complete total =>
      refine ⟨rfl, rfl, ?_⟩
      simp only [handle, flushErrors, ofEvent, Event.isComplete, Bool.true_and, List.map_nil,
        LineWriter.refusals]
      cases sink.writer.flushes <;> rfl

theorem writer_foldl_handle (events : List Event) (sink : TsvSink) :
    (events.foldl handle sink).writer =
      sink.writer.writeAll ((ofEvents events).map Printed.line) := by
  induction events generalizing sink with
  | nil => rfl
  | cons event rest inductionHypothesis =>
      change (rest.foldl handle (sink.handle event)).writer =
        sink.writer.writeAll ((ofEvent event ++ ofEvents rest).map Printed.line)
      rw [inductionHypothesis, (handle_spec sink event).1, List.map_append,
        LineWriter.writeAll_append]

theorem errors_foldl_handle (events : List Event) (sink : TsvSink) :
    (events.foldl handle sink).errors = sink.errors + (Event.messages events).length := by
  induction events generalizing sink with
  | nil => rfl
  | cons event rest inductionHypothesis =>
      have split : Event.messages (event :: rest) =
          event.message?.toList ++ Event.messages rest := by
        cases event <;> rfl
      rw [List.foldl_cons, inductionHypothesis, (handle_spec sink event).2.1, split,
        List.length_append]
      omega

theorem writeErrors_foldl_handle (events : List Event) (sink : TsvSink) :
    (events.foldl handle sink).writeErrors = sink.writeErrors +
      sink.writer.refusals ((ofEvents events).map Printed.line) +
      if sink.writer.flushes then 0 else events.countP Event.isComplete := by
  induction events generalizing sink with
  | nil => simp [ofEvents, LineWriter.refusals]
  | cons event rest inductionHypothesis =>
      obtain ⟨writer_eq, _, writeErrors_eq⟩ := handle_spec sink event
      have split : ofEvents (event :: rest) = ofEvent event ++ ofEvents rest := rfl
      -- What is left to write meets the writer that this event left behind.
      rw [List.foldl_cons, inductionHypothesis, writer_eq, writeErrors_eq,
        LineWriter.flushes_writeAll, split, List.map_append, LineWriter.refusals_append,
        List.countP_cons, flushErrors]
      cases sink.writer.flushes with
      | true => simp; omega
      | false => simp; omega

end TsvSink

end RowStream
