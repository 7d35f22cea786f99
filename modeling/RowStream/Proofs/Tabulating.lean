import RowStream.Proofs.Printing
import RowStream.Proofs.Splitting

/-!
# Lines and fields told apart

A field is written without tabs and line feeds, so the bytes of the output split into its lines and
a line into its fields.  `LineWriter.Room` follows a writer that takes so many lines and no more,
and `foldl_handleWhile` a sink that prints to it while flushing works at one time and fails at
another.  What comes out and what is counted follows from it (`output_splits`).
-/

set_option autoImplicit false

namespace RowStream

/-! ## Splitting -/

namespace Bytes

def tab : UInt8 := 0x09

theorem ofNat_notMem_ofText {mark : Char} (ascii : mark.toNat < 0x80) {text : String}
    (notThere : mark ∉ text.toList) : UInt8.ofNat mark.toNat ∉ ofText text := by
  intro member
  rw [ofText_eq, List.mem_flatMap] at member
  obtain ⟨char, inText, inChar⟩ := member
  rcases of_mem_utf8EncodeChar inChar with ⟨same, charAscii⟩ | large
  · rw [(ofNat_toNat_inj ascii charAscii).mp same] at notThere
    exact notThere inText
  · rw [UInt8.le_iff_toNat_le, UInt8.toNat_ofNat_of_lt' (Nat.lt_trans ascii (by decide))] at large
    exact absurd ascii (Nat.not_lt.mpr large)

theorem ofText_join (texts : List String) : ofText (String.join texts) = texts.flatMap ofText := by
  rw [ofText_eq, String.toList_join, List.flatMap_assoc]
  simp only [← ofText_eq]

end Bytes

namespace TsvSink

theorem clean_of_mem {field : String} {char : Char} (member : char ∈ (cleanField field).toList) :
    char ≠ '\t' ∧ char ≠ '\n' := by
  rw [cleanField, String.toList_ofList, List.mem_map] at member
  obtain ⟨source, _, written⟩ := member
  split at written
  · rw [← written]
    decide
  · rename_i plain
    rw [← written]
    exact not_or.mp plain

theorem ofText_line (fields : List String) :
    Bytes.ofText (line fields) =
      [Bytes.tab].intercalate (fields.map fun field => Bytes.ofText (cleanField field)) := by
  have tab_eq : Bytes.ofText "\t" = [Bytes.tab] := rfl
  rw [line, Bytes.ofText_intercalate, tab_eq, List.map_map]
  rfl

theorem splitOn_line {fields : List String} (some : fields ≠ []) :
    (Bytes.ofText (line fields)).splitOn Bytes.tab =
      fields.map fun field => Bytes.ofText (cleanField field) := by
  rw [ofText_line]
  refine List.splitOn_intercalate Bytes.tab (fun bytes member => ?_) (by simpa using some)
  obtain ⟨field, _, rfl⟩ := List.mem_map.mp member
  have noTab : '\t' ∉ (cleanField field).toList := fun there => (clean_of_mem there).1 rfl
  exact Bytes.ofNat_notMem_ofText (by decide) noTab

theorem lineFeed_notMem_line (fields : List String) :
    Bytes.lineFeed ∉ Bytes.ofText (line fields) := by
  rw [ofText_line]
  refine notMem_intercalate (by decide) fun bytes member => ?_
  obtain ⟨field, _, rfl⟩ := List.mem_map.mp member
  have unbroken : '\n' ∉ (cleanField field).toList := fun there => (clean_of_mem there).2 rfl
  exact Bytes.ofNat_notMem_ofText (by decide) unbroken

end TsvSink

namespace Printed

def fields : Printed → List String
  | .header columns => columns.map Column.name
  | .row cells => cells.map Cell.display

theorem line_eq (entry : Printed) : entry.line = TsvSink.line entry.fields := by
  cases entry <;> rfl

end Printed

/-! ## A writer with room for so many lines -/

namespace LineWriter

def withRoom (count : Nat) : LineWriter := { capacity := some count, flushes := true, lines := #[] }

/-- The writer took these lines and takes so many more. -/
structure Room (writer : LineWriter) (left : Nat) (taken : List String) : Prop where
  steady : ∀ offered, writer.stumbles offered = false
  capacity_eq : writer.capacity = some left
  lines_eq : writer.lines.toList = taken

namespace Room

variable {writer : LineWriter} {left : Nat} {taken : List String}

theorem withFlushes (room : Room writer left taken) (flushes : Bool) :
    Room { writer with flushes } left taken :=
  ⟨room.steady, room.capacity_eq, room.lines_eq⟩

theorem write (room : Room writer left taken) (line : String) :
    (writer.write line).1 = decide (0 < left) ∧
      Room (writer.write line).2 (left - 1) (taken ++ [line].take left) := by
  obtain ⟨steady, capacity_eq, lines_eq⟩ := room
  cases left with
  | zero =>
      have refused : writer.write line =
          (false, { writer with offered := writer.offered + 1 }) := by
        simp [LineWriter.write, steady, capacity_eq]
      rw [refused]
      exact ⟨rfl, steady, capacity_eq, by simpa using lines_eq⟩
  | succ left =>
      have accepted : writer.write line = (true,
          { writer with
            offered := writer.offered + 1, capacity := some left
            lines := writer.lines.push line }) := by
        simp [LineWriter.write, steady, capacity_eq]
      rw [accepted]
      exact ⟨(decide_eq_true (Nat.succ_pos left)).symm, steady, rfl, by simp [lines_eq]⟩

theorem writeAll (room : Room writer left taken) (lines : List String) :
    writer.refusals lines = lines.length - left ∧
      Room (writer.writeAll lines) (left - lines.length) (taken ++ lines.take left) := by
  induction lines generalizing writer left taken with
  | nil =>
      refine ⟨(Nat.zero_sub left).symm, ?_⟩
      rw [List.take_nil, List.append_nil]
      exact room
  | cons line rest inductionHypothesis =>
      obtain ⟨answer, next⟩ := room.write line
      obtain ⟨refused, last⟩ := inductionHypothesis next
      have refusals_eq : writer.refusals (line :: rest) =
          (if (writer.write line).1 then 0 else 1) + (writer.write line).2.refusals rest := rfl
      have left_eq : left - (line :: rest).length = left - 1 - rest.length := by
        rw [List.length_cons]
        omega
      have taken_eq : taken ++ (line :: rest).take left =
          taken ++ [line].take left ++ rest.take (left - 1) := by
        cases left <;> simp
      refine ⟨?_, ?_⟩
      · rw [refusals_eq, answer, refused, List.length_cons]
        cases left with
        | zero => simp; omega
        | succ left => simp
      · rw [left_eq, taken_eq]
        exact last

end Room

theorem room_withRoom (count : Nat) : Room (withRoom count) count [] := ⟨fun _ => rfl, rfl, rfl⟩

end LineWriter

/-! ## A sink that prints to it -/

namespace TsvSink

open LineWriter (Room withRoom)
open Printed (ofEvent ofEvents)

/-- Handles an event at a time when flushing works or at one when it does not. -/
def handleWhile (sink : TsvSink) (step : Event × Bool) : TsvSink :=
  { sink with writer := { sink.writer with flushes := step.2 } }.handle step.1

theorem foldl_handleWhile_steady (sink : TsvSink) (events : List Event) :
    (events.map fun event => (event, sink.writer.flushes)).foldl handleWhile sink =
      events.foldl handle sink := by
  induction events generalizing sink with
  | nil => rfl
  | cons event rest inductionHypothesis =>
      have flushes_eq : (sink.handle event).writer.flushes = sink.writer.flushes := by
        rw [(handle_spec sink event).1, LineWriter.flushes_writeAll]
      have later := inductionHypothesis (sink.handle event)
      rw [flushes_eq] at later
      exact later

def flushFails (step : Event × Bool) : Bool := step.1.isComplete && !step.2

theorem handleWhile_spec {sink : TsvSink} {left : Nat} {taken : List String}
    (room : Room sink.writer left taken) (step : Event × Bool) :
    let lines := (ofEvent step.1).map Printed.line
    Room (sink.handleWhile step).writer (left - lines.length) (taken ++ lines.take left) ∧
      (sink.handleWhile step).writeErrors =
        sink.writeErrors + (lines.length - left) + (if flushFails step then 1 else 0) ∧
      (sink.handleWhile step).errors = sink.errors + step.1.message?.toList.length := by
  intro lines
  obtain ⟨writer_eq, errors_eq, writeErrors_eq⟩ :=
    handle_spec { sink with writer := { sink.writer with flushes := step.2 } } step.1
  obtain ⟨refused, next⟩ := (room.withFlushes step.2).writeAll lines
  refine ⟨?_, ?_, errors_eq⟩
  · rw [handleWhile, writer_eq]
    exact next
  · rw [handleWhile, writeErrors_eq, refused]
    rfl

theorem foldl_handleWhile (sink : TsvSink) {left : Nat} {taken : List String}
    (room : Room sink.writer left taken) (steps : List (Event × Bool)) :
    let after := steps.foldl handleWhile sink
    let lines := (ofEvents (steps.map Prod.fst)).map Printed.line
    Room after.writer (left - lines.length) (taken ++ lines.take left) ∧
      after.writeErrors = sink.writeErrors + (lines.length - left) + steps.countP flushFails ∧
      after.errors = sink.errors + (Event.messages (steps.map Prod.fst)).length := by
  induction steps generalizing sink left taken with
  | nil => simpa [ofEvents, Event.messages] using room
  | cons step rest inductionHypothesis =>
      intro after lines
      obtain ⟨next, writeErrors_eq, errors_eq⟩ := handleWhile_spec room step
      obtain ⟨last, laterWriteErrors, laterErrors⟩ := inductionHypothesis _ next
      have lines_eq : lines = (ofEvent step.1).map Printed.line ++
          (ofEvents (rest.map Prod.fst)).map Printed.line := List.map_append
      have messages_eq : Event.messages (step.1 :: rest.map Prod.fst) =
          step.1.message?.toList ++ Event.messages (rest.map Prod.fst) := by
        cases step.1 <;> rfl
      refine ⟨?_, ?_, ?_⟩
      · rw [lines_eq, List.length_append, Nat.sub_add_eq, List.take_append, ← List.append_assoc]
        exact last
      · refine laterWriteErrors.trans ?_
        rw [writeErrors_eq, List.countP_cons, lines_eq, List.length_append]
        omega
      · refine laterErrors.trans ?_
        rw [errors_eq, List.map_cons, messages_eq, List.length_append, Nat.add_assoc]

theorem text_foldl_handleWhile (count : Nat) (steps : List (Event × Bool)) :
    (steps.foldl handleWhile (new (withRoom count))).writer.text =
      Printed.text ((ofEvents (steps.map Prod.fst)).take count) := by
  obtain ⟨room, _⟩ :=
    foldl_handleWhile (new (withRoom count)) (LineWriter.room_withRoom count) steps
  rw [LineWriter.text_eq, room.lines_eq, List.nil_append, Printed.text, ← List.map_take,
    List.map_map]
  rfl

theorem splitOn_text (printed : List Printed) :
    (Bytes.ofText (Printed.text printed)).splitOn Bytes.lineFeed =
      printed.map (fun entry => Bytes.ofText entry.line) ++ [[]] := by
  have lineFeed_eq : Bytes.ofText "\n" = [Bytes.lineFeed] := rfl
  have bytes_eq : Bytes.ofText (Printed.text printed) =
      (printed.map fun entry => Bytes.ofText entry.line).flatMap (· ++ [Bytes.lineFeed]) := by
    rw [Printed.text, Bytes.ofText_join, List.flatMap_map, List.flatMap_map]
    simp only [Bytes.ofText_append, lineFeed_eq]
  rw [bytes_eq]
  apply splitOn_flatMap_concat
  intro line member
  obtain ⟨entry, _, rfl⟩ := List.mem_map.mp member
  rw [entry.line_eq]
  exact lineFeed_notMem_line entry.fields

theorem ofEvents_filter (steps : List (Event × Bool)) :
    ofEvents ((steps.filter fun step => step.1.message?.isNone).map Prod.fst) =
      ofEvents (steps.map Prod.fst) := by
  induction steps with
  | nil => rfl
  | cons step rest inductionHypothesis =>
      obtain ⟨event, flushes⟩ := step
      cases event with
      | error message => exact inductionHypothesis
      | header | rows | complete => exact congrArg (ofEvent _ ++ ·) inductionHypothesis

/-- The output splits into one line for every header and row, as far as there is room, and a line
into the fields that it was made of.  The lines that there is no room for are counted, and so are
flushes that fail and errors, which leave nothing in the output. -/
theorem output_splits (count : Nat) (steps : List (Event × Bool)) :
    let sink := steps.foldl handleWhile (new (withRoom count))
    let printed := ofEvents (steps.map Prod.fst)
    (Bytes.ofText sink.writer.text).splitOn Bytes.lineFeed =
      (printed.take count).map (fun entry => Bytes.ofText entry.line) ++ [[]] ∧
    (∀ entry ∈ printed, entry.fields ≠ [] →
      (Bytes.ofText entry.line).splitOn Bytes.tab = entry.fields.map fun field =>
        Bytes.ofText (String.ofList (field.toList.map fun char =>
          if char = '\t' ∨ char = '\n' then ' ' else char))) ∧
    sink.writeErrors = (printed.drop count).length + steps.countP flushFails ∧
    sink.errors = (Event.messages (steps.map Prod.fst)).length ∧
    ((steps.filter fun step => step.1.message?.isNone).foldl handleWhile
      (new (withRoom count))).writer.text = sink.writer.text := by
  intro sink printed
  obtain ⟨_, writeErrors_eq, errors_eq⟩ :=
    foldl_handleWhile (new (withRoom count)) (LineWriter.room_withRoom count) steps
  refine ⟨?_, fun entry _ some => ?_, ?_, errors_eq.trans (Nat.zero_add _), ?_⟩
  · rw [text_foldl_handleWhile, splitOn_text]
  · rw [entry.line_eq]
    exact splitOn_line some
  · rw [List.length_drop, writeErrors_eq, List.length_map]
    exact congrArg (· + _) (Nat.zero_add _)
  · rw [text_foldl_handleWhile, text_foldl_handleWhile, ofEvents_filter]

/-- A row of a field with a tab and of a null, a row of nothing, and a last row that there is no
room for; the first flush works and the second one fails. -/
theorem output_splits_broken :
    let row : Row := [.text "a\tb\nc", .null]
    let steps : List (Event × Bool) :=
      [(.header [⟨"x\ty", "T"⟩] 3, false), (.rows [row, [], [.boolean true]], true),
        (.error "e", true), (.complete 3, true), (.complete 3, false)]
    let sink := steps.foldl handleWhile (new (withRoom 3))
    Printed.row row ∈ ofEvents (steps.map Prod.fst) ∧ (Printed.row row).fields ≠ [] ∧
      (Bytes.ofText (Printed.row row).line).splitOn Bytes.tab =
        [Bytes.ofText "a b c", Bytes.ofText ""] ∧
      (Bytes.ofText sink.writer.text).splitOn Bytes.lineFeed =
        [Bytes.ofText "x y", Bytes.ofText "a b c\t", [], []] ∧
      sink.writeErrors = 2 ∧ sink.errors = 1 := by
  intro row steps sink
  have printed : Printed.row row ∈ ofEvents (steps.map Prod.fst) :=
    List.mem_cons_of_mem _ List.mem_cons_self
  have some : (Printed.row row).fields ≠ [] := List.cons_ne_nil _ _
  obtain ⟨lines, fields, writeErrors_eq, errors_eq, _⟩ := output_splits 3 steps
  exact ⟨printed, some, fields _ printed some, lines, writeErrors_eq, errors_eq⟩

end TsvSink

end RowStream
