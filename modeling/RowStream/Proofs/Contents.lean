import RowStream.Proofs.Interpretation

/-!
# What a line holds

A line that is a record holds an error, or it holds a heading, a batch of rows, both or neither.
Everything that an interpreter does with the line follows from these three, and is said here once:
what it sends, in which order (`events_interpret`), what it remembers, and what it counts
(`stats_interpret`).  A heading without a total is announced with the total of the heading before
it, which is why an interpreter remembers one.
-/

set_option autoImplicit false

namespace RowStream

namespace Record

def heading? (record : Record) : Option (List Column × Option UInt64) :=
  if record.reportedError?.isSome then none else record.columns.map (·, record.total)

def batch? (record : Record) : Option (List Row) :=
  if record.reportedError?.isSome then none else record.rows.filter (!·.isEmpty)

def reportedIn? (line : Bytes) : Option String := (decode? line).bind reportedError?

def headingIn? (line : Bytes) : Option (List Column × Option UInt64) := (decode? line).bind heading?

def batchIn? (line : Bytes) : Option (List Row) := (decode? line).bind batch?

theorem alone_of_reported {record : Record} {message : String}
    (reported : record.reportedError? = some message) :
    record.heading? = none ∧ record.batch? = none := by
  simp [heading?, batch?, reported]

theorem of_unreported {record : Record} (unreported : record.reportedError? = none) :
    record.heading? = record.columns.map (·, record.total) ∧
      record.batch? = record.rows.filter (!·.isEmpty) := by
  simp [heading?, batch?, unreported]

theorem alone_of_reportedIn {line : Bytes} {message : String}
    (reported : reportedIn? line = some message) :
    headingIn? line = none ∧ batchIn? line = none := by
  obtain ⟨record, decoded, error_eq⟩ := Option.bind_eq_some_iff.mp reported
  rw [headingIn?, batchIn?, decoded]
  exact alone_of_reported error_eq

end Record

/-! ## Counters -/

namespace Stats

def add (first second : Stats) : Stats :=
  { frames := first.frames + second.frames
    records := first.records + second.records
    decodeFailures := first.decodeFailures + second.decodeFailures
    rows := first.rows + second.rows
    errorRecords := first.errorRecords + second.errorRecords }

theorem add_right_comm (first second third : Stats) :
    (first.add second).add third = (first.add third).add second := by
  simp only [add, Nat.add_right_comm]

/-- What a record counts for, apart from its line. -/
def ofRecord (record : Record) : Stats :=
  { Stats.zero with
    rows := (record.batch?.getD []).length
    errorRecords := if record.reportedError?.isSome then 1 else 0 }

def ofLine (line : Bytes) : Stats :=
  { frames := 1
    records := if (Record.decode? line).isSome then 1 else 0
    decodeFailures := if (Record.decode? line).isSome then 0 else 1
    rows := ((Record.batchIn? line).getD []).length
    errorRecords := if (Record.reportedIn? line).isSome then 1 else 0 }

end Stats

theorem Emission.append_assoc (first second third : Emission) :
    first ++ second ++ third = first ++ (second ++ third) := by
  change Emission.mk (first.events ++ second.events ++ third.events)
    (first.notices ++ second.notices ++ third.notices) = _
  rw [List.append_assoc, List.append_assoc]
  rfl

namespace Interpreter

/-- The total that a heading is announced with. -/
def totalOf (interpreter : Interpreter) (heading : List Column × Option UInt64) : UInt64 :=
  (heading.2.or interpreter.advertisedTotal).getD 0

def announce (interpreter : Interpreter) (heading : List Column × Option UInt64) : Event :=
  .header heading.1 (interpreter.totalOf heading)

/-! ## Rows -/

theorem events_onRows (interpreter : Interpreter) (rows : Option (List Row)) :
    (interpreter.onRows (rows.getD [])).2.events =
      ((rows.filter (!·.isEmpty)).map Event.rows).toList := by
  cases rows with
  | none => rfl
  | some rows => cases rows <;> rfl

theorem stats_onRows (interpreter : Interpreter) (rows : Option (List Row)) :
    (interpreter.onRows (rows.getD [])).1.stats =
      { interpreter.stats with
        rows := interpreter.stats.rows + ((rows.filter (!·.isEmpty)).getD []).length } := by
  cases rows with
  | none => rfl
  | some rows => cases rows <;> rfl

theorem headers_onRows (interpreter : Interpreter) (rows : List Row) :
    (interpreter.onRows rows).1.headerSeen = interpreter.headerSeen ∧
      (interpreter.onRows rows).1.advertisedTotal = interpreter.advertisedTotal := by
  unfold onRows
  split <;> exact ⟨rfl, rfl⟩

/-! ## Records -/

def onColumns (interpreter : Interpreter) (record : Record) : Interpreter × Emission :=
  match record.columns with
  | some columns => interpreter.onHeader columns record.total
  | none => (interpreter, .none)

theorem dispatch_of_reported (interpreter : Interpreter) {record : Record} {message : String}
    (reported : record.reportedError? = some message) :
    interpreter.dispatch record = interpreter.onError message := by
  unfold dispatch
  rw [reported]

/-- A record without an error is its columns and then its rows; no rows are as good as none. -/
theorem dispatch_of_unreported (interpreter : Interpreter) {record : Record}
    (unreported : record.reportedError? = none) :
    interpreter.dispatch record =
      (((interpreter.onColumns record).1.onRows (record.rows.getD [])).1,
        (interpreter.onColumns record).2 ++
          ((interpreter.onColumns record).1.onRows (record.rows.getD [])).2) := by
  unfold dispatch onColumns
  rw [unreported]
  cases record.columns <;> cases record.rows <;> rfl

theorem events_dispatch (interpreter : Interpreter) (record : Record) :
    (interpreter.dispatch record).2.events =
      (record.reportedError?.map Event.error).toList ++
        (record.heading?.map interpreter.announce).toList ++
          (record.batch?.map Event.rows).toList := by
  cases error_eq : record.reportedError? with
  | some message =>
      obtain ⟨noHeading, noBatch⟩ := Record.alone_of_reported error_eq
      rw [interpreter.dispatch_of_reported error_eq, noHeading, noBatch]
      rfl
  | none =>
      obtain ⟨heading_eq, batch_eq⟩ := Record.of_unreported error_eq
      rw [interpreter.dispatch_of_unreported error_eq, heading_eq, batch_eq, onColumns]
      cases record.columns with
      | none => exact events_onRows _ record.rows
      | some columns => exact congrArg (_ :: ·) (events_onRows _ record.rows)

theorem headers_dispatch (interpreter : Interpreter) (record : Record) :
    (interpreter.dispatch record).1.headerSeen =
        (interpreter.headerSeen || record.heading?.isSome) ∧
      (interpreter.dispatch record).1.advertisedTotal =
        (record.heading?.map interpreter.totalOf).or interpreter.advertisedTotal := by
  cases error_eq : record.reportedError? with
  | some message =>
      rw [interpreter.dispatch_of_reported error_eq, (Record.alone_of_reported error_eq).1]
      exact ⟨(Bool.or_false _).symm, rfl⟩
  | none =>
      obtain ⟨seen_eq, total_eq⟩ :=
        headers_onRows (interpreter.onColumns record).1 (record.rows.getD [])
      rw [interpreter.dispatch_of_unreported error_eq, seen_eq, total_eq,
        (Record.of_unreported error_eq).1, onColumns]
      cases record.columns with
      | none => exact ⟨(Bool.or_false _).symm, rfl⟩
      | some columns => exact ⟨(Bool.or_true _).symm, rfl⟩

theorem stats_dispatch (interpreter : Interpreter) (record : Record) :
    (interpreter.dispatch record).1.stats = interpreter.stats.add (.ofRecord record) := by
  cases error_eq : record.reportedError? with
  | some message =>
      rw [interpreter.dispatch_of_reported error_eq, Stats.ofRecord,
        (Record.alone_of_reported error_eq).2, error_eq]
      rfl
  | none =>
      rw [interpreter.dispatch_of_unreported error_eq, Stats.ofRecord,
        (Record.of_unreported error_eq).2, error_eq, stats_onRows, onColumns]
      cases record.columns <;> rfl

/-! ## Lines -/

theorem events_interpret (interpreter : Interpreter) (line : Bytes) :
    (interpreter.interpret line).2.events =
      ((Record.reportedIn? line).map Event.error).toList ++
        ((Record.headingIn? line).map interpreter.announce).toList ++
          ((Record.batchIn? line).map Event.rows).toList := by
  unfold interpret Record.reportedIn? Record.headingIn? Record.batchIn?
  cases Record.decode? line with
  | none => rfl
  | some record => exact events_dispatch _ record

theorem headers_interpret (interpreter : Interpreter) (line : Bytes) :
    (interpreter.interpret line).1.headerSeen =
        (interpreter.headerSeen || (Record.headingIn? line).isSome) ∧
      (interpreter.interpret line).1.advertisedTotal =
        ((Record.headingIn? line).map interpreter.totalOf).or interpreter.advertisedTotal := by
  unfold interpret Record.headingIn?
  cases Record.decode? line with
  | none => exact ⟨(Bool.or_false _).symm, rfl⟩
  | some record => exact headers_dispatch _ record

theorem stats_interpret (interpreter : Interpreter) (line : Bytes) :
    (interpreter.interpret line).1.stats = interpreter.stats.add (.ofLine line) := by
  unfold interpret Stats.ofLine Record.reportedIn? Record.batchIn?
  cases Record.decode? line with
  | none => rfl
  | some record => exact stats_dispatch _ record

theorem interpretAll_cons (interpreter : Interpreter) (line : Bytes) (rest : List Bytes) :
    interpreter.interpretAll (line :: rest) =
      (((interpreter.interpret line).1.interpretAll rest).1,
        (interpreter.interpret line).2 ++ ((interpreter.interpret line).1.interpretAll rest).2) :=
  rfl

theorem interpretAll_append (interpreter : Interpreter) (first second : List Bytes) :
    interpreter.interpretAll (first ++ second) =
      (((interpreter.interpretAll first).1.interpretAll second).1,
        (interpreter.interpretAll first).2 ++
          ((interpreter.interpretAll first).1.interpretAll second).2) := by
  induction first generalizing interpreter with
  | nil => rfl
  | cons line rest inductionHypothesis =>
      rw [List.cons_append, interpretAll_cons, inductionHypothesis, interpretAll_cons,
        Emission.append_assoc]

end Interpreter

end RowStream
