import RowStream.BanquetUrl
import RowStream.Event

/-!
# The results view

What is known about the query on the screen: its parts, the rows that arrived, the errors, and
how it stands.  Events are folded into it one by one with `Results.apply`.  Rows are only ever
added, until the next query begins, and no event moves the scroll position.

Time is kept outside; `ClockReading` carries what the lines of text need to know of it.
-/

set_option autoImplicit false

namespace RowStream

inductive QueryStatus where
  | idle
  | running
  | completed (totalRows : Nat)
  | failed (message : String)
  | cancelled
  deriving DecidableEq, Repr

def QueryStatus.isRunning : QueryStatus → Bool
  | .running => true
  | _ => false

structure ClockReading where
  /-- When the query was started, in seconds of the day. -/
  startedAt : Nat
  /-- How long it has taken, up to now or up to its end, in tenths of a second. -/
  tenths : Nat
  deriving DecidableEq, Repr

namespace ClockReading

def twoDigits (value : Nat) : String := toString (value / 10 % 10) ++ toString (value % 10)

def startedText (clock : ClockReading) : String :=
  twoDigits (clock.startedAt / 3600) ++ ":" ++ twoDigits (clock.startedAt / 60 % 60) ++ ":" ++
    twoDigits (clock.startedAt % 60)

def elapsedText (clock : ClockReading) : String :=
  toString (clock.tenths / 10) ++ "." ++ toString (clock.tenths % 10) ++ "s"

end ClockReading

structure Results where
  banquetUrl : Option String
  info : Option QueryInfo
  columns : List Column
  /-- The columns from the schema lookup, for as long as no header names any. -/
  schema : List Column
  rows : List Row
  advertisedTotal : Option UInt64
  batches : Nat
  errors : List String
  status : QueryStatus
  scroll : Nat

namespace Results

def empty : Results :=
  { banquetUrl := none, info := none, columns := [], schema := [], rows := []
    advertisedTotal := none, batches := 0, errors := [], status := .idle, scroll := 0 }

def start (banquetUrl : String) : Results :=
  { empty with
    banquetUrl := some banquetUrl, info := some (.parse banquetUrl), status := .running }

def isTimed (results : Results) : Bool := results.banquetUrl.isSome

def apply (results : Results) : Event → Results
  | .header columns total => { results with columns, advertisedTotal := some total }
  | .rows batch =>
      { results with rows := results.rows ++ batch, batches := results.batches + 1 }
  | .error message => { results with errors := results.errors ++ [message] }
  | .complete totalRows => { results with status := .completed totalRows }

def applySchema (results : Results) (schema : List Column) : Results := { results with schema }

/-- The query ended without completing; the last error says why. -/
def markFailed (results : Results) : Results :=
  if results.status.isRunning then
    { results with
      status := .failed (results.errors.getLast?.getD "Query ended unexpectedly") }
  else results

def markCancelled (results : Results) : Results :=
  if results.status.isRunning then { results with status := .cancelled } else results

/-! ## Columns -/

def knownColumns (results : Results) : List Column :=
  if results.columns.isEmpty then results.schema else results.columns

/-- As many columns as are known or as the widest row has. -/
def columnCount (results : Results) : Nat :=
  results.rows.foldl (fun widest row => max widest row.length) results.knownColumns.length

def columnName? (results : Results) (index : Nat) : Option String :=
  results.knownColumns[index]?.map Column.name

/-! ## Lines of text -/

/-- The parts of the query and what is known of its result. -/
def summaryLine? (results : Results) (clock : ClockReading) : Option String :=
  results.info.map fun info =>
    let columns := results.knownColumns.length
    " | ".intercalate (
      [info.dataset, "table " ++ info.table] ++
      (info.query.map ("?" ++ ·)).toList ++
      (if 0 < columns then [toString columns ++ " columns"] else []) ++
      (results.advertisedTotal.map fun total => "total " ++ toString total.toNat).toList ++
      (if results.isTimed then ["started " ++ clock.startedText] else []))

def elapsedSuffix (results : Results) (clock : ClockReading) : String :=
  if results.isTimed then " in " ++ clock.elapsedText else ""

def statusLine (results : Results) (clock : ClockReading) : String :=
  let loaded := toString results.rows.length
  match results.status with
  | .idle => "Ready"
  | .running =>
      match results.advertisedTotal with
      | some total => "Streaming... " ++ loaded ++ " of " ++ toString total.toNat ++ " rows"
      | none => "Executing query (streaming)... " ++ loaded ++ " rows"
  | .completed totalRows =>
      let done := "Done! Loaded " ++ toString totalRows ++ " rows" ++ results.elapsedSuffix clock
      match results.errors.getLast? with
      | some last =>
          done ++ " with " ++ toString results.errors.length ++ " error(s): " ++ last
      | none => done
  | .failed message => "Error: " ++ message ++ " (" ++ loaded ++ " rows loaded)"
  | .cancelled => "Cancelled after " ++ loaded ++ " rows" ++ results.elapsedSuffix clock

/-! ## Scrolling -/

/-- The last row, which is the furthest that one can scroll. -/
def maxScroll (results : Results) : Nat := results.rows.length - 1

def scrollUp (results : Results) (count : Nat) : Results :=
  { results with scroll := results.scroll - count }

def scrollDown (results : Results) (count : Nat) : Results :=
  { results with scroll := min (results.scroll + count) results.maxScroll }

def scrollTop (results : Results) : Results := { results with scroll := 0 }

def scrollBottom (results : Results) : Results := { results with scroll := results.maxScroll }

def visibleRows (results : Results) (height : Nat) : List Row :=
  (results.rows.drop results.scroll).take height

end Results

end RowStream
