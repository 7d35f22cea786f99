import RowStream.Event

/-!
# From lines to events

An `Interpreter` reads one complete line after the other.  A line that is not a record is
counted and passed over, so that one bad line does not end a healthy stream.  A record with an
error yields that error and nothing else; otherwise its header comes before its rows, and an
empty batch of rows is no batch.

The total of a header is the one its own record carries, else that of the header before it.
-/

set_option autoImplicit false

namespace RowStream

structure Stats where
  frames : Nat
  records : Nat
  decodeFailures : Nat
  rows : Nat
  errorRecords : Nat
  deriving DecidableEq, Repr

def Stats.zero : Stats := ⟨0, 0, 0, 0, 0⟩

/-- What one step of a stream sends and logs. -/
structure Emission where
  events : List Event
  notices : List Notice

namespace Emission

def none : Emission := ⟨[], []⟩

def append (first second : Emission) : Emission :=
  ⟨first.events ++ second.events, first.notices ++ second.notices⟩

instance : Append Emission := ⟨append⟩

end Emission

structure Interpreter where
  headerSeen : Bool
  advertisedTotal : Option UInt64
  /-- Rows without a header were noticed already. -/
  warnedHeaderless : Bool
  stats : Stats
  deriving DecidableEq, Repr

namespace Interpreter

def new : Interpreter :=
  { headerSeen := false, advertisedTotal := none, warnedHeaderless := false, stats := .zero }

def onError (interpreter : Interpreter) (message : String) : Interpreter × Emission :=
  let stats := interpreter.stats
  ({ interpreter with stats := { stats with errorRecords := stats.errorRecords + 1 } },
    ⟨[.error message], [.serverError message]⟩)

def onHeader (interpreter : Interpreter) (columns : List Column) (total : Option UInt64) :
    Interpreter × Emission :=
  let total := (total.or interpreter.advertisedTotal).getD 0
  ({ interpreter with headerSeen := true, advertisedTotal := some total },
    ⟨[.header columns total], if interpreter.headerSeen then [.secondHeader] else []⟩)

def onRows (interpreter : Interpreter) (rows : List Row) : Interpreter × Emission :=
  if rows.isEmpty then (interpreter, .none)
  else
    let stats := interpreter.stats
    let warns := !interpreter.headerSeen && !interpreter.warnedHeaderless
    ({ interpreter with
        warnedHeaderless := interpreter.warnedHeaderless || warns
        stats := { stats with rows := stats.rows + rows.length } },
      ⟨[.rows rows], if warns then [.rowsBeforeHeader] else []⟩)

def dispatch (interpreter : Interpreter) (record : Record) : Interpreter × Emission :=
  match record.reportedError? with
  | some message => interpreter.onError message
  | none =>
      let (afterHeader, header) :=
        match record.columns with
        | some columns => interpreter.onHeader columns record.total
        | none => (interpreter, .none)
      let (afterRows, rows) :=
        match record.rows with
        | some rows => afterHeader.onRows rows
        | none => (afterHeader, .none)
      (afterRows, header ++ rows)

def interpret (interpreter : Interpreter) (line : Bytes) : Interpreter × Emission :=
  let stats := { interpreter.stats with frames := interpreter.stats.frames + 1 }
  match Record.decode? line with
  | none =>
      ({ interpreter with stats := { stats with decodeFailures := stats.decodeFailures + 1 } },
        ⟨[], [.undecodable line.length]⟩)
  | some record =>
      { interpreter with stats := { stats with records := stats.records + 1 } }.dispatch record

end Interpreter

end RowStream
