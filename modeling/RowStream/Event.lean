import RowStream.Frame
import RowStream.Record

/-!
# Events of a streamed result

What a stream tells its reader, in order: a header, batches of rows, errors, and at the end of
an intact stream its completion.  An `Update` is an event with the number of the query that it
belongs to, for readers that follow several queries over one queue.  A `Notice` is what goes to
the log.
-/

set_option autoImplicit false

namespace RowStream

inductive Event where
  | header (columns : List Column) (total : UInt64)
  | rows (batch : List Row)
  | error (message : String)
  | complete (totalRows : Nat)

structure Update where
  queryId : Nat
  event : Event

inductive NoticeLevel where
  | warning
  | error
  deriving DecidableEq, Repr

def NoticeLevel.name : NoticeLevel → String
  | .warning => "WARN"
  | .error => "ERROR"

inductive Notice where
  | undecodable (length : Nat)
  | serverError (message : String)
  | secondHeader
  | rowsBeforeHeader
  /-- The body ended inside a record; this many bytes were dropped. -/
  | truncated (length : Nat)
  | reported (message : String)
  | aborted (cause : FrameError)
  | failed (message : String)
  deriving DecidableEq, Repr

namespace Notice

def level : Notice → NoticeLevel
  | .aborted _ => .error
  | .failed _ => .error
  | _ => .warning

def message : Notice → String
  | .undecodable length => "Failed to decode record (" ++ toString length ++ " bytes)"
  | .serverError message => "Server reported error: " ++ message
  | .secondHeader => "Received a second header; replacing the previous schema"
  | .rowsBeforeHeader => "Rows arrived before any header"
  | .truncated length =>
      "Stream ended with a truncated record (" ++ toString length ++ " bytes discarded)"
  | .reported message => "Stream error: " ++ message
  | .aborted cause => "Aborting stream: " ++ cause.message
  | .failed message => "Stream failed: " ++ message

end Notice

end RowStream
