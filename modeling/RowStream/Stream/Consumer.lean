import RowStream.Frame
import RowStream.Stream.Interpreter

/-!
# One stream from its first byte to its outcome

A `Consumer` turns the chunks of one response body into events.  It reaches at most one
outcome: the body ends and the stream is complete, the transport or a line that is too long
makes it fail, or the reader cancels it.  After that every operation leaves it as it is.

`events` and `notices` hold all that was sent and logged so far, oldest first.
-/

set_option autoImplicit false

namespace RowStream

inductive Outcome where
  | completed (totalRows : Nat)
  | failed
  | cancelled
  deriving DecidableEq, Repr

structure Consumer where
  decoder : FrameDecoder
  interpreter : Interpreter
  outcome : Option Outcome
  events : Array Event
  notices : Array Notice

namespace Consumer

def new (limit : Nat) : Consumer :=
  { decoder := .new limit, interpreter := .new, outcome := none, events := #[], notices := #[] }

def isTerminated (consumer : Consumer) : Bool := consumer.outcome.isSome

def buffered (consumer : Consumer) : Nat := consumer.decoder.buffered

def stats (consumer : Consumer) : Stats := consumer.interpreter.stats

def headerSeen (consumer : Consumer) : Bool := consumer.interpreter.headerSeen

def rowsSeen (consumer : Consumer) : Nat := consumer.interpreter.stats.rows

def send (consumer : Consumer) (event : Event) : Consumer :=
  { consumer with events := consumer.events.push event }

def log (consumer : Consumer) (notice : Notice) : Consumer :=
  { consumer with notices := consumer.notices.push notice }

/-- Ends the stream, dropping the bytes that wait. -/
def settle (consumer : Consumer) (outcome : Outcome) : Consumer :=
  { consumer with decoder := consumer.decoder.finish.2, outcome := some outcome }

def failWith (consumer : Consumer) (message : String) : Consumer :=
  (consumer.settle .failed).send (.error message)

def interpretLine (consumer : Consumer) (line : Bytes) : Consumer :=
  let (interpreter, emission) := consumer.interpreter.interpret line
  { consumer with
    interpreter
    events := consumer.events.appendList emission.events
    notices := consumer.notices.appendList emission.notices }

/-- Takes up to `count` frames out of the bytes that wait and reads each one. -/
def absorb : Nat → Consumer → Consumer
  | 0, consumer => consumer
  | count + 1, consumer =>
      match consumer.decoder.pull with
      | (none, decoder) => { consumer with decoder }
      | (some (.ok line), decoder) => absorb count ({ consumer with decoder }.interpretLine line)
      | (some (.error cause), decoder) =>
          ({ consumer with decoder }.log (.aborted cause)).failWith cause.message

/-- One chunk of the body.  All records that it completes are read at once. -/
def feed (consumer : Consumer) (chunk : Bytes) : Consumer :=
  if consumer.isTerminated then consumer
  else
    let decoder := consumer.decoder.append chunk
    absorb (decoder.unread.length + 1) { consumer with decoder }

def finish (consumer : Consumer) : Consumer :=
  if consumer.isTerminated then consumer
  else
    let reported :=
      match consumer.decoder.finish.1 with
      | none => consumer
      | some length =>
          (consumer.log (.truncated length)).send
            (.error ("Truncated record at end of stream (" ++ toString length ++
              " bytes discarded)"))
    (reported.settle (.completed consumer.rowsSeen)).send (.complete consumer.rowsSeen)

def fail (consumer : Consumer) (message : String) : Consumer :=
  if consumer.isTerminated then consumer
  else (consumer.log (.failed message)).failWith message

/-- An error that did not come from the body; the stream goes on. -/
def report (consumer : Consumer) (message : String) : Consumer :=
  if consumer.isTerminated then consumer
  else (consumer.log (.reported message)).send (.error message)

/-- The reader gives up; nothing more is sent. -/
def cancel (consumer : Consumer) : Consumer :=
  if consumer.isTerminated then consumer else consumer.settle .cancelled

end Consumer

end RowStream
