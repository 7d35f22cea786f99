import RowStream.Client
import RowStream.Stream.Consumer

/-!
# Streaming a query

A query is sent as one request, and the chunks of its reply go to a consumer one by one.  The
reader may cancel: the query looks for that before it sends anything, before every chunk and
before the end of the body, and what it does between two looks is never undone.

An error status does not end a query, because the server tells its errors in the body.  When the
body told none, the status itself is reported before the end.
-/

set_option autoImplicit false

namespace RowStream

open Http (Reply Network Request)

inductive Cancellation where
  | never
  | atStart
  /-- While it receives its event of this number, counted from one. -/
  | duringEvent (number : Nat)
  deriving DecidableEq, Repr

namespace Cancellation

def holds (cancellation : Cancellation) (consumer : Consumer) : Bool :=
  match cancellation with
  | .never => false
  | .atStart => true
  | .duringEvent number => number ≤ consumer.events.size

end Cancellation

/-- A query that ran, and the requests that the server saw of it. -/
structure QueryRun where
  consumer : Consumer
  seen : List Request

namespace QueryRun

def endBody (status : Http.Status) (consumer : Consumer) : Consumer :=
  let reported :=
    if !status.isSuccess && consumer.stats.errorRecords = 0 then
      consumer.report (ClientError.message (.status status))
    else consumer
  reported.finish

/-- Reads the chunks that are left of a body, and its end. -/
def readBody (cancellation : Cancellation) (reply : Reply) : List Bytes → Consumer → Consumer
  | [], consumer =>
      if cancellation.holds consumer then consumer.cancel
      else
        match reply.ending with
        | .clean => endBody reply.status consumer
        | .cut => consumer.fail (Http.TransportError.describe .brokenBody)
  | chunk :: rest, consumer =>
      if cancellation.holds consumer then consumer.cancel
      else
        let fed := consumer.feed chunk
        if fed.isTerminated then fed else readBody cancellation reply rest fed

def run (client : Client) (network : Network) (banquetUrl : String)
    (cancellation : Cancellation) : QueryRun :=
  let consumer := Consumer.new client.lineLimit
  if cancellation.holds consumer then { consumer := consumer.cancel, seen := [] }
  else
    let exchange := network.send (client.queryRequest banquetUrl)
    match exchange.result with
    | .error error => { consumer := consumer.fail error.describe, seen := exchange.seen }
    | .ok reply =>
        { consumer := readBody cancellation reply reply.chunks consumer, seen := exchange.seen }

end QueryRun

end RowStream
