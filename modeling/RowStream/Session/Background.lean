import RowStream.Session.Basic
import RowStream.Stream.Query

/-!
# What happens behind a session

Jobs run in the background and leave their results to be picked up: events of queries in one
queue, answers of lookups in their places.  The `poll` functions pick them up.

A query whose token is cancelled sends nothing more.  Events that it had sent before are still in
the queue and are passed over there, because the query is not the active one any more.
-/

set_option autoImplicit false

namespace RowStream.Session

open Http (Network Request)

/-- What the job of a query does, which looks at the query's token. -/
def queryEvents (session : Session) (network : Network) (id : Nat) (banquetUrl : String) :
    QueryRun :=
  let cancellation : Cancellation := if id ∈ session.liveTokens then .never else .atStart
  QueryRun.run session.client network banquetUrl cancellation

def finishQuery (active : Option ActiveQuery) (id : Nat) : Option ActiveQuery :=
  active.map fun query => if query.id = id then { query with finished := true } else query

/-- Runs one job to its end; the second part is what the server saw of it. -/
def runJob (network : Network) (session : Session) (job : Job) : Session × List Request :=
  match job with
  | .query id banquetUrl =>
      let run := session.queryEvents network id banquetUrl
      let sent := run.consumer.events.toList.map fun event => { queryId := id, event }
      ({ session with
          updates := session.updates ++ sent
          active := finishQuery session.active id }, run.seen)
  | .schema ticket dataset table =>
      let (answer, seen) := session.client.fetchSchema network dataset table
      ({ session with schema := session.schema.deliver ticket answer }, seen)
  | .health ticket =>
      let (answer, seen) := session.client.health network
      ({ session with health := session.health.deliver ticket answer }, seen)

def runJobs (session : Session) (network : Network) : Session × List Request :=
  session.jobs.foldl (fun (current, seen) job =>
    let (after, sent) := runJob network current job
    (after, seen ++ sent)) ({ session with jobs := [] }, [])

def applyUpdate (active : Option Nat) (session : Session) (update : Update) : Session :=
  if active = some update.queryId then
    { session with results := session.results.apply update.event }.markDirty
  else session

/-- What follows from the results after all events were picked up.  `finished` says that the
query's job had ended before they were. -/
def settleQuery (session : Session) (finished : Bool) : Session :=
  if !session.results.status.isRunning then session.dropHandle
  else if finished then
    let results := session.results.markFailed
    let failed := { session with results }
    let reported :=
      match results.status with
      | .failed message => failed.setError message
      | _ => failed
    reported.dropHandle.markDirty
  else session

/-- Picks up the events in the queue, given whether the active query's job was seen to have ended
before. -/
def drainUpdates (session : Session) (finished : Bool) : Session :=
  let active := session.active.map ActiveQuery.id
  let drained := session.updates.foldl (applyUpdate active) { session with updates := [] }
  drained.settleQuery finished

def pollUpdates (session : Session) : Session :=
  session.drainUpdates ((session.active.map ActiveQuery.finished).getD false)

def pollHealth (session : Session) : Session :=
  match session.health with
  | .answered (.ok ()) => { session with health := .none, online := some true }.markDirty
  | .answered (.error error) =>
      { session with health := .none, online := some false }.setError
        ("Server not reachable: " ++ error.describe)
  | _ => session

/-- Picks up the columns of the table.  A lookup that failed changes nothing: a header names the
columns all the same. -/
def pollSchema (session : Session) : Session :=
  match session.schema with
  | .answered (.ok columns) =>
      { session with schema := .none, results := session.results.applySchema columns }.markDirty
  | .answered (.error _) => { session with schema := .none }
  | _ => session

def poll (session : Session) : Session := session.pollUpdates.pollHealth.pollSchema

end RowStream.Session
