import RowStream.Arguments
import RowStream.Stream.Query
import RowStream.Tsv

/-!
# The program without a terminal

`Invocation.plan` decides what a call of the program is to do: ask whether the server is up,
stream one query to standard output, or open the terminal.  Nothing is sent before the
arguments and the settings are known to be good.  `runCheck` and `runHeadless` say what the
first two print and how they exit.
-/

set_option autoImplicit false

namespace RowStream

open Http (Network Request)

inductive Failure where
  | arguments (error : ArgumentError)
  | settings (error : SettingsError)
  | client (error : ClientError)
  | urlMissing
  | notReachable (server : Url) (error : ClientError)
  | outputFailed (count : Nat)
  | completedWithErrors
  | cancelled
  | queryFailed
  deriving DecidableEq, Repr

namespace Failure

def message : Failure → String
  | .arguments error => error.message
  | .settings error => error.message
  | .client error => error.message
  | .urlMissing => "--headless needs a Banquet URL\n" ++ usage
  | .notReachable server error =>
      "Server at " ++ server.serialize ++ " is not reachable: " ++ error.describe
  | .outputFailed count => "Failed to write output (" ++ toString count ++ " errors)"
  | .completedWithErrors => "Query completed with errors"
  | .cancelled => "Query cancelled"
  | .queryFailed => "Query failed"

def cause? : Failure → Option String
  | .settings error => some error.cause
  | _ => none

def report (failure : Failure) : String :=
  "Error: " ++ failure.message ++
    (match failure.cause? with
    | some cause => "\n\nCaused by:\n    " ++ cause
    | none => "") ++ "\n"

end Failure

inductive Invocation where
  | check (client : Client)
  | headless (client : Client) (banquetUrl : String)
  | interactive (client : Client) (banquetUrl : Option String)

/-- What a call of the program printed, and what the server saw of it. -/
structure Transcript where
  output : String
  diagnostics : String
  exitCode : Nat
  seen : List Request

namespace Transcript

def ofFailure (failure : Failure) : Transcript :=
  { output := "", diagnostics := failure.report, exitCode := 1, seen := [] }

end Transcript

namespace Invocation

def plan (words : List String) (environment : Environment) : Except Failure Invocation := do
  let arguments ← (Arguments.parse words).mapError Failure.arguments
  let settings ← (Settings.read environment).mapError Failure.settings
  let client ← (Client.new settings).mapError Failure.client
  if arguments.check then return check client
  else if arguments.headless then
    match arguments.banquetUrl with
    | some banquetUrl => return headless client banquetUrl
    | none => throw .urlMissing
  else return interactive client arguments.banquetUrl

/-- The request that a call will send, where it sends just one. -/
def request? : Invocation → Option Request
  | .check client => some client.healthRequest
  | .headless client banquetUrl => some (client.queryRequest banquetUrl)
  | .interactive _ _ => none

def runCheck (client : Client) (network : Network) : Transcript :=
  let (health, seen) := client.health network
  match health with
  | .ok () =>
      { output := "Server at " ++ client.base.serialize ++ " is up\n", diagnostics := ""
        exitCode := 0, seen }
  | .error error =>
      { Transcript.ofFailure (.notReachable client.base error) with seen }

def verdict (outcome : Option Outcome) (sink : TsvSink) : Except Failure Unit :=
  if 0 < sink.writeErrors then .error (.outputFailed sink.writeErrors)
  else
    match outcome with
    | some (.completed _) => if sink.errors = 0 then .ok () else .error .completedWithErrors
    | some .cancelled => .error .cancelled
    | _ => .error .queryFailed

def runHeadless (client : Client) (banquetUrl : String) (network : Network)
    (writer : LineWriter) : Transcript :=
  let query := QueryRun.run client network banquetUrl .never
  let sink := query.consumer.events.foldl TsvSink.handle (TsvSink.new writer)
  let notes := String.join (sink.diagnostics.toList.map (· ++ "\n"))
  match verdict query.consumer.outcome sink with
  | .ok () =>
      { output := sink.writer.text, diagnostics := notes, exitCode := 0, seen := query.seen }
  | .error failure =>
      { output := sink.writer.text, diagnostics := notes ++ failure.report, exitCode := 1
        seen := query.seen }

/-- What the call prints, and how it exits; nothing when it opens the terminal. -/
def transcript? (invocation : Invocation) (network : Network) (writer : LineWriter) :
    Option Transcript :=
  match invocation with
  | .check client => some (runCheck client network)
  | .headless client banquetUrl => some (runHeadless client banquetUrl network writer)
  | .interactive _ _ => none

end Invocation

def transcript? (words : List String) (environment : Environment) (network : Network)
    (writer : LineWriter) : Option Transcript :=
  match Invocation.plan words environment with
  | .error failure => some (.ofFailure failure)
  | .ok invocation => invocation.transcript? network writer

end RowStream
