import RowStream.Proofs.Schedule

/-!
# A query by itself

`Solo` is what a stage would be if the latest query were the only one there ever was: there is one
job, one lookup and one queue, and no number tells anything apart.  A step on a stage does to a
`Solo` what it does to the latest query.
-/

set_option autoImplicit false

namespace RowStream

open Http (Network)

inductive Solo.Job where
  | query (banquetUrl : String)
  | schema (dataset table : String)
  deriving DecidableEq, Repr

def Lookup.answeredWith {α : Type} (lookup : Lookup α) (answer : Except ClientError α) :
    Lookup α :=
  match lookup with
  | .waiting _ => .answered answer
  | _ => lookup

structure Solo where
  client : Client
  pageSize : Nat
  results : Results
  /-- Whether the query's job was seen to be done, as long as the query is active. -/
  active : Option Bool
  jobs : List Solo.Job
  task : Option Task
  queue : List Event
  schema : Lookup (List Column)
  answer : Option (Except ClientError (List Column))
  /-- How many lookups were asked for since the query was started. -/
  asked : Nat

namespace Solo

def start (client : Client) (pageSize : Nat) (banquetUrl : String) : Solo :=
  let info := QueryInfo.parse banquetUrl
  { client, pageSize, results := .start banquetUrl, active := some false
    jobs := [.schema info.dataset info.table, .query banquetUrl], task := none, queue := []
    schema := .waiting 0, answer := none, asked := 0 }

def affect (solo : Solo) : Session.Effect → Solo
  | .nothing => solo
  | .start _ => solo
  | .cancel =>
      match solo.active with
      | none => solo
      | some _ => { solo with active := none, results := solo.results.markCancelled }
  | .scroll action =>
      { solo with results := Session.scrolled solo.results solo.pageSize action }
  | .checkServer => { solo with asked := solo.asked + 1 }
  | .resize pageSize => { solo with pageSize }
  | .pollSchema =>
      match solo.schema with
      | .answered (.ok columns) =>
          { solo with schema := .none, results := solo.results.applySchema columns }
      | .answered (.error _) => { solo with schema := .none }
      | _ => solo

/-- All that the query's job will send, when it sends its request now. -/
def stream (solo : Solo) (network : Network) (banquetUrl : String) : List Event :=
  let cancellation : Cancellation := if solo.active.isSome then .never else .atStart
  (QueryRun.run solo.client network banquetUrl cancellation).consumer.sent

def launchJob (network : Network) (solo : Solo) : Job → Solo
  | .query banquetUrl =>
      let stream := solo.stream network banquetUrl
      { solo with task := some ⟨stream, stream⟩ }
  | .schema _ _ => solo

def runJob (network : Network) (solo : Solo) : Job → Solo
  | .query banquetUrl =>
      let stream := solo.stream network banquetUrl
      { solo with
        queue := solo.queue ++ stream
        active := solo.active.map fun _ => true
        task := some ⟨stream, []⟩ }
  | .schema dataset table =>
      let answer := (solo.client.fetchSchema network dataset table).1
      { solo with schema := solo.schema.answeredWith answer, answer := some answer }

def takeJobs (solo : Solo) (chosen : Job → Bool) (act : Solo → Job → Solo) : Solo :=
  (solo.jobs.filter chosen).foldl act { solo with jobs := solo.jobs.filter (!chosen ·) }

def sendNext (solo : Solo) : Solo :=
  match solo.task with
  | some ⟨stream, event :: rest⟩ =>
      { solo with queue := solo.queue ++ [event], task := some ⟨stream, rest⟩ }
  | _ => solo

def finishTask (solo : Solo) : Solo :=
  match solo.task with
  | some ⟨_, []⟩ => { solo with active := solo.active.map fun _ => true }
  | _ => solo

def Job.isQuery : Job → Bool
  | .query _ => true
  | .schema _ _ => false

def move (solo : Solo) : Move → Solo
  | .launch age network => solo.takeJobs (fun job => age = 0 && job.isQuery) (launchJob network)
  | .send age => if age = 0 then solo.sendNext else solo
  | .finish age => if age = 0 then solo.finishTask else solo
  | .lookUp age network =>
      solo.takeJobs (fun job => age = solo.asked && !job.isQuery) (runJob network)

def drain (solo : Solo) (finished : Bool) : Solo :=
  let accepted := if solo.active.isSome then solo.queue else []
  let results := (solo.results.applyAll accepted).settled finished
  { solo with
    queue := [], results, active := if results.status.isRunning then solo.active else none }

def step (solo : Solo) : Step → Solo
  | .operate operation => solo.affect (operation.effect solo.active.isSome "")
  | .background move => solo.move move
  | .runJobs network => solo.takeJobs (fun _ => true) (runJob network)
  | .pollUpdates meanwhile => (meanwhile.foldl move solo).drain (solo.active.getD false)

def run (solo : Solo) (steps : List Step) : Solo := steps.foldl step solo

end Solo

end RowStream
