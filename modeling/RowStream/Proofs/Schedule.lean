import RowStream.Proofs.Draining
import RowStream.Proofs.Operating
import RowStream.Proofs.Operation

/-!
# A session and its jobs under way

A `Session` runs its jobs to their ends, one after the other.  Here the jobs of several queries
are under way at the same time, each sends its events one by one, and what the user does comes
between them in any order.  `Stage` is a session with the jobs that work for it, and `Step` is one
thing that happens on it.

Jobs are told apart by age, which is the same in runs that differ in how many queries there were
before: the latest query has age 0, and so has the latest lookup.  A job whose query was cancelled
may go on sending; that it is not heard is for the session to see to.
-/

set_option autoImplicit false

namespace RowStream

open Http (Network)

/-- A query job that was started: all that its stream sends, and what of it was not sent yet. -/
structure Task where
  stream : List Event
  rest : List Event

structure Stage where
  session : Session
  tasks : Nat → Option Task
  answers : Nat → Option (Except ClientError (List Column))

inductive Move where
  | launch (age : Nat) (network : Network)
  | send (age : Nat)
  /-- The job of a query ends, if it has sent everything. -/
  | finish (age : Nat)
  | lookUp (age : Nat) (network : Network)

inductive Step where
  | operate (operation : Session.Operation)
  | background (move : Move)
  | runJobs (network : Network)
  /-- The session looks whether its query has ended, and picks up the events after these moves. -/
  | pollUpdates (meanwhile : List Move)

/-- The number of what has this age, where `next` is the number to be given next. -/
def numberOf? (next age : Nat) : Option Nat := if age < next then some (next - 1 - age) else none

theorem numberOf?_eq_some {next age number : Nat} :
    numberOf? next age = some number ↔ number + age + 1 = next := by
  unfold numberOf?
  split
  · rw [Option.some.injEq]
    omega
  · simp only [reduceCtorEq, false_iff]
    omega

theorem numberOf?_eq_none {next age : Nat} : numberOf? next age = none ↔ next ≤ age := by
  unfold numberOf?
  split
  · simp only [reduceCtorEq, false_iff]
    omega
  · simp only [true_iff]
    omega

def Job.query? : Job → Option Nat
  | .query id _ => some id
  | _ => none

def Job.ticket? : Job → Option Nat
  | .schema ticket _ _ => some ticket
  | .health ticket => some ticket
  | _ => none

def Job.isQuery (job : Job) (id : Option Nat) : Bool := job.query?.isSome && job.query? = id

def Job.isLookup (job : Job) (ticket : Option Nat) : Bool :=
  job.ticket?.isSome && job.ticket? = ticket

namespace Stage

def new (client : Client) : Stage :=
  { session := .new client, tasks := fun _ => none, answers := fun _ => none }

def withTask (stage : Stage) (id : Nat) (task : Task) : Stage :=
  { stage with tasks := fun other => if other = id then some task else stage.tasks other }

def withAnswer (stage : Stage) (ticket : Nat) (answer : Except ClientError (List Column)) :
    Stage :=
  { stage with
    answers := fun other => if other = ticket then some answer else stage.answers other }

/-- Starts the job of a query; what the server answers decides all that it will send. -/
def launchJob (network : Network) (stage : Stage) : Job → Stage
  | .query id banquetUrl =>
      let stream := (stage.session.queryEvents network id banquetUrl).consumer.sent
      stage.withTask id ⟨stream, stream⟩
  | _ => stage

def runJob (network : Network) (stage : Stage) (job : Job) : Stage :=
  let after := { stage with session := (Session.runJob network stage.session job).1 }
  match job with
  | .query id banquetUrl =>
      after.withTask id ⟨(stage.session.queryEvents network id banquetUrl).consumer.sent, []⟩
  | .schema ticket dataset table =>
      after.withAnswer ticket (stage.session.client.fetchSchema network dataset table).1
  | .health _ => after

def takeJobs (stage : Stage) (chosen : Job → Bool) (act : Stage → Job → Stage) : Stage :=
  (stage.session.jobs.filter chosen).foldl act
    { stage with
      session := { stage.session with jobs := stage.session.jobs.filter (!chosen ·) } }

def enqueue (stage : Stage) (id : Nat) (events : List Event) : Stage :=
  { stage with
    session :=
      { stage.session with updates := stage.session.updates ++ Session.tagged id events } }

def sendNext (stage : Stage) (id : Nat) : Stage :=
  match stage.tasks id with
  | some ⟨stream, event :: rest⟩ => (stage.enqueue id [event]).withTask id ⟨stream, rest⟩
  | _ => stage

def finishTask (stage : Stage) (id : Nat) : Stage :=
  match stage.tasks id with
  | some ⟨_, []⟩ =>
      { stage with
        session :=
          { stage.session with active := Session.finishQuery stage.session.active id } }
  | _ => stage

def move (stage : Stage) : Move → Stage
  | .launch age network =>
      stage.takeJobs (·.isQuery (numberOf? stage.session.nextQueryId age)) (launchJob network)
  | .send age =>
      match numberOf? stage.session.nextQueryId age with
      | some id => stage.sendNext id
      | none => stage
  | .finish age =>
      match numberOf? stage.session.nextQueryId age with
      | some id => stage.finishTask id
      | none => stage
  | .lookUp age network =>
      stage.takeJobs (·.isLookup (numberOf? stage.session.nextTicket age)) (runJob network)

def step (stage : Stage) : Step → Stage
  | .operate operation => { stage with session := stage.session.operate operation }
  | .background move => stage.move move
  | .runJobs network => stage.takeJobs (fun _ => true) (runJob network)
  | .pollUpdates meanwhile =>
      let finished := (stage.session.active.map ActiveQuery.finished).getD false
      let moved := meanwhile.foldl move stage
      { moved with session := moved.session.drainUpdates finished }

def run (stage : Stage) (steps : List Step) : Stage := steps.foldl step stage

theorem run_append (stage : Stage) (before after : List Step) :
    stage.run (before ++ after) = (stage.run before).run after := by
  rw [run, List.foldl_append, run, run]

theorem run_cons (stage : Stage) (step : Step) (after : List Step) :
    stage.run (step :: after) = (stage.step step).run after := rfl

def startedBy? (stage : Stage) : Step → Option String
  | .operate operation => stage.session.startedBy? operation
  | _ => none

def Quiet : Stage → List Step → Prop
  | _, [] => True
  | stage, step :: later => stage.startedBy? step = none ∧ Quiet (stage.step step) later

/-! ## Steps that a session takes by itself -/

theorem session_runJob (network : Network) (stage : Stage) (job : Job) :
    (stage.runJob network job).session = (Session.runJob network stage.session job).1 := by
  cases job <;> rfl

theorem session_foldl_runJob (network : Network) (jobs : List Job) (stage : Stage)
    (seen : List Http.Request) :
    (jobs.foldl (runJob network) stage).session =
      (jobs.foldl (fun (current, seen) job =>
        let (after, sent) := Session.runJob network current job
        (after, seen ++ sent)) (stage.session, seen)).1 := by
  induction jobs generalizing stage seen with
  | nil => rfl
  | cons job rest inductionHypothesis =>
      rw [List.foldl_cons, List.foldl_cons,
        inductionHypothesis _ (seen ++ (Session.runJob network stage.session job).2),
        session_runJob]

theorem session_step_runJobs (stage : Stage) (network : Network) :
    (stage.step (.runJobs network)).session = (stage.session.runJobs network).1 := by
  have all : stage.session.jobs.filter (fun _ => true) = stage.session.jobs := by simp
  have nothing : stage.session.jobs.filter (fun _ => !true) = [] := by simp
  rw [step, takeJobs, all, nothing]
  exact session_foldl_runJob network stage.session.jobs _ []

theorem session_step_pollUpdates (stage : Stage) :
    (stage.step (.pollUpdates [])).session = stage.session.pollUpdates := rfl

theorem withTask_withTask (stage : Stage) (id : Nat) (first second : Task) :
    (stage.withTask id first).withTask id second = stage.withTask id second := by
  have same : ((stage.withTask id first).withTask id second).tasks =
      (stage.withTask id second).tasks := by
    funext other
    by_cases own : other = id
    · simp [withTask, own]
    · simp [withTask, own]
  simp only [withTask, Stage.mk.injEq, true_and, and_true] at same ⊢
  exact same

theorem tasks_withTask (stage : Stage) (id : Nat) (task : Task) :
    (stage.withTask id task).tasks id = some task := if_pos rfl

theorem sendNext_withTask (stage : Stage) (id : Nat) (stream : List Event) (event : Event)
    (rest : List Event) :
    (stage.withTask id ⟨stream, event :: rest⟩).sendNext id =
      (stage.enqueue id [event]).withTask id ⟨stream, rest⟩ := by
  simp only [sendNext, tasks_withTask]
  exact (stage.enqueue id [event]).withTask_withTask id _ _

theorem foldl_sendNext (stage : Stage) (id : Nat) (stream rest : List Event) :
    rest.foldl (fun current _ => current.sendNext id) (stage.withTask id ⟨stream, rest⟩) =
      (stage.enqueue id rest).withTask id ⟨stream, []⟩ := by
  induction rest generalizing stage with
  | nil => simp [enqueue, Session.tagged]
  | cons event later inductionHypothesis =>
      rw [List.foldl_cons, sendNext_withTask, inductionHypothesis]
      simp [enqueue, Session.tagged]

/-- To run the job of a query to its end is to launch it, to let it send all events and to end
it. -/
theorem runJob_query (stage : Stage) (network : Network) (id : Nat) (banquetUrl : String) :
    let stream := (stage.session.queryEvents network id banquetUrl).consumer.sent
    stage.runJob network (.query id banquetUrl) =
      (stream.foldl (fun current _ => current.sendNext id)
        (stage.launchJob network (.query id banquetUrl))).finishTask id := by
  intro stream
  rw [launchJob, foldl_sendNext, finishTask, tasks_withTask]
  rfl

end Stage

end RowStream
