import RowStream.Proofs.Verdict

/-!
# Every query is judged

On a stage, too, a query is running for as long as it is the active one and no longer, and it ends
with a verdict that its own stream bears out.  For this the latest query is looked at by itself;
before the first query, there is a `Solo` with nothing to do.  When the background has come to its
end and the events are picked up, the verdict is there.
-/

set_option autoImplicit false

namespace RowStream

open Http (Network)

namespace Solo

/-- What a stage looks like before its first query. -/
def idle (client : Client) : Solo :=
  { client, pageSize := 20, results := .empty, active := none, jobs := [], task := none, queue := []
    schema := .none, answer := none, asked := 0 }

theorem rests_idle (client : Client) : (idle client).Rests where
  inactive := rfl
  ended := rfl
  judged := by simp [Results.Judged, idle, Results.empty]

def movesLeft (solo : Solo) : List Move :=
  List.replicate ((solo.task.map (·.rest.length)).getD 0) (Move.send 0) ++ [Move.finish 0]

theorem active_foldl_movesLeft {solo : Solo} {stream rest : List Event}
    (task_eq : solo.task = some ⟨stream, rest⟩) :
    (solo.movesLeft.foldl Solo.move solo).active = solo.active.map fun _ => true := by
  induction rest generalizing solo with
  | nil =>
      have ended : solo.finishTask = { solo with active := solo.active.map fun _ => true } := by
        simp only [finishTask, task_eq]
      rw [movesLeft, task_eq]
      exact congrArg (·.active) ended
  | cons event later inductionHypothesis =>
      have sent : solo.sendNext =
          { solo with queue := solo.queue ++ [event], task := some ⟨stream, later⟩ } := by
        simp only [sendNext, task_eq]
      have moves_eq : solo.movesLeft = .send 0 :: solo.sendNext.movesLeft := by
        rw [movesLeft, movesLeft, sent, task_eq]
        rfl
      have active_eq : solo.sendNext.active = solo.active := congrArg (·.active) sent
      rw [moves_eq, List.foldl_cons, ← active_eq]
      exact inductionHypothesis (congrArg (·.task) sent)

theorem isRunning_poll_of_seen {solo : Solo} (seen : solo.active = some true) :
    (solo.step (.pollUpdates [])).results.status.isRunning = false := by
  simp only [step, List.foldl_nil, seen, Option.getD_some]
  exact Results.isRunning_markFailed _

theorem Decides.isRunning_background {client : Client} {solo : Solo} (decides : solo.Decides client)
    (network : Network) (others : List Move) :
    let ran := solo.step (.runJobs network)
    let moved := (ran.movesLeft ++ others).foldl move ran
    (moved.step (.pollUpdates [])).results.status.isRunning = false := by
  intro ran moved
  rcases decides with rests | ⟨banquetUrl, undecided⟩
  · have stillRests : moved.Rests :=
      (rests.step (.runJobs network)).1.of_kept (kept_foldl_move _ ran)
    exact (stillRests.step (.pollUpdates [])).1.ended
  · have stillUndecided : ran.Undecided client banquetUrl := undecided.runJobs network _
    have noJobs : ran.jobs = [] := by
      refine ((works_runJob client banquetUrl network).jobs_takeJobs _).trans ?_
      simp
    obtain ⟨⟨stream, rest⟩, task_eq⟩ : ∃ task, ran.task = some task := by
      cases known : ran.task with
      | some task => exact ⟨task, rfl⟩
      | none =>
          have queued := stillUndecided.queued known
          rw [noJobs] at queued
          cases queued
    obtain ⟨finished, active_eq⟩ := Option.isSome_iff_exists.mp stillUndecided.streaming.isActive
    have seen := active_foldl_movesLeft task_eq
    rw [active_eq, Option.map_some] at seen
    refine isRunning_poll_of_seen ?_
    simp only [moved, List.foldl_append]
    exact (kept_foldl_move others _).seen seen

end Solo

namespace Stage

theorem follows_new (client : Client) : (new client).Follows 0 0 (Solo.idle client) where
  client_eq := rfl
  pageSize_eq := rfl
  results_eq := rfl
  active_eq := rfl
  tells := (numbered_new client).tells 0
  nextQueryId_eq := rfl
  nextTicket_eq := rfl
  schema_eq := rfl
  jobs_eq := rfl
  queue_eq := rfl
  task_eq := rfl
  answer_eq := rfl

def Decides (client : Client) (stage : Stage) : Prop :=
  ∃ id ticket solo, stage.Follows id ticket solo ∧ solo.Decides client

theorem decides_new (client : Client) : (new client).Decides client :=
  ⟨0, 0, Solo.idle client, follows_new client, Or.inl (Solo.rests_idle client)⟩

theorem Decides.step {client : Client} {queries tickets : Nat} {stage : Stage}
    (decides : stage.Decides client) (numbered : stage.Numbered client queries tickets)
    (step : Step) : (stage.step step).Decides client := by
  cases starts : stage.startedBy? step with
  | some banquetUrl =>
      exact ⟨queries, tickets, _, follows_step_of_started numbered starts,
        Or.inr ⟨banquetUrl, Solo.undecided_start client _ banquetUrl⟩⟩
  | none =>
      obtain ⟨id, ticket, solo, follows, soloDecides⟩ := decides
      exact ⟨id, ticket, solo.step step, follows.step starts, soloDecides.step step⟩

theorem Decides.run {client : Client} {queries tickets : Nat} {stage : Stage}
    (decides : stage.Decides client) (numbered : stage.Numbered client queries tickets)
    (steps : List Step) : (stage.run steps).Decides client := by
  induction steps generalizing stage queries tickets with
  | nil => exact decides
  | cons step later inductionHypothesis =>
      obtain ⟨_, _, stepped⟩ := numbered.step step
      exact inductionHypothesis (decides.step numbered step) stepped

/-! ## A background run -/

def movesLeft (stage : Stage) : List Move :=
  (List.range stage.session.nextQueryId).flatMap fun age =>
    let task := (numberOf? stage.session.nextQueryId age).bind stage.tasks
    List.replicate ((task.map (·.rest.length)).getD 0) (.send age) ++ [.finish age]

/-- All jobs that wait and all query jobs that are under way run to their ends. -/
def runBackground (network : Network) (stage : Stage) : Stage :=
  let launched := stage.step (.runJobs network)
  launched.movesLeft.foldl move launched

theorem movesLeft_eq {id ticket : Nat} {stage : Stage} {solo : Solo}
    (follows : stage.Follows id ticket solo) :
    ∃ others, stage.movesLeft = solo.movesLeft ++ others := by
  have latest : numberOf? (id + 1) 0 = some id := numberOf?_eq_some.mpr rfl
  rw [movesLeft, follows.nextQueryId_eq, List.range_succ_eq_map, List.flatMap_cons, latest,
    Option.bind_some, follows.task_eq]
  exact ⟨_, rfl⟩

/-- On every stage, a query is active as long as it is running; a verdict is borne out by what is
on display, and stays until another query is started. -/
theorem run_verdict (client : Client) (steps : List Step) :
    let stage := (new client).run steps
    let results := stage.session.results
    stage.session.isQueryRunning = results.status.isRunning ∧
    (∀ total, results.status = .completed total → total = results.rows.length) ∧
    (∀ message, results.status = .failed message → results.errors.getLast? = some message) ∧
    (∀ step, results.status.isRunning = false → stage.startedBy? step = none →
      (stage.step step).session.results.report = results.report) ∧
    ∀ network,
      ((stage.runBackground network).step (.pollUpdates [])).session.results.status.isRunning =
        false := by
  intro stage results
  obtain ⟨id, ticket, solo, follows, decides⟩ :=
    (decides_new client).run (numbered_new client) steps
  have results_eq : results = solo.results := follows.results_eq
  have isRunning_eq : stage.session.isQueryRunning = solo.active.isSome := follows.isSome_active
  rw [results_eq]
  refine ⟨isRunning_eq.trans decides.running_eq, decides.judged.1, decides.judged.2, ?_, ?_⟩
  · intro step ended quiet
    rw [(follows.step quiet).results_eq]
    exact ((decides.rests_of_ended ended).step step).2
  · intro network
    have launched : (stage.step (.runJobs network)).Follows id ticket
        (solo.step (.runJobs network)) := follows.step rfl
    obtain ⟨others, moves_eq⟩ := movesLeft_eq launched
    have moved := launched.foldl_move (stage.step (.runJobs network)).movesLeft
    have polled : ((stage.runBackground network).step (.pollUpdates [])).Follows id ticket _ :=
      moved.step rfl
    rw [polled.results_eq, moves_eq]
    exact decides.isRunning_background network others

end Stage

end RowStream
