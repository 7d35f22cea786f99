import RowStream.Proofs.Numbering
import RowStream.Proofs.Solo

/-!
# The latest query runs as if by itself

`Stage.Follows` says that a stage looks to its latest query like a certain `Solo`.  It holds when
a query is started, because its number and its ticket were not given before, and every step that
starts no other query keeps it, whatever the jobs of earlier queries do.
-/

set_option autoImplicit false

namespace RowStream

open Http (Network)

def Job.own? (id ticket : Nat) : Job → Option Solo.Job
  | .query number banquetUrl => if number = id then some (.query banquetUrl) else none
  | .schema number dataset table =>
      if number = ticket then some (.schema dataset table) else none
  | .health _ => none

def Lookup.withTicket {α : Type} (ticket : Nat) : Lookup α → Lookup α
  | .waiting _ => .waiting ticket
  | lookup => lookup

theorem Lookup.deliver_withTicket {α : Type} (lookup : Lookup α) (ticket : Nat)
    (answer : Except ClientError α) :
    (lookup.withTicket ticket).deliver ticket answer =
      (lookup.answeredWith answer).withTicket ticket := by
  cases lookup with
  | waiting other => exact if_pos rfl
  | none | answered => rfl

theorem Lookup.deliver_withTicket_of_ne {α : Type} (lookup : Lookup α) {ticket other : Nat}
    (different : ticket ≠ other) (answer : Except ClientError α) :
    (lookup.withTicket ticket).deliver other answer = lookup.withTicket ticket := by
  cases lookup with
  | waiting number => exact if_neg different
  | none | answered => rfl

namespace Stage

/-- To the query with this number, whose lookup has this ticket, the stage looks like that. -/
structure Follows (id ticket : Nat) (stage : Stage) (solo : Solo) : Prop where
  client_eq : stage.session.client = solo.client
  pageSize_eq : stage.session.pageSize = solo.pageSize
  results_eq : stage.session.results = solo.results
  active_eq : stage.session.active = solo.active.map fun finished => { id, finished }
  tells : stage.session.Tells id
  nextQueryId_eq : stage.session.nextQueryId = id + 1
  nextTicket_eq : stage.session.nextTicket = ticket + solo.asked + 1
  schema_eq : stage.session.schema = solo.schema.withTicket ticket
  jobs_eq : stage.session.jobs.filterMap (Job.own? id ticket) = solo.jobs
  queue_eq : Session.accepted (some id) stage.session.updates = solo.queue
  task_eq : stage.tasks id = solo.task
  answer_eq : stage.answers ticket = solo.answer

section

variable {id ticket : Nat} {stage : Stage} {solo : Solo}

theorem Follows.of_core (follows : stage.Follows id ticket solo) {session : Session}
    (same : session.core = stage.session.core) :
    { stage with session }.Follows id ticket solo where
  client_eq := (congrArg (·.client) same).trans follows.client_eq
  pageSize_eq := (congrArg (·.pageSize) same).trans follows.pageSize_eq
  results_eq := (congrArg (·.results) same).trans follows.results_eq
  active_eq := (congrArg (·.active) same).trans follows.active_eq
  tells := follows.tells.of_core same
  nextQueryId_eq := (congrArg (·.nextQueryId) same).trans follows.nextQueryId_eq
  nextTicket_eq := (congrArg (·.nextTicket) same).trans follows.nextTicket_eq
  schema_eq := (congrArg (·.schema) same).trans follows.schema_eq
  jobs_eq := (congrArg (·.jobs.filterMap (Job.own? id ticket)) same).trans follows.jobs_eq
  queue_eq := (congrArg (Session.accepted (some id) ·.updates) same).trans follows.queue_eq
  task_eq := follows.task_eq
  answer_eq := follows.answer_eq

theorem Follows.isSome_active (follows : stage.Follows id ticket solo) :
    stage.session.active.isSome = solo.active.isSome := by
  rw [follows.active_eq, Option.isSome_map]

/-! ## Jobs -/

theorem Follows.sent_queryEvents (follows : stage.Follows id ticket solo) (network : Network)
    (banquetUrl : String) :
    (stage.session.queryEvents network id banquetUrl).consumer.sent =
      solo.stream network banquetUrl := by
  have live_iff := follows.tells
  rw [Session.Tells, follows.active_eq] at live_iff
  simp only [Session.queryEvents, Solo.stream, live_iff, follows.client_eq]
  cases solo.active <;> simp

theorem Follows.withTask (follows : stage.Follows id ticket solo) (task : Task) :
    (stage.withTask id task).Follows id ticket { solo with task := some task } :=
  { follows with task_eq := if_pos rfl }

theorem Follows.withTask_of_ne (follows : stage.Follows id ticket solo) {other : Nat}
    (different : id ≠ other) (task : Task) :
    (stage.withTask other task).Follows id ticket solo :=
  { follows with task_eq := (if_neg different).trans follows.task_eq }

theorem Follows.withAnswer (follows : stage.Follows id ticket solo)
    (answer : Except ClientError (List Column)) :
    (stage.withAnswer ticket answer).Follows id ticket { solo with answer := some answer } :=
  { follows with answer_eq := if_pos rfl }

theorem Follows.withAnswer_of_ne (follows : stage.Follows id ticket solo) {other : Nat}
    (different : ticket ≠ other) (answer : Except ClientError (List Column)) :
    (stage.withAnswer other answer).Follows id ticket solo :=
  { follows with answer_eq := (if_neg different).trans follows.answer_eq }

def actOwn (id ticket : Nat) (act : Solo → Solo.Job → Solo) (solo : Solo) (job : Job) : Solo :=
  match job.own? id ticket with
  | some own => act solo own
  | none => solo

theorem Follows.launchJob (follows : stage.Follows id ticket solo) (network : Network)
    (job : Job) :
    (stage.launchJob network job).Follows id ticket
      (actOwn id ticket (Solo.launchJob network) solo job) := by
  cases job with
  | query number banquetUrl =>
      by_cases own : number = id
      · subst own
        simp only [Stage.launchJob, actOwn, Job.own?, if_true, follows.sent_queryEvents]
        exact follows.withTask _
      · simp only [Stage.launchJob, actOwn, Job.own?, if_neg own]
        exact follows.withTask_of_ne (Ne.symm own) _
  | schema number dataset table =>
      by_cases own : number = ticket
      · simp only [Stage.launchJob, actOwn, Job.own?, if_pos own, Solo.launchJob]
        exact follows
      · simp only [Stage.launchJob, actOwn, Job.own?, if_neg own]
        exact follows
  | health number => exact follows

theorem finishQuery_own (active : Option Bool) (id : Nat) :
    Session.finishQuery (active.map fun finished => { id, finished }) id =
      (active.map fun _ => true).map fun finished => { id, finished } := by
  cases active <;> simp [Session.finishQuery]

theorem finishQuery_other (active : Option Bool) {id other : Nat} (different : id ≠ other) :
    Session.finishQuery (active.map fun finished => { id, finished }) other =
      active.map fun finished => { id, finished } := by
  cases active <;> simp [Session.finishQuery, different]

theorem Follows.runJob (follows : stage.Follows id ticket solo) (network : Network) (job : Job) :
    (stage.runJob network job).Follows id ticket
      (actOwn id ticket (Solo.runJob network) solo job) := by
  cases job with
  | query number banquetUrl =>
      let after := (Session.runJob network stage.session (.query number banquetUrl)).1
      have active_eq : after.active = Session.finishQuery stage.session.active number := rfl
      have updates_eq : after.updates = stage.session.updates ++ Session.tagged number
          (stage.session.queryEvents network number banquetUrl).consumer.sent := rfl
      by_cases own : number = id
      · subst own
        have sent_eq := follows.sent_queryEvents network banquetUrl
        have heard : { stage with session := after }.Follows number ticket
            { solo with
              queue := solo.queue ++ solo.stream network banquetUrl
              active := solo.active.map fun _ => true } :=
          { follows with
            active_eq := by rw [active_eq, follows.active_eq, finishQuery_own]
            tells := follows.tells.runJob network _
            queue_eq := by
              rw [updates_eq, Session.accepted_append, Session.accepted_tagged,
                follows.queue_eq, sent_eq] }
        simp only [Stage.runJob, actOwn, Job.own?, if_true, Solo.runJob, sent_eq]
        exact heard.withTask _
      · have different := Ne.symm own
        have unheard : { stage with session := after }.Follows id ticket solo :=
          { follows with
            active_eq := by rw [active_eq, follows.active_eq, finishQuery_other _ different]
            tells := follows.tells.runJob network _
            queue_eq := by
              rw [updates_eq, Session.accepted_append, Session.accepted_tagged_of_ne different,
                follows.queue_eq, List.append_nil] }
        simp only [Stage.runJob, actOwn, Job.own?, if_neg own]
        exact unheard.withTask_of_ne different _
  | schema number dataset table =>
      let answer := (solo.client.fetchSchema network dataset table).1
      let after := (Session.runJob network stage.session (.schema number dataset table)).1
      have schema_eq : after.schema = stage.session.schema.deliver number answer := by
        simp only [answer, ← follows.client_eq]
        rfl
      by_cases own : number = ticket
      · subst own
        have answered : { stage with session := after }.Follows id number
            { solo with schema := solo.schema.answeredWith answer } :=
          { follows with
            schema_eq := by rw [schema_eq, follows.schema_eq, Lookup.deliver_withTicket] }
        simp only [Stage.runJob, actOwn, Job.own?, if_true, Solo.runJob, follows.client_eq]
        exact answered.withAnswer _
      · have different := Ne.symm own
        have unanswered : { stage with session := after }.Follows id ticket solo :=
          { follows with
            schema_eq := by
              rw [schema_eq, follows.schema_eq, Lookup.deliver_withTicket_of_ne _ different] }
        simp only [Stage.runJob, actOwn, Job.own?, if_neg own]
        exact unanswered.withAnswer_of_ne different _
  | health number => exact { follows with }

theorem Follows.foldl_jobs (follows : stage.Follows id ticket solo) {act : Stage → Job → Stage}
    {actSolo : Solo → Solo.Job → Solo}
    (acts : ∀ (stage : Stage) (solo : Solo) (job : Job), stage.Follows id ticket solo →
      (act stage job).Follows id ticket (actOwn id ticket actSolo solo job))
    (jobs : List Job) :
    (jobs.foldl act stage).Follows id ticket
      ((jobs.filterMap (Job.own? id ticket)).foldl actSolo solo) := by
  induction jobs generalizing stage solo with
  | nil => exact follows
  | cons job rest inductionHypothesis =>
      have acted := acts stage solo job follows
      rw [List.foldl_cons, List.filterMap_cons]
      cases own : job.own? id ticket with
      | none =>
          rw [actOwn, own] at acted
          exact inductionHypothesis acted
      | some mine =>
          rw [actOwn, own] at acted
          exact inductionHypothesis acted

theorem filterMap_own_filter {id ticket : Nat} {chosen : Job → Bool} {chosenSolo : Solo.Job → Bool}
    (choice : ∀ job own, job.own? id ticket = some own → chosen job = chosenSolo own)
    (jobs : List Job) :
    (jobs.filter chosen).filterMap (Job.own? id ticket) =
      (jobs.filterMap (Job.own? id ticket)).filter chosenSolo := by
  induction jobs with
  | nil => rfl
  | cons job rest inductionHypothesis =>
      cases own : job.own? id ticket with
      | none =>
          rw [List.filterMap_cons_none own, ← inductionHypothesis, List.filter_cons]
          split
          · exact List.filterMap_cons_none own
          · rfl
      | some mine =>
          rw [List.filterMap_cons_some own, List.filter_cons, List.filter_cons, choice job mine own]
          split
          · rw [List.filterMap_cons_some own, inductionHypothesis]
          · exact inductionHypothesis

theorem Follows.takeJobs (follows : stage.Follows id ticket solo) {chosen : Job → Bool}
    {chosenSolo : Solo.Job → Bool}
    (choice : ∀ job own, job.own? id ticket = some own → chosen job = chosenSolo own)
    {act : Stage → Job → Stage} {actSolo : Solo → Solo.Job → Solo}
    (acts : ∀ (stage : Stage) (solo : Solo) (job : Job), stage.Follows id ticket solo →
      (act stage job).Follows id ticket (actOwn id ticket actSolo solo job)) :
    (stage.takeJobs chosen act).Follows id ticket (solo.takeJobs chosenSolo actSolo) := by
  -- The query's own jobs are chosen, and left, alike on both sides.
  have others : ∀ job own, job.own? id ticket = some own → (!chosen job) = !chosenSolo own :=
    fun job own mine => congrArg not (choice job own mine)
  have left : { stage with session :=
      { stage.session with jobs := stage.session.jobs.filter (!chosen ·) } }.Follows id ticket
      { solo with jobs := solo.jobs.filter (!chosenSolo ·) } :=
    { follows with
      jobs_eq := (filterMap_own_filter others stage.session.jobs).trans
        (congrArg (List.filter (!chosenSolo ·)) follows.jobs_eq) }
  have taken := left.foldl_jobs acts (stage.session.jobs.filter chosen)
  rw [filterMap_own_filter choice, follows.jobs_eq] at taken
  exact taken

/-! ## Moves -/

theorem Follows.enqueue (follows : stage.Follows id ticket solo) (events : List Event) :
    (stage.enqueue id events).Follows id ticket { solo with queue := solo.queue ++ events } :=
  { follows with
    queue_eq := by
      rw [Stage.enqueue, Session.accepted_append, Session.accepted_tagged, follows.queue_eq] }

theorem Follows.enqueue_of_ne (follows : stage.Follows id ticket solo) {other : Nat}
    (different : id ≠ other) (events : List Event) :
    (stage.enqueue other events).Follows id ticket solo :=
  { follows with
    queue_eq := by
      rw [Stage.enqueue, Session.accepted_append, Session.accepted_tagged_of_ne different,
        follows.queue_eq, List.append_nil] }

theorem Follows.sendNext (follows : stage.Follows id ticket solo) :
    (stage.sendNext id).Follows id ticket solo.sendNext := by
  have task_eq := follows.task_eq
  rcases known : solo.task with _ | ⟨stream, _ | ⟨event, rest⟩⟩
  · simp only [Stage.sendNext, Solo.sendNext, task_eq, known]
    exact follows
  · simp only [Stage.sendNext, Solo.sendNext, task_eq, known]
    exact follows
  · simp only [Stage.sendNext, Solo.sendNext, task_eq, known]
    exact (follows.enqueue [event]).withTask _

theorem Follows.sendNext_of_ne (follows : stage.Follows id ticket solo) {other : Nat}
    (different : id ≠ other) : (stage.sendNext other).Follows id ticket solo := by
  unfold Stage.sendNext
  split
  · exact (follows.enqueue_of_ne different _).withTask_of_ne different _
  · exact follows

theorem Follows.finishTask (follows : stage.Follows id ticket solo) :
    (stage.finishTask id).Follows id ticket solo.finishTask := by
  have task_eq := follows.task_eq
  rcases known : solo.task with _ | ⟨stream, _ | ⟨event, rest⟩⟩
  · simp only [Stage.finishTask, Solo.finishTask, task_eq, known]
    exact follows
  · simp only [Stage.finishTask, Solo.finishTask, task_eq, known]
    exact
      { follows with
        active_eq := by rw [follows.active_eq, finishQuery_own]
        tells := follows.tells.finishQuery id
        task_eq := task_eq.trans known }
  · simp only [Stage.finishTask, Solo.finishTask, task_eq, known]
    exact follows

theorem Follows.finishTask_of_ne (follows : stage.Follows id ticket solo) {other : Nat}
    (different : id ≠ other) : (stage.finishTask other).Follows id ticket solo := by
  unfold Stage.finishTask
  split
  · exact
      { follows with
        active_eq := by rw [follows.active_eq, finishQuery_other _ different]
        tells := follows.tells.finishQuery other }
  · exact follows

theorem Follows.isQuery_own (follows : stage.Follows id ticket solo) (age : Nat) (job : Job)
    (own : Solo.Job) (mine : job.own? id ticket = some own) :
    job.isQuery (numberOf? stage.session.nextQueryId age) = (age = 0 && own.isQuery) := by
  have latest : some id = numberOf? (id + 1) age ↔ age = 0 := by
    rw [eq_comm, numberOf?_eq_some]
    omega
  cases job with
  | query number banquetUrl =>
      obtain ⟨rfl, rfl⟩ : number = id ∧ Solo.Job.query banquetUrl = own := by
        simpa [Job.own?] using mine
      simp [Job.isQuery, Job.query?, Solo.Job.isQuery, follows.nextQueryId_eq, latest]
  | schema number dataset table =>
      obtain ⟨_, rfl⟩ : number = ticket ∧ Solo.Job.schema dataset table = own := by
        simpa [Job.own?] using mine
      simp [Job.isQuery, Job.query?, Solo.Job.isQuery]
  | health number => cases mine

theorem Follows.isLookup_own (follows : stage.Follows id ticket solo) (age : Nat) (job : Job)
    (own : Solo.Job) (mine : job.own? id ticket = some own) :
    job.isLookup (numberOf? stage.session.nextTicket age) =
      (age = solo.asked && !own.isQuery) := by
  have mark : some ticket = numberOf? (ticket + solo.asked + 1) age ↔ age = solo.asked := by
    rw [eq_comm, numberOf?_eq_some]
    omega
  cases job with
  | query number banquetUrl =>
      obtain ⟨_, rfl⟩ : number = id ∧ Solo.Job.query banquetUrl = own := by
        simpa [Job.own?] using mine
      simp [Job.isLookup, Job.ticket?, Solo.Job.isQuery]
  | schema number dataset table =>
      obtain ⟨rfl, rfl⟩ : number = ticket ∧ Solo.Job.schema dataset table = own := by
        simpa [Job.own?] using mine
      simp [Job.isLookup, Job.ticket?, Solo.Job.isQuery, follows.nextTicket_eq, mark]
  | health number => cases mine

/-- What is done to the latest query is done to the query; what is done to another one goes by. -/
theorem Follows.ofAge (follows : stage.Follows id ticket solo) (age : Nat)
    {act : Stage → Nat → Stage} {actSolo : Solo → Solo}
    (own : (act stage id).Follows id ticket (actSolo solo))
    (others : ∀ other, id ≠ other → (act stage other).Follows id ticket solo) :
    (match numberOf? stage.session.nextQueryId age with
      | some number => act stage number
      | none => stage).Follows id ticket (if age = 0 then actSolo solo else solo) := by
  rw [follows.nextQueryId_eq]
  cases found : numberOf? (id + 1) age with
  | none =>
      have older := numberOf?_eq_none.mp found
      rw [if_neg (by omega)]
      exact follows
  | some number =>
      have age_eq := numberOf?_eq_some.mp found
      by_cases latest : age = 0
      · obtain rfl : number = id := by omega
        rw [if_pos latest]
        exact own
      · rw [if_neg latest]
        exact others number (by omega)

theorem Follows.move (follows : stage.Follows id ticket solo) (move : Move) :
    (stage.move move).Follows id ticket (solo.move move) := by
  cases move with
  | launch age network =>
      exact follows.takeJobs (follows.isQuery_own age) fun stage solo job still =>
        still.launchJob network job
  | lookUp age network =>
      exact follows.takeJobs (follows.isLookup_own age) fun stage solo job still =>
        still.runJob network job
  | send age =>
      exact follows.ofAge age follows.sendNext fun other different =>
        follows.sendNext_of_ne different
  | finish age =>
      exact follows.ofAge age follows.finishTask fun other different =>
        follows.finishTask_of_ne different

theorem Follows.foldl_move (follows : stage.Follows id ticket solo) (moves : List Move) :
    (moves.foldl Stage.move stage).Follows id ticket (moves.foldl Solo.move solo) := by
  induction moves generalizing stage solo with
  | nil => exact follows
  | cons move rest inductionHypothesis => exact inductionHypothesis (follows.move move)

/-! ## What the user does -/

theorem Follows.drain (follows : stage.Follows id ticket solo) (finished : Bool) :
    { stage with session := stage.session.drainUpdates finished }.Follows id ticket
      (solo.drain finished) := by
  have tells := follows.tells.drainUpdates finished
  obtain ⟨lastError, dirty, drained⟩ := stage.session.drainUpdates_eq finished
  let results := (solo.results.applyAll (if solo.active.isSome then solo.queue else [])).settled
    finished
  have accepted_eq : Session.accepted (stage.session.active.map ActiveQuery.id)
      stage.session.updates = if solo.active.isSome then solo.queue else [] := by
    rw [follows.active_eq, ← follows.queue_eq]
    cases solo.active with
    | none => exact Session.accepted_none _
    | some finished => rfl
  rw [drained, accepted_eq, follows.results_eq] at tells ⊢
  exact
    { follows with
      results_eq := rfl
      tells
      active_eq := by
        rw [follows.active_eq]
        exact (apply_ite (Option.map fun finished => (⟨id, finished⟩ : ActiveQuery))
          (results.status.isRunning = true) solo.active none).symm
      queue_eq := rfl }

theorem Follows.affect (follows : stage.Follows id ticket solo) {effect : Session.Effect}
    (quiet : effect.started? = none) :
    { stage with session := stage.session.affect effect }.Follows id ticket
      (solo.affect effect) := by
  cases effect with
  | nothing => exact follows
  | start => cases quiet
  | cancel =>
      cases known : solo.active with
      | none =>
          have active_eq : stage.session.active = none := by rw [follows.active_eq, known]; rfl
          simp only [Session.affect, Session.cancelQuery, Solo.affect, active_eq, known]
          exact follows
      | some finished =>
          have active_eq : stage.session.active = some ⟨id, finished⟩ := by
            rw [follows.active_eq, known]
            rfl
          have tells := follows.tells.cancelQuery
          simp only [Session.affect, Session.cancelQuery, Solo.affect, active_eq, known] at tells ⊢
          exact
            { follows with
              results_eq := congrArg Results.markCancelled follows.results_eq
              active_eq := rfl
              tells }
  | scroll action =>
      exact
        { follows with
          results_eq := by
            simp only [Session.affect, Solo.affect, follows.results_eq, follows.pageSize_eq] }
  | checkServer =>
      exact
        { follows with
          nextTicket_eq := by
            simp only [Session.affect, Session.checkServer, Solo.affect, follows.nextTicket_eq]
            omega
          jobs_eq := by
            simp only [Session.affect, Session.checkServer, Solo.affect, List.filterMap_append,
              follows.jobs_eq]
            exact List.append_nil _ }
  | resize pageSize => exact { follows with pageSize_eq := rfl }
  | pollSchema =>
      have schema_eq := follows.schema_eq
      cases known : solo.schema with
      | none | waiting ticket =>
          rw [known] at schema_eq
          simp only [Session.affect, Session.pollSchema, Solo.affect, schema_eq, known,
            Lookup.withTicket]
          exact follows
      | answered answer =>
          rw [known] at schema_eq
          cases answer with
          | ok columns =>
              simp only [Session.affect, Session.pollSchema, Solo.affect, schema_eq, known,
                Lookup.withTicket]
              exact
                { follows with
                  results_eq := congrArg (Results.applySchema · columns) follows.results_eq
                  schema_eq := rfl }
          | error cause =>
              simp only [Session.affect, Session.pollSchema, Solo.affect, schema_eq, known,
                Lookup.withTicket]
              exact { follows with schema_eq := rfl }

theorem Follows.step (follows : stage.Follows id ticket solo) {step : Step}
    (quiet : stage.startedBy? step = none) :
    (stage.step step).Follows id ticket (solo.step step) := by
  cases step with
  | operate operation =>
      have stepped := (follows.affect quiet).of_core (stage.session.core_operate operation)
      have effect_eq : operation.effect stage.session.isQueryRunning stage.session.queryText =
          operation.effect solo.active.isSome "" := by
        rw [Session.effect_of_quiet quiet, Session.isQueryRunning, follows.isSome_active]
      rw [effect_eq] at stepped
      exact stepped
  | background move => exact follows.move move
  | runJobs network =>
      exact follows.takeJobs (fun _ _ _ => rfl) fun stage solo job still =>
        still.runJob network job
  | pollUpdates meanwhile =>
      have finished_eq : (stage.session.active.map ActiveQuery.finished).getD false =
          solo.active.getD false := by
        rw [follows.active_eq]
        cases solo.active <;> rfl
      simp only [Stage.step, Solo.step, finished_eq]
      exact (follows.foldl_move meanwhile).drain _

/-- As long as no other query is started, the query runs as if by itself. -/
theorem Follows.run (follows : stage.Follows id ticket solo) {steps : List Step}
    (quiet : stage.Quiet steps) :
    (stage.run steps).Follows id ticket (solo.run steps) := by
  induction steps generalizing stage solo with
  | nil => exact follows
  | cons step later inductionHypothesis =>
      exact inductionHypothesis (follows.step quiet.1) quiet.2

/-! ## The start of a query -/

theorem follows_begun {client : Client} (numbered : stage.Numbered client id ticket)
    (banquetUrl : String) :
    { stage with session := stage.session.begun banquetUrl }.Follows id ticket
      (Solo.start client stage.session.pageSize banquetUrl) := by
  -- Nothing that is there already bears the new number or the new ticket.
  have noJobs : stage.session.jobs.filterMap (Job.own? id ticket) = [] := by
    rw [List.filterMap_eq_nil_iff]
    intro job member
    cases job with
    | query number url =>
        have older := numbered.query_lt _ member number rfl
        exact if_neg (by omega)
    | schema number dataset table =>
        have older := numbered.ticket_lt _ member number rfl
        exact if_neg (by omega)
    | health number => rfl
  have noUpdates : Session.accepted (some id) stage.session.updates = [] := by
    rw [Session.accepted, List.filterMap_eq_nil_iff]
    intro update member
    have older := numbered.update_lt update member
    exact if_neg (by simp; omega)
  have noTask : stage.tasks id = none := by
    cases known : stage.tasks id with
    | none => rfl
    | some task => exact absurd (numbered.task_lt id (by simp [known])) (Nat.lt_irrefl id)
  have noAnswer : stage.answers ticket = none := by
    cases known : stage.answers ticket with
    | none => rfl
    | some answer =>
        exact absurd (numbered.answer_lt ticket (by simp [known])) (Nat.lt_irrefl ticket)
  obtain rfl := numbered.nextQueryId_eq
  obtain rfl := numbered.nextTicket_eq
  exact
    { client_eq := numbered.client_eq, pageSize_eq := rfl, results_eq := rfl, active_eq := rfl
      tells := stage.session.tells_begun banquetUrl
      nextQueryId_eq := rfl, nextTicket_eq := rfl, schema_eq := rfl
      jobs_eq := by
        simp only [Session.begun, List.filterMap_append, noJobs]
        simp [Job.own?, Solo.start]
      queue_eq := noUpdates, task_eq := noTask, answer_eq := noAnswer }

theorem follows_step_of_started {client : Client} (numbered : stage.Numbered client id ticket)
    {step : Step} {banquetUrl : String} (starts : stage.startedBy? step = some banquetUrl) :
    (stage.step step).Follows id ticket
      (Solo.start client stage.session.pageSize banquetUrl) := by
  cases step with
  | operate operation =>
      exact (follows_begun numbered banquetUrl).of_core (Session.core_operate_of_started starts)
  | background | runJobs | pollUpdates => cases starts

end

end Stage

end RowStream
