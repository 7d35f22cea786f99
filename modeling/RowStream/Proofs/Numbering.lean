import RowStream.Proofs.Holding
import RowStream.Proofs.Schedule

/-!
# Numbers that were not given yet

However a session is operated and whatever its jobs do, the numbers from `nextQueryId` and the
tickets from `nextTicket` on have not been given to anything: no job, no event in the queue and no
record of an answer bears one.  The token of a query tells whether it is the active one
(`tells_run`).
-/

set_option autoImplicit false

namespace RowStream.Stage

open Http (Network)

/-- Queries have numbers below `queries`, lookups have tickets below `tickets`, and tokens tell
which query is the active one. -/
structure Numbered (client : Client) (queries tickets : Nat) (stage : Stage) : Prop where
  client_eq : stage.session.client = client
  nextQueryId_eq : stage.session.nextQueryId = queries
  nextTicket_eq : stage.session.nextTicket = tickets
  query_lt : ∀ job ∈ stage.session.jobs, ∀ id, job.query? = some id → id < queries
  ticket_lt : ∀ job ∈ stage.session.jobs, ∀ ticket, job.ticket? = some ticket → ticket < tickets
  update_lt : ∀ update ∈ stage.session.updates, update.queryId < queries
  task_lt : ∀ id, (stage.tasks id).isSome → id < queries
  answer_lt : ∀ ticket, (stage.answers ticket).isSome → ticket < tickets
  tells : ∀ id, stage.session.Tells id

theorem numbered_new (client : Client) : (new client).Numbered client 1 1 where
  client_eq := rfl
  nextQueryId_eq := rfl
  nextTicket_eq := rfl
  query_lt := by simp [new, Session.new]
  ticket_lt := by simp [new, Session.new]
  update_lt := by simp [new, Session.new]
  task_lt := by simp [new]
  answer_lt := by simp [new]
  tells := by simp [new, Session.new, Session.Tells]

section

variable {client : Client} {queries tickets : Nat} {stage : Stage}

/-- Nothing was numbered anew when the counters stand still, all jobs were there before, and every
event has a number that was given. -/
theorem Numbered.withSession (numbered : stage.Numbered client queries tickets)
    (session : Session) (client_eq : session.client = stage.session.client)
    (queries_eq : session.nextQueryId = stage.session.nextQueryId)
    (tickets_eq : session.nextTicket = stage.session.nextTicket)
    (jobs : ∀ job ∈ session.jobs, job ∈ stage.session.jobs)
    (updates : ∀ update ∈ session.updates,
      update ∈ stage.session.updates ∨ update.queryId < queries)
    (tells : ∀ id, stage.session.Tells id → session.Tells id) :
    { stage with session }.Numbered client queries tickets where
  client_eq := client_eq.trans numbered.client_eq
  nextQueryId_eq := queries_eq.trans numbered.nextQueryId_eq
  nextTicket_eq := tickets_eq.trans numbered.nextTicket_eq
  query_lt job member := numbered.query_lt job (jobs job member)
  ticket_lt job member := numbered.ticket_lt job (jobs job member)
  update_lt update member := (updates update member).elim (numbered.update_lt update) id
  task_lt := numbered.task_lt
  answer_lt := numbered.answer_lt
  tells id := tells id (numbered.tells id)

theorem Numbered.withTask (numbered : stage.Numbered client queries tickets) {id : Nat}
    (given : id < queries) (task : Task) :
    (stage.withTask id task).Numbered client queries tickets :=
  { numbered with
    task_lt := by
      intro other known
      by_cases same : other = id
      · omega
      · simp only [Stage.withTask, if_neg same] at known
        exact numbered.task_lt other known }

theorem Numbered.withAnswer (numbered : stage.Numbered client queries tickets) {ticket : Nat}
    (given : ticket < tickets) (answer : Except ClientError (List Column)) :
    (stage.withAnswer ticket answer).Numbered client queries tickets :=
  { numbered with
    answer_lt := by
      intro other known
      by_cases same : other = ticket
      · omega
      · simp only [Stage.withAnswer, if_neg same] at known
        exact numbered.answer_lt other known }

theorem queryId_of_mem_tagged {id : Nat} {events : List Event} {update : Update}
    (member : update ∈ Session.tagged id events) : update.queryId = id := by
  obtain ⟨event, _, rfl⟩ := List.mem_map.mp member
  rfl

/-! ## What happens in the background -/

theorem Numbered.launchJob (numbered : stage.Numbered client queries tickets) {job : Job}
    (given : ∀ id, job.query? = some id → id < queries) (network : Network) :
    (stage.launchJob network job).Numbered client queries tickets := by
  cases job with
  | query id banquetUrl => exact numbered.withTask (given id rfl) _
  | schema | health => exact numbered

theorem Numbered.enqueue (numbered : stage.Numbered client queries tickets) {id : Nat}
    (given : id < queries) (events : List Event) :
    (stage.enqueue id events).Numbered client queries tickets := by
  refine numbered.withSession _ rfl rfl rfl (fun job member => member) ?_ fun id tells => tells
  intro update member
  rcases List.mem_append.mp member with before | sent
  · exact Or.inl before
  · exact Or.inr (by rw [queryId_of_mem_tagged sent]; exact given)

theorem Numbered.sendNext (numbered : stage.Numbered client queries tickets) (id : Nat) :
    (stage.sendNext id).Numbered client queries tickets := by
  unfold Stage.sendNext
  split
  · rename_i stream event rest task_eq
    have given := numbered.task_lt id (by simp [task_eq])
    exact (numbered.enqueue given [event]).withTask given _
  · exact numbered

theorem Numbered.finishTask (numbered : stage.Numbered client queries tickets) (id : Nat) :
    (stage.finishTask id).Numbered client queries tickets := by
  unfold Stage.finishTask
  split
  · exact numbered.withSession _ rfl rfl rfl (fun job member => member)
      (fun update member => Or.inl member) fun other tells => tells.finishQuery id
  · exact numbered

theorem Numbered.runJob (numbered : stage.Numbered client queries tickets) {job : Job}
    (queryGiven : ∀ id, job.query? = some id → id < queries)
    (ticketGiven : ∀ ticket, job.ticket? = some ticket → ticket < tickets) (network : Network) :
    (stage.runJob network job).Numbered client queries tickets := by
  cases job with
  | query id banquetUrl =>
      rw [runJob_query]
      exact (List.foldlRecOn _ _ (numbered.launchJob queryGiven network)
        fun _ still _ _ => still.sendNext id).finishTask id
  | schema ticket dataset table =>
      exact (numbered.withSession
        (Session.runJob network stage.session (.schema ticket dataset table)).1 rfl rfl rfl
        (fun job member => member) (fun update member => Or.inl member)
        fun id tells => tells).withAnswer (ticketGiven ticket rfl) _
  | health ticket =>
      exact numbered.withSession _ rfl rfl rfl (fun job member => member)
        (fun update member => Or.inl member) fun id tells => tells

theorem Numbered.takeJobs (numbered : stage.Numbered client queries tickets)
    (chosen : Job → Bool) {act : Stage → Job → Stage}
    (acts : ∀ (stage : Stage) (job : Job), stage.Numbered client queries tickets →
      (∀ id, job.query? = some id → id < queries) →
      (∀ ticket, job.ticket? = some ticket → ticket < tickets) →
      (act stage job).Numbered client queries tickets) :
    (stage.takeJobs chosen act).Numbered client queries tickets := by
  unfold Stage.takeJobs
  refine List.foldlRecOn _ _ ?_ ?_
  · exact numbered.withSession _ rfl rfl rfl (fun job member => (List.mem_filter.mp member).1)
      (fun update member => Or.inl member) fun id tells => tells
  · intro current still job member
    have waits := (List.mem_filter.mp member).1
    exact acts current job still (numbered.query_lt job waits) (numbered.ticket_lt job waits)

theorem Numbered.move (numbered : stage.Numbered client queries tickets) (move : Move) :
    (stage.move move).Numbered client queries tickets := by
  cases move with
  | launch age network =>
      exact numbered.takeJobs _ fun stage job still query_lt _ => still.launchJob query_lt network
  | send age =>
      simp only [Stage.move]
      split
      · exact numbered.sendNext _
      · exact numbered
  | finish age =>
      simp only [Stage.move]
      split
      · exact numbered.finishTask _
      · exact numbered
  | lookUp age network =>
      exact numbered.takeJobs _ fun stage job still query_lt ticket_lt =>
        still.runJob query_lt ticket_lt network

theorem Numbered.foldl_move (numbered : stage.Numbered client queries tickets)
    (moves : List Move) : (moves.foldl Stage.move stage).Numbered client queries tickets :=
  List.foldlRecOn moves Stage.move numbered fun _ still move _ => still.move move

/-! ## What the user does -/

theorem Numbered.drainUpdates (numbered : stage.Numbered client queries tickets)
    (finished : Bool) :
    { stage with session := stage.session.drainUpdates finished }.Numbered client queries
      tickets := by
  have tells : ∀ id, stage.session.Tells id → (stage.session.drainUpdates finished).Tells id :=
    fun id tells => tells.drainUpdates finished
  obtain ⟨lastError, dirty, drained⟩ := stage.session.drainUpdates_eq finished
  rw [drained] at tells ⊢
  exact numbered.withSession _ rfl rfl rfl (fun job member => member)
    (fun update member => absurd member List.not_mem_nil) tells

theorem Numbered.of_core (numbered : stage.Numbered client queries tickets) {session : Session}
    (same : session.core = stage.session.core) :
    { stage with session }.Numbered client queries tickets := by
  have jobs_eq : session.jobs = stage.session.jobs := congrArg (·.jobs) same
  have updates_eq : session.updates = stage.session.updates := congrArg (·.updates) same
  exact numbered.withSession session (congrArg (·.client) same) (congrArg (·.nextQueryId) same)
    (congrArg (·.nextTicket) same) (fun job member => jobs_eq ▸ member)
    (fun update member => Or.inl (updates_eq ▸ member)) fun id tells => tells.of_core same

theorem Numbered.begun (numbered : stage.Numbered client queries tickets) (banquetUrl : String) :
    { stage with session := stage.session.begun banquetUrl }.Numbered client (queries + 1)
      (tickets + 1) where
  client_eq := numbered.client_eq
  nextQueryId_eq := congrArg (· + 1) numbered.nextQueryId_eq
  nextTicket_eq := congrArg (· + 1) numbered.nextTicket_eq
  query_lt := by
    intro job member id isQuery
    rcases List.mem_append.mp member with before | new
    · exact Nat.lt_succ_of_lt (numbered.query_lt job before id isQuery)
    · have given := numbered.nextQueryId_eq
      simp only [List.mem_cons, List.not_mem_nil, or_false] at new
      rcases new with rfl | rfl
      · cases isQuery
      · simp only [Job.query?, Option.some.injEq] at isQuery
        omega
  ticket_lt := by
    intro job member ticket isLookup
    rcases List.mem_append.mp member with before | new
    · exact Nat.lt_succ_of_lt (numbered.ticket_lt job before ticket isLookup)
    · have given := numbered.nextTicket_eq
      simp only [List.mem_cons, List.not_mem_nil, or_false] at new
      rcases new with rfl | rfl
      · simp only [Job.ticket?, Option.some.injEq] at isLookup
        omega
      · cases isLookup
  update_lt := fun update member => Nat.lt_succ_of_lt (numbered.update_lt update member)
  task_lt := fun id known => Nat.lt_succ_of_lt (numbered.task_lt id known)
  answer_lt := fun ticket known => Nat.lt_succ_of_lt (numbered.answer_lt ticket known)
  tells := by
    intro id
    by_cases new : id = stage.session.nextQueryId
    · rw [new]
      exact stage.session.tells_begun banquetUrl
    · exact (numbered.tells id).begun new banquetUrl

theorem Numbered.checkServer (numbered : stage.Numbered client queries tickets) :
    { stage with session := stage.session.checkServer }.Numbered client queries (tickets + 1) :=
  { numbered with
    nextTicket_eq := congrArg (· + 1) numbered.nextTicket_eq
    query_lt := by
      intro job member id isQuery
      rcases List.mem_append.mp member with before | new
      · exact numbered.query_lt job before id isQuery
      · obtain rfl := List.mem_singleton.mp new
        cases isQuery
    ticket_lt := by
      intro job member ticket isLookup
      rcases List.mem_append.mp member with before | new
      · exact Nat.lt_succ_of_lt (numbered.ticket_lt job before ticket isLookup)
      · have given := numbered.nextTicket_eq
        obtain rfl := List.mem_singleton.mp new
        simp only [Job.ticket?, Option.some.injEq] at isLookup
        omega
    answer_lt := fun ticket known => Nat.lt_succ_of_lt (numbered.answer_lt ticket known) }

theorem Numbered.affect (numbered : stage.Numbered client queries tickets)
    (effect : Session.Effect) :
    ∃ queries' tickets',
      { stage with session := stage.session.affect effect }.Numbered client queries' tickets' := by
  have still : ∀ session : Session, session.client = stage.session.client →
      session.nextQueryId = stage.session.nextQueryId →
      session.nextTicket = stage.session.nextTicket → session.jobs = stage.session.jobs →
      session.updates = stage.session.updates →
      (∀ id, stage.session.Tells id → session.Tells id) →
      ∃ queries' tickets', { stage with session }.Numbered client queries' tickets' := by
    intro session client_eq queries_eq tickets_eq jobs_eq updates_eq tells
    exact ⟨queries, tickets, numbered.withSession session client_eq queries_eq tickets_eq
      (fun job member => jobs_eq ▸ member) (fun update member => Or.inl (updates_eq ▸ member))
      tells⟩
  cases effect with
  | nothing | scroll | resize => exact still _ rfl rfl rfl rfl rfl fun id tells => tells
  | start banquetUrl =>
      exact ⟨queries + 1, tickets + 1,
        (numbered.begun banquetUrl).of_core (stage.session.core_startQuery banquetUrl)⟩
  | checkServer => exact ⟨queries, tickets + 1, numbered.checkServer⟩
  | cancel =>
      refine still _ ?_ ?_ ?_ ?_ ?_ fun id tells => tells.cancelQuery
      all_goals
        simp only [Session.affect, Session.cancelQuery]
        split <;> rfl
  | pollSchema =>
      refine still _ ?_ ?_ ?_ ?_ ?_ fun id tells => tells.pollSchema
      all_goals
        simp only [Session.affect, Session.pollSchema]
        split <;> rfl

theorem Numbered.step (numbered : stage.Numbered client queries tickets) (step : Step) :
    ∃ queries' tickets', (stage.step step).Numbered client queries' tickets' := by
  cases step with
  | operate operation =>
      obtain ⟨queries', tickets', affected⟩ := numbered.affect
        (operation.effect stage.session.isQueryRunning stage.session.queryText)
      exact ⟨queries', tickets', affected.of_core (stage.session.core_operate operation)⟩
  | background move => exact ⟨queries, tickets, numbered.move move⟩
  | runJobs network =>
      exact ⟨queries, tickets, numbered.takeJobs _ fun stage job still query_lt ticket_lt =>
        still.runJob query_lt ticket_lt network⟩
  | pollUpdates meanwhile =>
      exact ⟨queries, tickets, (numbered.foldl_move meanwhile).drainUpdates _⟩

theorem Numbered.run (numbered : stage.Numbered client queries tickets) (steps : List Step) :
    ∃ queries' tickets', (stage.run steps).Numbered client queries' tickets' := by
  induction steps generalizing stage queries tickets with
  | nil => exact ⟨queries, tickets, numbered⟩
  | cons step later inductionHypothesis =>
      obtain ⟨_, _, stepped⟩ := numbered.step step
      exact inductionHypothesis stepped

end

/-- In every run, numbers are given only once. -/
theorem exists_numbered_run (client : Client) (steps : List Step) :
    ∃ queries tickets, ((new client).run steps).Numbered client queries tickets :=
  (numbered_new client).run steps

/-- In every run, the token of the active query is the only one that is not cancelled. -/
theorem tells_run (client : Client) (steps : List Step) (id : Nat) :
    ((new client).run steps).session.Tells id := by
  obtain ⟨_, _, numbered⟩ := exists_numbered_run client steps
  exact numbered.tells id

end RowStream.Stage
