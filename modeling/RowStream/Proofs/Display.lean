import RowStream.Proofs.Solo

/-!
# What is on display of a query

For a query by itself, the results are always a prefix of its own events folded into new results,
with the schema of its own lookup, scrolled somewhere, and marked once at most as failed or
cancelled.  The invariant behind this is that, while the query is active, what was applied, what
is in the queue and what was not sent yet are together all that its stream sends.
-/

set_option autoImplicit false

namespace RowStream

open Http (Network)

inductive Mark where
  | unmarked
  | failed
  | cancelled
  deriving DecidableEq, Repr

def Mark.apply : Mark → Results → Results
  | .unmarked, results => results
  | .failed, results => results.markFailed
  | .cancelled, results => results.markCancelled

namespace Results

theorem markCancelled_viewed (results : Results) (schema : List Column) (scroll : Nat) :
    (results.viewed schema scroll).markCancelled =
      results.markCancelled.viewed schema scroll := by
  unfold markCancelled viewed
  split <;> rfl

theorem isRunning_markCancelled (results : Results) :
    results.markCancelled.status.isRunning = false := by
  unfold markCancelled
  split
  · rfl
  · rename_i ended
    exact Bool.eq_false_iff.mpr ended

theorem settled_viewed (results : Results) (schema : List Column) (scroll : Nat)
    (finished : Bool) :
    (results.viewed schema scroll).settled finished =
      (results.settled finished).viewed schema scroll := by
  unfold settled markFailed viewed
  split
  · split <;> rfl
  · rfl

theorem exists_scrolled_eq (results : Results) (schema : List Column) (scroll pageSize : Nat)
    (action : Action) :
    ∃ scroll', Session.scrolled (results.viewed schema scroll) pageSize action =
      results.viewed schema scroll' := by
  cases action <;> exact ⟨_, rfl⟩

theorem status_scrolled (results : Results) (pageSize : Nat) (action : Action) :
    (Session.scrolled results pageSize action).status = results.status := by
  cases action <;> rfl

end Results

namespace Solo

/-- All that the query's stream sends, as far as it was started. -/
def produced (solo : Solo) : List Event := (solo.task.map Task.stream).getD []

def unsent (solo : Solo) : List Event := (solo.task.map Task.rest).getD []

def Awaits (solo : Solo) : Job → Prop
  | .query _ => solo.task = none
  | .schema _ _ => solo.answer = none

def jobsOf (banquetUrl : String) : List Job :=
  let info := QueryInfo.parse banquetUrl
  [.schema info.dataset info.table, .query banquetUrl]

theorem url_eq_of_mem {other banquetUrl : String} (own : .query other ∈ jobsOf banquetUrl) :
    other = banquetUrl := by
  simpa [jobsOf] using own

theorem table_eq_of_mem {dataset table banquetUrl : String}
    (own : .schema dataset table ∈ jobsOf banquetUrl) :
    dataset = (QueryInfo.parse banquetUrl).dataset ∧
      table = (QueryInfo.parse banquetUrl).table := by
  simpa [jobsOf] using own

/-- What was sent and answered comes from the query's own jobs, each of which is done only once. -/
structure Sourced (client : Client) (banquetUrl : String) (solo : Solo) : Prop where
  client_eq : solo.client = client
  jobs_nodup : solo.jobs.Nodup
  jobs_subset : solo.jobs ⊆ jobsOf banquetUrl
  awaits : ∀ job ∈ solo.jobs, solo.Awaits job
  task_source : ∀ task, solo.task = some task → ∃ network cancellation,
    task.stream = (QueryRun.run client network banquetUrl cancellation).consumer.sent
  answer_source : ∀ answer, solo.answer = some answer → ∃ network,
    answer = (client.fetchSchema network (QueryInfo.parse banquetUrl).dataset
      (QueryInfo.parse banquetUrl).table).1

/-- The schema on display, given how the lookup stands and what its answer was. -/
def SchemaShown (answer : Option (Except ClientError (List Column))) (shown : List Column) :
    Lookup (List Column) → Prop
  | .waiting _ => shown = []
  | .answered held => answer = some held ∧ shown = []
  | .none => ∃ held, answer = some held ∧ shown = held.toOption.getD []

/-- The results are these events of the stream, seen with this schema, this scroll position and
this mark. -/
structure Displays (banquetUrl : String) (solo : Solo) (shown : List Event)
    (schema : List Column) (scroll : Nat) (mark : Mark) : Prop where
  results_eq : solo.results =
    (mark.apply ((Results.start banquetUrl).applyAll shown)).viewed schema scroll
  running_eq : solo.active.isSome = solo.results.status.isRunning
  unmarked : solo.active.isSome → mark = .unmarked
  shown_prefix : shown <+: solo.produced
  complete : solo.active.isSome → solo.produced = shown ++ solo.queue ++ solo.unsent
  schema_shown : SchemaShown solo.answer schema solo.schema

structure Sound (client : Client) (banquetUrl : String) (solo : Solo) : Prop where
  sourced : solo.Sourced client banquetUrl
  displays : ∃ shown schema scroll mark, solo.Displays banquetUrl shown schema scroll mark

theorem sound_start (client : Client) (pageSize : Nat) (banquetUrl : String) :
    (start client pageSize banquetUrl).Sound client banquetUrl where
  sourced :=
    { client_eq := rfl, jobs_nodup := by simp [start], jobs_subset := List.Subset.refl _
      awaits := by simp [start, Awaits], task_source := by simp [start]
      answer_source := by simp [start] }
  displays := ⟨[], [], 0, .unmarked,
    { results_eq := rfl, running_eq := rfl, unmarked := fun _ => rfl
      shown_prefix := List.nil_prefix, complete := fun _ => rfl, schema_shown := rfl }⟩

section

variable {client : Client} {banquetUrl : String} {solo : Solo}

/-! ## Jobs -/

theorem exists_stream_eq (solo : Solo) (network : Network) (banquetUrl : String) :
    ∃ cancellation, solo.stream network banquetUrl =
      (QueryRun.run solo.client network banquetUrl cancellation).consumer.sent := ⟨_, rfl⟩

theorem Sourced.withTask (sourced : solo.Sourced client banquetUrl)
    (left : .query banquetUrl ∉ solo.jobs) (network : Network) (rest : List Event) :
    { solo with task := some ⟨solo.stream network banquetUrl, rest⟩ }.Sourced client banquetUrl :=
  { sourced with
    awaits := by
      intro job member
      cases job with
      | query other =>
          obtain rfl := url_eq_of_mem (sourced.jobs_subset member)
          exact absurd member left
      | schema dataset table => exact sourced.awaits _ member
    task_source := by
      intro task known
      obtain ⟨cancellation, stream_eq⟩ := solo.exists_stream_eq network banquetUrl
      rw [sourced.client_eq] at stream_eq
      cases known
      exact ⟨network, cancellation, stream_eq⟩ }

theorem Sourced.withAnswer (sourced : solo.Sourced client banquetUrl) {dataset table : String}
    (own : .schema dataset table ∈ jobsOf banquetUrl)
    (left : .schema dataset table ∉ solo.jobs) (network : Network) :
    { solo with answer := some (solo.client.fetchSchema network dataset table).1 }.Sourced client
      banquetUrl := by
  obtain ⟨dataset_eq, table_eq⟩ := table_eq_of_mem own
  exact
    { sourced with
      awaits := by
        intro job member
        cases job with
        | query other => exact sourced.awaits _ member
        | schema otherDataset otherTable =>
            obtain ⟨otherDataset_eq, otherTable_eq⟩ := table_eq_of_mem (sourced.jobs_subset member)
            rw [otherDataset_eq, otherTable_eq, ← dataset_eq, ← table_eq] at member
            exact absurd member left
      answer_source := by
        intro answer known
        cases known
        exact ⟨network, by rw [sourced.client_eq, dataset_eq, table_eq]⟩ }

theorem Displays.nothing_yet {shown : List Event} {schema : List Column} {scroll : Nat}
    {mark : Mark} (displays : solo.Displays banquetUrl shown schema scroll mark)
    (unlaunched : solo.task = none) :
    shown = [] ∧ (solo.active.isSome → solo.queue = []) := by
  have nothing : solo.produced = [] := by rw [produced, unlaunched]; rfl
  have shown_prefix := displays.shown_prefix
  rw [nothing] at shown_prefix
  refine ⟨List.prefix_nil.mp shown_prefix, fun isActive => ?_⟩
  have complete := displays.complete isActive
  rw [nothing, eq_comm, List.append_assoc] at complete
  exact (List.append_eq_nil_iff.mp (List.append_eq_nil_iff.mp complete).2).1

theorem Displays.withTask {shown : List Event} {schema : List Column} {scroll : Nat}
    {mark : Mark} (displays : solo.Displays banquetUrl shown schema scroll mark)
    (unlaunched : solo.task = none) {stream queue rest : List Event}
    (parts : solo.queue = [] → stream = queue ++ rest) :
    { solo with queue, task := some ⟨stream, rest⟩ }.Displays banquetUrl shown schema scroll
      mark := by
  obtain ⟨rfl, queue_eq⟩ := displays.nothing_yet unlaunched
  exact
    { displays with
      shown_prefix := List.nil_prefix
      complete := fun isActive => parts (queue_eq isActive) }

theorem Displays.finished {shown : List Event} {schema : List Column} {scroll : Nat}
    {mark : Mark} (displays : solo.Displays banquetUrl shown schema scroll mark) :
    { solo with active := solo.active.map fun _ => true }.Displays banquetUrl shown schema scroll
      mark := by
  have isSome_eq : (solo.active.map fun _ => true).isSome = solo.active.isSome :=
    Option.isSome_map
  exact
    { displays with
      running_eq := isSome_eq.trans displays.running_eq
      unmarked := fun isActive => displays.unmarked (isSome_eq ▸ isActive)
      complete := fun isActive => displays.complete (isSome_eq ▸ isActive) }

theorem Sound.launchJob (sound : solo.Sound client banquetUrl) (network : Network) {job : Job}
    (own : job ∈ jobsOf banquetUrl) (waits : solo.Awaits job) (left : job ∉ solo.jobs) :
    (solo.launchJob network job).Sound client banquetUrl := by
  obtain ⟨sourced, shown, schema, scroll, mark, displays⟩ := sound
  cases job with
  | query other =>
      obtain rfl := url_eq_of_mem own
      refine ⟨sourced.withTask left network _, shown, schema, scroll, mark, ?_⟩
      refine displays.withTask waits fun queue_eq => ?_
      rw [queue_eq, List.nil_append]
  | schema dataset table => exact ⟨sourced, shown, schema, scroll, mark, displays⟩

theorem SchemaShown.answered {lookup : Lookup (List Column)} {shown : List Column}
    (schemaShown : SchemaShown none shown lookup) (answer : Except ClientError (List Column)) :
    SchemaShown (some answer) shown (lookup.answeredWith answer) := by
  cases lookup with
  | waiting ticket => exact ⟨rfl, schemaShown⟩
  | answered held => cases schemaShown.1
  | none =>
      obtain ⟨held, impossible, _⟩ := schemaShown
      cases impossible

theorem Sound.runJob (sound : solo.Sound client banquetUrl) (network : Network) {job : Job}
    (own : job ∈ jobsOf banquetUrl) (waits : solo.Awaits job) (left : job ∉ solo.jobs) :
    (solo.runJob network job).Sound client banquetUrl := by
  obtain ⟨sourced, shown, schema, scroll, mark, displays⟩ := sound
  cases job with
  | query other =>
      obtain rfl := url_eq_of_mem own
      let stream := solo.stream network other
      have launched : { solo with
          queue := solo.queue ++ stream, task := some ⟨stream, []⟩ }.Displays other shown schema
          scroll mark :=
        displays.withTask waits fun queue_eq => by
          rw [queue_eq, List.nil_append, List.append_nil]
      exact ⟨{ sourced.withTask left network [] with }, shown, schema, scroll, mark,
        launched.finished⟩
  | schema dataset table =>
      refine ⟨{ sourced.withAnswer own left network with }, shown, schema, scroll, mark, ?_⟩
      have schemaShown := displays.schema_shown
      have unanswered : solo.answer = none := waits
      rw [unanswered] at schemaShown
      exact { displays with schema_shown := schemaShown.answered _ }

/-- A way to do a job that keeps what is on display sound and lets the other jobs wait. -/
structure Works (client : Client) (banquetUrl : String) (act : Solo → Job → Solo) : Prop where
  sound : ∀ {solo : Solo} {job : Job}, solo.Sound client banquetUrl → job ∈ jobsOf banquetUrl →
    solo.Awaits job → job ∉ solo.jobs → (act solo job).Sound client banquetUrl
  jobs_eq : ∀ (solo : Solo) (job : Job), (act solo job).jobs = solo.jobs
  awaits : ∀ {solo : Solo} {job other : Job}, job ∈ jobsOf banquetUrl →
    other ∈ jobsOf banquetUrl → other ≠ job → solo.Awaits other → (act solo job).Awaits other

theorem works_launchJob (client : Client) (banquetUrl : String) (network : Network) :
    Works client banquetUrl (Solo.launchJob network) where
  sound sound own waits left := sound.launchJob network own waits left
  jobs_eq solo job := by cases job <;> rfl
  awaits := by
    intro solo job other own otherOwn different waits
    cases job with
    | schema dataset table => exact waits
    | query url =>
        cases other with
        | query otherUrl =>
            exact absurd (by rw [url_eq_of_mem own, url_eq_of_mem otherOwn]) different
        | schema dataset table => exact waits

theorem works_runJob (client : Client) (banquetUrl : String) (network : Network) :
    Works client banquetUrl (Solo.runJob network) where
  sound sound own waits left := sound.runJob network own waits left
  jobs_eq solo job := by cases job <;> rfl
  awaits := by
    intro solo job other own otherOwn different waits
    cases job with
    | schema dataset table =>
        cases other with
        | query otherUrl => exact waits
        | schema otherDataset otherTable =>
            obtain ⟨dataset_eq, table_eq⟩ := table_eq_of_mem own
            obtain ⟨otherDataset_eq, otherTable_eq⟩ := table_eq_of_mem otherOwn
            exact absurd (by rw [dataset_eq, table_eq, otherDataset_eq, otherTable_eq]) different
    | query url =>
        cases other with
        | query otherUrl =>
            exact absurd (by rw [url_eq_of_mem own, url_eq_of_mem otherOwn]) different
        | schema dataset table => exact waits

theorem Works.foldl_jobs {act : Solo → Job → Solo} (works : Works client banquetUrl act)
    {Kept : Solo → Prop}
    (keeps : ∀ {solo : Solo} {job : Job}, Kept solo → job ∈ jobsOf banquetUrl →
      solo.Awaits job → job ∉ solo.jobs → Kept (act solo job))
    (kept : Kept solo) {jobs : List Job} (nodup : jobs.Nodup)
    (own : jobs ⊆ jobsOf banquetUrl) (waits : ∀ job ∈ jobs, solo.Awaits job)
    (left : ∀ job ∈ jobs, job ∉ solo.jobs) : Kept (jobs.foldl act solo) := by
  induction jobs generalizing solo with
  | nil => exact kept
  | cons job rest inductionHypothesis =>
      have jobOwn := own List.mem_cons_self
      have acted := keeps kept jobOwn (waits job List.mem_cons_self)
        (left job List.mem_cons_self)
      -- The jobs that are left are other ones, so they still wait.
      refine inductionHypothesis acted nodup.of_cons ?_ ?_ ?_
      · exact fun other member => own (List.mem_cons_of_mem job member)
      · intro other member
        have different : other ≠ job := fun same =>
          (List.nodup_cons.mp nodup).1 (same ▸ member)
        exact works.awaits jobOwn (own (List.mem_cons_of_mem job member)) different
          (waits other (List.mem_cons_of_mem job member))
      · intro other member
        rw [works.jobs_eq]
        exact left other (List.mem_cons_of_mem job member)

theorem Works.takeJobs {act : Solo → Job → Solo} (works : Works client banquetUrl act)
    {Kept : Solo → Prop}
    (keeps : ∀ {solo : Solo} {job : Job}, Kept solo → job ∈ jobsOf banquetUrl →
      solo.Awaits job → job ∉ solo.jobs → Kept (act solo job))
    (sourced : solo.Sourced client banquetUrl) (chosen : Job → Bool)
    (kept : Kept { solo with jobs := solo.jobs.filter (!chosen ·) }) :
    Kept (solo.takeJobs chosen act) := by
  refine works.foldl_jobs keeps kept (sourced.jobs_nodup.filter _) ?_ ?_ ?_
  · exact fun job member => sourced.jobs_subset (List.mem_filter.mp member).1
  · exact fun job member => sourced.awaits job (List.mem_filter.mp member).1
  · intro job member remains
    have isChosen := (List.mem_filter.mp member).2
    have isNot := (List.mem_filter.mp remains).2
    rw [isChosen] at isNot
    cases isNot

theorem Sound.takeJobs (sound : solo.Sound client banquetUrl) {act : Solo → Job → Solo}
    (works : Works client banquetUrl act) (chosen : Job → Bool) :
    (solo.takeJobs chosen act).Sound client banquetUrl := by
  obtain ⟨sourced, shown, schema, scroll, mark, displays⟩ := sound
  refine works.takeJobs works.sound sourced chosen ⟨?_, shown, schema, scroll, mark,
    { displays with }⟩
  exact
    { sourced with
      jobs_nodup := sourced.jobs_nodup.filter _
      jobs_subset := fun job member => sourced.jobs_subset (List.mem_filter.mp member).1
      awaits := fun job member => sourced.awaits job (List.mem_filter.mp member).1 }

/-! ## Moves -/

theorem Sound.sendNext (sound : solo.Sound client banquetUrl) :
    solo.sendNext.Sound client banquetUrl := by
  obtain ⟨sourced, shown, schema, scroll, mark, displays⟩ := sound
  rcases known : solo.task with _ | ⟨stream, _ | ⟨event, rest⟩⟩
  · simp only [Solo.sendNext, known]
    exact ⟨sourced, shown, schema, scroll, mark, displays⟩
  · simp only [Solo.sendNext, known]
    exact ⟨sourced, shown, schema, scroll, mark, displays⟩
  · simp only [Solo.sendNext, known]
    have produced_eq : solo.produced = stream := by rw [produced, known]; rfl
    have unsent_eq : solo.unsent = event :: rest := by rw [unsent, known]; rfl
    have shown_prefix := displays.shown_prefix
    have complete := displays.complete
    rw [produced_eq] at shown_prefix complete
    rw [unsent_eq] at complete
    refine ⟨?_, shown, schema, scroll, mark, ?_⟩
    · exact
        { sourced with
          awaits := by
            intro job member
            cases job with
            | query other => cases (sourced.awaits _ member).symm.trans known
            | schema dataset table => exact sourced.awaits _ member
          task_source := by
            intro task same
            cases same
            obtain ⟨network, cancellation, stream_eq⟩ := sourced.task_source _ known
            exact ⟨network, cancellation, stream_eq⟩ }
    · exact
        { displays with
          shown_prefix := shown_prefix
          complete := fun isActive => by
            change stream = shown ++ (solo.queue ++ [event]) ++ rest
            rw [complete isActive]
            simp }

theorem Sound.finishTask (sound : solo.Sound client banquetUrl) :
    solo.finishTask.Sound client banquetUrl := by
  obtain ⟨sourced, shown, schema, scroll, mark, displays⟩ := sound
  unfold Solo.finishTask
  split
  · exact ⟨{ sourced with }, shown, schema, scroll, mark, displays.finished⟩
  · exact ⟨sourced, shown, schema, scroll, mark, displays⟩

theorem Sound.move (sound : solo.Sound client banquetUrl) (move : Move) :
    (solo.move move).Sound client banquetUrl := by
  cases move with
  | launch age network => exact sound.takeJobs (works_launchJob client banquetUrl network) _
  | lookUp age network => exact sound.takeJobs (works_runJob client banquetUrl network) _
  | send age =>
      simp only [Solo.move]
      split
      · exact sound.sendNext
      · exact sound
  | finish age =>
      simp only [Solo.move]
      split
      · exact sound.finishTask
      · exact sound

theorem Sound.foldl_move (sound : solo.Sound client banquetUrl) (moves : List Move) :
    (moves.foldl Solo.move solo).Sound client banquetUrl := by
  induction moves generalizing solo with
  | nil => exact sound
  | cons move rest inductionHypothesis => exact inductionHypothesis (sound.move move)

/-! ## What the user does -/

theorem drain_of_inactive (inactive : solo.active = none)
    (ended : solo.results.status.isRunning = false) (finished : Bool) :
    solo.drain finished = { solo with queue := [] } := by
  simp only [Solo.drain, inactive, Option.isSome_none, Bool.false_eq_true, if_false,
    Results.applyAll_nil, Results.settled_of_ended ended, ite_self]

theorem Displays.drain_of_active {shown : List Event} {schema : List Column} {scroll : Nat}
    (displays : solo.Displays banquetUrl shown schema scroll .unmarked)
    (isActive : solo.active.isSome) (finished : Bool) :
    (solo.drain finished).Displays banquetUrl (shown ++ solo.queue) schema scroll
      (if finished then .failed else .unmarked) := by
  have complete := displays.complete isActive
  have results_eq : (solo.results.applyAll solo.queue).settled finished =
      ((if finished then Mark.failed else Mark.unmarked).apply
        ((Results.start banquetUrl).applyAll (shown ++ solo.queue))).viewed schema scroll := by
    rw [displays.results_eq, Mark.apply, Results.applyAll_viewed, Results.settled_viewed,
      Results.applyAll_append]
    cases finished <;> rfl
  have isSome_eq : ∀ running : Bool,
      (if running then solo.active else none).isSome = running := by
    intro running
    cases running with
    | true => exact isActive
    | false => rfl
  simp only [Solo.drain, isActive, if_true]
  exact
    { results_eq := results_eq
      running_eq := isSome_eq _
      unmarked := fun stillActive => by
        rw [isSome_eq] at stillActive
        rw [(Results.of_isRunning_settled stillActive).1]
        rfl
      shown_prefix := ⟨solo.unsent, complete.symm⟩
      complete := fun _ => by
        rw [List.append_nil]
        exact complete
      schema_shown := displays.schema_shown }

theorem Sourced.drain (sourced : solo.Sourced client banquetUrl) (finished : Bool) :
    (solo.drain finished).Sourced client banquetUrl := { sourced with }

theorem Sound.drain (sound : solo.Sound client banquetUrl) (finished : Bool) :
    (solo.drain finished).Sound client banquetUrl := by
  obtain ⟨sourced, shown, schema, scroll, mark, displays⟩ := sound
  refine ⟨sourced.drain finished, ?_⟩
  cases known : solo.active with
  | none =>
      have ended := displays.running_eq
      rw [known] at ended
      rw [drain_of_inactive known ended.symm]
      refine ⟨shown, schema, scroll, mark, { displays with complete := fun isActive => ?_ }⟩
      rw [known] at isActive
      cases isActive
  | some seen =>
      have isActive : solo.active.isSome := by rw [known]; rfl
      obtain rfl := displays.unmarked isActive
      exact ⟨_, _, _, _, displays.drain_of_active isActive finished⟩

theorem Sound.affect (sound : solo.Sound client banquetUrl) (effect : Session.Effect) :
    (solo.affect effect).Sound client banquetUrl := by
  obtain ⟨sourced, shown, schema, scroll, mark, displays⟩ := sound
  cases effect with
  | nothing | start => exact ⟨sourced, shown, schema, scroll, mark, displays⟩
  | checkServer | resize =>
      exact ⟨{ sourced with }, shown, schema, scroll, mark, { displays with }⟩
  | cancel =>
      cases known : solo.active with
      | none =>
          simp only [Solo.affect, known]
          exact ⟨sourced, shown, schema, scroll, mark, displays⟩
      | some finished =>
          obtain rfl := displays.unmarked (by rw [known]; rfl)
          simp only [Solo.affect, known]
          refine ⟨{ sourced with }, shown, schema, scroll, .cancelled, ?_⟩
          exact
            { displays with
              results_eq := by
                rw [displays.results_eq, Results.markCancelled_viewed]
                rfl
              running_eq := solo.results.isRunning_markCancelled.symm
              unmarked := fun some => by cases some
              complete := fun some => by cases some }
  | scroll action =>
      obtain ⟨scroll', scrolled_eq⟩ := Results.exists_scrolled_eq
        (mark.apply ((Results.start banquetUrl).applyAll shown)) schema scroll solo.pageSize action
      rw [← displays.results_eq] at scrolled_eq
      refine ⟨{ sourced with }, shown, schema, scroll', mark, ?_⟩
      exact
        { displays with
          results_eq := scrolled_eq
          running_eq := by
            simp only [Solo.affect, Results.status_scrolled]
            exact displays.running_eq }
  | pollSchema =>
      have schema_shown := displays.schema_shown
      cases known : solo.schema with
      | none | waiting =>
          simp only [Solo.affect, known]
          exact ⟨sourced, shown, schema, scroll, mark, displays⟩
      | answered held =>
          rw [known] at schema_shown
          obtain ⟨answer_eq, rfl⟩ := schema_shown
          cases held with
          | ok columns =>
              simp only [Solo.affect, known]
              refine ⟨{ sourced with }, shown, columns, scroll, mark, ?_⟩
              exact
                { displays with
                  results_eq := by
                    rw [displays.results_eq]
                    rfl
                  schema_shown := ⟨.ok columns, answer_eq, rfl⟩ }
          | error cause =>
              simp only [Solo.affect, known]
              refine ⟨{ sourced with }, shown, [], scroll, mark, ?_⟩
              exact { displays with schema_shown := ⟨.error cause, answer_eq, rfl⟩ }

theorem Sound.step (sound : solo.Sound client banquetUrl) (step : Step) :
    (solo.step step).Sound client banquetUrl := by
  cases step with
  | operate operation => exact sound.affect _
  | background move => exact sound.move move
  | runJobs network => exact sound.takeJobs (works_runJob client banquetUrl network) _
  | pollUpdates meanwhile => exact (sound.foldl_move meanwhile).drain _

theorem Sound.run (sound : solo.Sound client banquetUrl) (steps : List Step) :
    (solo.run steps).Sound client banquetUrl := by
  induction steps generalizing solo with
  | nil => exact sound
  | cons step later inductionHypothesis => exact inductionHypothesis (sound.step step)

end

end Solo

end RowStream
