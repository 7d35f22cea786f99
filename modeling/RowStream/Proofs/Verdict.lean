import RowStream.Proofs.Accounting
import RowStream.Proofs.Display
import RowStream.Proofs.Following
import RowStream.Proofs.QueryStream

/-!
# How a query is judged

The life of a query is kept in three places: a session knows whether a query is active, the
results have a status, and the stream of the query, in another job, has an outcome.  A query is
active for exactly as long as its status says that it is running, and while it is active its
stream is one that nobody cancels.  Such a stream ends with a completion that counts its rows or
with the error that made it fail, so that is what the status comes to say.  From then on only the
start of another query changes it.
-/

set_option autoImplicit false

namespace RowStream

open Event (Incomplete allRows messages)
open Http (Network)

namespace Event

inductive Concluded : List Event → Prop where
  | completes (earlier : List Event) (incomplete : Incomplete earlier) :
      Concluded (earlier ++ [.complete (allRows earlier).length])
  | fails (earlier : List Event) (message : String) (incomplete : Incomplete earlier) :
      Concluded (earlier ++ [.error message])

end Event

theorem QueryRun.concluded_run_never (client : Client) (network : Network) (banquetUrl : String) :
    Event.Concluded (run client network banquetUrl .never).consumer.sent := by
  obtain ⟨operations, uncancelled, result, ended⟩ := concludes_run_never client network banquetUrl
  rw [← result] at ended ⊢
  change Event.Concluded (Consumer.run client.lineLimit operations).sent
  cases Consumer.ends_run uncancelled ended with
  | completes earlier total outcome_eq incomplete sent_eq =>
      have counted := Consumer.total_of_completed outcome_eq
      have rowless : allRows [.complete total] = [] := rfl
      rw [sent_eq, Event.allRows_append, rowless, List.append_nil] at counted
      rw [sent_eq, counted]
      exact .completes earlier incomplete
  | fails earlier message outcome_eq incomplete sent_eq =>
      rw [sent_eq]
      exact .fails earlier message incomplete

namespace Results

def report (results : Results) : QueryStatus × List Row × List String × List Column :=
  (results.status, results.rows, results.errors, results.columns)

/-- A completed query counts the rows on display, and a failed one names its last error. -/
def Judged (results : Results) : Prop :=
  (∀ total, results.status = .completed total → total = results.rows.length) ∧
    ∀ message, results.status = .failed message → results.errors.getLast? = some message

theorem Judged.of_report {results other : Results} (judged : results.Judged)
    (same : other.report = results.report) : other.Judged := by
  simp only [report, Prod.mk.injEq] at same
  obtain ⟨status_eq, rows_eq, errors_eq, _⟩ := same
  rw [Judged, status_eq, rows_eq, errors_eq]
  exact judged

theorem judged_of_running {results : Results} (running : results.status = .running) :
    results.Judged := by
  simp [Judged, running]

theorem judged_of_isRunning {results : Results} (running : results.status.isRunning) :
    results.Judged := by
  cases status_eq : results.status with
  | running => exact judged_of_running status_eq
  | idle | completed | failed | cancelled =>
      rw [status_eq] at running
      cases running

theorem status_applyAll_start {events : List Event} (incomplete : Incomplete events)
    (banquetUrl : String) : ((start banquetUrl).applyAll events).status = .running :=
  status_applyAll incomplete _

theorem judged_failure (banquetUrl : String) {earlier : List Event} (incomplete : Incomplete earlier)
    (message : String) :
    ((start banquetUrl).applyAll (earlier ++ [.error message])).markFailed.Judged := by
  have running := status_applyAll_start
    (Consumer.incomplete_append incomplete (Consumer.incomplete_error message)) banquetUrl
  have last : ((start banquetUrl).applyAll (earlier ++ [.error message])).errors.getLast? =
      some message := by
    rw [applyAll_append]
    exact List.getLast?_concat
  rw [markFailed_of_running running, last]
  refine ⟨fun total completed => (by cases completed), fun other failed => ?_⟩
  obtain rfl : message = other := by simpa using failed
  exact last

/-- What was picked up of a stream is judged by the stream's own end. -/
theorem judged_settled (banquetUrl : String) {events picked : List Event}
    (concluded : Event.Concluded events) (isPrefix : picked <+: events) {finished : Bool}
    (exhausted : finished → picked = events) :
    (((start banquetUrl).applyAll picked).settled finished).Judged := by
  cases concluded with
  | completes earlier incomplete =>
      rcases List.prefix_concat_iff.mp isPrefix with all | some
      · have completed := (start banquetUrl).status_applyAll_complete earlier
          (allRows earlier).length
        rw [all, settled_of_ended (by rw [completed]; rfl)]
        refine ⟨fun total isTotal => ?_, fun message failed => ?_⟩
        · obtain rfl : (allRows earlier).length = total := by
            simpa using completed.symm.trans isTotal
          rw [rows_applyAll, Event.allRows_append]
          simp [allRows, Event.rowsOf, start, empty]
        · cases completed.symm.trans failed
      · have pickedIncomplete : Incomplete picked := fun event member =>
          incomplete event (some.subset member)
        cases finished with
        | false => exact judged_of_running (status_applyAll_start pickedIncomplete banquetUrl)
        | true =>
            have shorter := some.length_le
            rw [exhausted rfl, List.length_append, List.length_singleton] at shorter
            omega
  | fails earlier message incomplete =>
      cases finished with
      | true =>
          rw [exhausted rfl]
          exact judged_failure banquetUrl incomplete message
      | false =>
          have pickedIncomplete : Incomplete picked := fun event member =>
            Consumer.incomplete_append incomplete (Consumer.incomplete_error message) event
              (isPrefix.subset member)
          exact judged_of_running (status_applyAll_start pickedIncomplete banquetUrl)

theorem report_scrolled (results : Results) (pageSize : Nat) (action : Action) :
    (Session.scrolled results pageSize action).report = results.report := by
  cases action <;> rfl

end Results

namespace Solo

/-! ## What the background leaves alone -/

/-- Nothing was picked up between these, and an end of the job that was seen stays seen. -/
structure Kept (before after : Solo) : Prop where
  results_eq : after.results = before.results
  isSome_eq : after.active.isSome = before.active.isSome
  seen : before.active = some true → after.active = some true

theorem Kept.refl (solo : Solo) : Kept solo solo := ⟨rfl, rfl, id⟩

theorem Kept.trans {first second third : Solo} (before : Kept first second)
    (after : Kept second third) : Kept first third where
  results_eq := after.results_eq.trans before.results_eq
  isSome_eq := after.isSome_eq.trans before.isSome_eq
  seen := after.seen ∘ before.seen

theorem kept_launchJob (network : Network) (solo : Solo) (job : Job) :
    Kept solo (solo.launchJob network job) := by
  cases job <;> exact ⟨rfl, rfl, id⟩

theorem kept_finished (solo : Solo) :
    Kept solo { solo with active := solo.active.map fun _ => true } :=
  ⟨rfl, Option.isSome_map, fun seen => by simp [seen]⟩

theorem kept_runJob (network : Network) (solo : Solo) (job : Job) :
    Kept solo (solo.runJob network job) := by
  cases job with
  | query banquetUrl =>
      exact ⟨rfl, solo.kept_finished.isSome_eq, solo.kept_finished.seen⟩
  | schema dataset table => exact ⟨rfl, rfl, id⟩

theorem kept_takeJobs {act : Solo → Job → Solo} (acts : ∀ solo job, Kept solo (act solo job))
    (chosen : Job → Bool) (solo : Solo) : Kept solo (solo.takeJobs chosen act) := by
  have left : Kept solo { solo with jobs := solo.jobs.filter (!chosen ·) } := ⟨rfl, rfl, id⟩
  exact List.foldlRecOn _ _ left fun current kept job _ => kept.trans (acts current job)

theorem kept_sendNext (solo : Solo) : Kept solo solo.sendNext := by
  unfold sendNext
  split <;> exact ⟨rfl, rfl, id⟩

theorem kept_finishTask (solo : Solo) : Kept solo solo.finishTask := by
  unfold finishTask
  split
  · exact solo.kept_finished
  · exact Kept.refl solo

theorem kept_move (solo : Solo) (move : Move) : Kept solo (solo.move move) := by
  cases move with
  | launch age network => exact kept_takeJobs (kept_launchJob network) _ solo
  | lookUp age network => exact kept_takeJobs (kept_runJob network) _ solo
  | send age =>
      simp only [Solo.move]
      split
      · exact solo.kept_sendNext
      · exact Kept.refl solo
  | finish age =>
      simp only [Solo.move]
      split
      · exact solo.kept_finishTask
      · exact Kept.refl solo

theorem kept_foldl_move (moves : List Move) (solo : Solo) :
    Kept solo (moves.foldl Solo.move solo) :=
  List.foldlRecOn moves Solo.move (Kept.refl solo) fun current kept move _ =>
    kept.trans (current.kept_move move)

/-! ## A query that is over -/

structure Rests (solo : Solo) : Prop where
  inactive : solo.active = none
  ended : solo.results.status.isRunning = false
  judged : solo.results.Judged

theorem Rests.of_kept {before after : Solo} (rests : before.Rests) (kept : Kept before after) :
    after.Rests where
  inactive := by
    have isSome_eq := kept.isSome_eq
    rw [rests.inactive] at isSome_eq
    simpa using isSome_eq
  ended := by
    rw [kept.results_eq]
    exact rests.ended
  judged := by
    rw [kept.results_eq]
    exact rests.judged

theorem Rests.of_report {before after : Solo} (rests : before.Rests)
    (inactive : after.active = none) (same : after.results.report = before.results.report) :
    after.Rests where
  inactive := inactive
  ended := by
    have status_eq : after.results.status = before.results.status := congrArg Prod.fst same
    rw [status_eq]
    exact rests.ended
  judged := rests.judged.of_report same

theorem Rests.affect {solo : Solo} (rests : solo.Rests) (effect : Session.Effect) :
    (solo.affect effect).active = none ∧
      (solo.affect effect).results.report = solo.results.report := by
  cases effect with
  | nothing | start | checkServer | resize => exact ⟨rests.inactive, rfl⟩
  | cancel =>
      simp only [Solo.affect, rests.inactive]
      exact ⟨trivial, trivial⟩
  | scroll action => exact ⟨rests.inactive, Results.report_scrolled _ _ action⟩
  | pollSchema =>
      simp only [Solo.affect]
      split <;> exact ⟨rests.inactive, rfl⟩

theorem Rests.step {solo : Solo} (rests : solo.Rests) (step : Step) :
    (solo.step step).Rests ∧ (solo.step step).results.report = solo.results.report := by
  cases step with
  | operate operation =>
      obtain ⟨inactive, same⟩ := rests.affect (operation.effect solo.active.isSome "")
      exact ⟨rests.of_report inactive same, same⟩
  | background move =>
      have kept := solo.kept_move move
      exact ⟨rests.of_kept kept, congrArg Results.report kept.results_eq⟩
  | runJobs network =>
      have kept := kept_takeJobs (kept_runJob network) (fun _ => true) solo
      exact ⟨rests.of_kept kept, congrArg Results.report kept.results_eq⟩
  | pollUpdates meanwhile =>
      have kept := kept_foldl_move meanwhile solo
      have moved := rests.of_kept kept
      simp only [Solo.step, drain_of_inactive moved.inactive moved.ended]
      exact ⟨⟨moved.inactive, moved.ended, moved.judged⟩, congrArg Results.report kept.results_eq⟩

/-! ## A query that streams -/

/-- The query is active, so its stream is not cancelled; and if its job was seen to have ended,
everything was sent. -/
structure Streaming (client : Client) (banquetUrl : String) (solo : Solo) : Prop where
  client_eq : solo.client = client
  isActive : solo.active.isSome
  streams : ∀ task, solo.task = some task → ∃ network,
    task.stream = (QueryRun.run client network banquetUrl .never).consumer.sent
  sentAll : solo.active = some true → ∃ stream, solo.task = some ⟨stream, []⟩

section

variable {client : Client} {banquetUrl : String} {solo : Solo}

theorem Streaming.stream_eq (streaming : solo.Streaming client banquetUrl) (network : Network)
    (url : String) :
    solo.stream network url = (QueryRun.run client network url .never).consumer.sent := by
  simp only [Solo.stream, streaming.isActive, if_true, streaming.client_eq]

theorem Streaming.launchJob (streaming : solo.Streaming client banquetUrl) (network : Network)
    {job : Job} (own : job ∈ jobsOf banquetUrl) (waits : solo.Awaits job) :
    (solo.launchJob network job).Streaming client banquetUrl := by
  cases job with
  | schema dataset table => exact streaming
  | query other =>
      obtain rfl := url_eq_of_mem own
      exact
        { streaming with
          streams := by
            intro task known
            cases known
            exact ⟨network, streaming.stream_eq network other⟩
          sentAll := by
            intro seen
            obtain ⟨stream, known⟩ := streaming.sentAll seen
            cases (show solo.task = none from waits).symm.trans known }

theorem Streaming.runJob (streaming : solo.Streaming client banquetUrl) (network : Network)
    {job : Job} (own : job ∈ jobsOf banquetUrl) :
    (solo.runJob network job).Streaming client banquetUrl := by
  cases job with
  | schema dataset table => exact { streaming with }
  | query other =>
      obtain rfl := url_eq_of_mem own
      exact
        { client_eq := streaming.client_eq
          isActive := solo.kept_finished.isSome_eq.trans streaming.isActive
          streams := by
            intro task known
            cases known
            exact ⟨network, streaming.stream_eq network other⟩
          sentAll := fun _ => ⟨_, rfl⟩ }

theorem Streaming.sendNext (streaming : solo.Streaming client banquetUrl) :
    solo.sendNext.Streaming client banquetUrl := by
  rcases known : solo.task with _ | ⟨stream, _ | ⟨event, rest⟩⟩
  · simp only [Solo.sendNext, known]
    exact streaming
  · simp only [Solo.sendNext, known]
    exact streaming
  · simp only [Solo.sendNext, known]
    exact
      { streaming with
        streams := by
          intro task same
          cases same
          obtain ⟨network, stream_eq⟩ := streaming.streams _ known
          exact ⟨network, stream_eq⟩
        sentAll := by
          intro seen
          obtain ⟨other, sent⟩ := streaming.sentAll seen
          cases known.symm.trans sent }

theorem Streaming.finishTask (streaming : solo.Streaming client banquetUrl) :
    solo.finishTask.Streaming client banquetUrl := by
  unfold Solo.finishTask
  split
  · rename_i stream known
    exact
      { streaming with
        isActive := solo.kept_finished.isSome_eq.trans streaming.isActive
        sentAll := fun _ => ⟨stream, known⟩ }
  · exact streaming

/-! ## How the query is judged -/

structure Undecided (client : Client) (banquetUrl : String) (solo : Solo) : Prop where
  sound : solo.Sound client banquetUrl
  streaming : solo.Streaming client banquetUrl
  queued : solo.task = none → .query banquetUrl ∈ solo.jobs

def Decides (client : Client) (solo : Solo) : Prop :=
  solo.Rests ∨ ∃ banquetUrl, solo.Undecided client banquetUrl

theorem undecided_start (client : Client) (pageSize : Nat) (banquetUrl : String) :
    (start client pageSize banquetUrl).Undecided client banquetUrl where
  sound := sound_start client pageSize banquetUrl
  streaming :=
    { client_eq := rfl, isActive := rfl, streams := by simp [start], sentAll := by simp [start] }
  queued := by simp [start]

theorem Works.jobs_takeJobs {act : Solo → Job → Solo} (works : Works client banquetUrl act)
    (chosen : Job → Bool) :
    (solo.takeJobs chosen act).jobs = solo.jobs.filter (!chosen ·) :=
  List.foldlRecOn (solo.jobs.filter chosen) act
    (motive := fun current => current.jobs = solo.jobs.filter (!chosen ·)) rfl
    fun current same job _ => (works.jobs_eq current job).trans same

theorem Undecided.takeJobs (undecided : solo.Undecided client banquetUrl)
    {act : Solo → Job → Solo} (works : Works client banquetUrl act)
    (keeps : ∀ {solo : Solo} {job : Job}, solo.Streaming client banquetUrl →
      job ∈ jobsOf banquetUrl → solo.Awaits job → (act solo job).Streaming client banquetUrl)
    (launches : ∀ solo job, (act solo job).task = none →
      solo.task = none ∧ job ≠ .query banquetUrl) (chosen : Job → Bool) :
    (solo.takeJobs chosen act).Undecided client banquetUrl := by
  obtain ⟨sourced, shown, schema, scroll, mark, displays⟩ := undecided.sound
  have unlaunched : ∀ (jobs : List Job) (current : Solo), (jobs.foldl act current).task = none →
      current.task = none ∧ .query banquetUrl ∉ jobs := by
    intro jobs
    induction jobs with
    | nil => exact fun current waits => ⟨waits, List.not_mem_nil⟩
    | cons job rest inductionHypothesis =>
        intro current waits
        obtain ⟨actedWaits, notLater⟩ := inductionHypothesis (act current job) waits
        obtain ⟨currentWaits, other⟩ := launches current job actedWaits
        refine ⟨currentWaits, ?_⟩
        rw [List.mem_cons, not_or]
        exact ⟨Ne.symm other, notLater⟩
  refine ⟨undecided.sound.takeJobs works chosen, ?_, fun waits => ?_⟩
  · exact works.takeJobs (fun streaming own awaits _ => keeps streaming own awaits) sourced chosen
      { undecided.streaming with }
  · obtain ⟨waited, notChosen⟩ := unlaunched _ _ waits
    rw [works.jobs_takeJobs, List.mem_filter]
    refine ⟨undecided.queued waited, ?_⟩
    cases isChosen : chosen (.query banquetUrl) with
    | false => rfl
    | true => exact absurd (List.mem_filter.mpr ⟨undecided.queued waited, isChosen⟩) notChosen

theorem Undecided.launchJobs (undecided : solo.Undecided client banquetUrl) (network : Network)
    (chosen : Job → Bool) :
    (solo.takeJobs chosen (Solo.launchJob network)).Undecided client banquetUrl := by
  refine undecided.takeJobs (works_launchJob client banquetUrl network)
    (fun streaming own waits => streaming.launchJob network own waits) ?_ chosen
  intro current job waits
  cases job with
  | query other => cases waits
  | schema dataset table => exact ⟨waits, by simp⟩

theorem Undecided.runJobs (undecided : solo.Undecided client banquetUrl) (network : Network)
    (chosen : Job → Bool) :
    (solo.takeJobs chosen (Solo.runJob network)).Undecided client banquetUrl := by
  refine undecided.takeJobs (works_runJob client banquetUrl network)
    (fun streaming own _ => streaming.runJob network own) ?_ chosen
  intro current job waits
  cases job with
  | query other => cases waits
  | schema dataset table => exact ⟨waits, by simp⟩

theorem Undecided.move (undecided : solo.Undecided client banquetUrl) (move : Move) :
    (solo.move move).Undecided client banquetUrl := by
  have sound := undecided.sound.move move
  cases move with
  | launch age network => exact undecided.launchJobs network _
  | lookUp age network => exact undecided.runJobs network _
  | send age =>
      simp only [Solo.move] at sound ⊢
      split at sound
      · rename_i own
        rw [if_pos own]
        refine ⟨sound, undecided.streaming.sendNext, fun waits => ?_⟩
        unfold Solo.sendNext at waits ⊢
        split at waits
        · cases waits
        · exact undecided.queued waits
      · rename_i other
        rw [if_neg other]
        exact undecided
  | finish age =>
      simp only [Solo.move] at sound ⊢
      split at sound
      · rename_i own
        rw [if_pos own]
        refine ⟨sound, undecided.streaming.finishTask, fun waits => ?_⟩
        unfold Solo.finishTask at waits ⊢
        split at waits
        · exact undecided.queued waits
        · exact undecided.queued waits
      · rename_i other
        rw [if_neg other]
        exact undecided

theorem Undecided.foldl_move (undecided : solo.Undecided client banquetUrl) (moves : List Move) :
    (moves.foldl Solo.move solo).Undecided client banquetUrl :=
  List.foldlRecOn moves Solo.move undecided fun _ still move _ => still.move move

/-- The events that are picked up are judged as their stream ended. -/
theorem Undecided.judged_drain (undecided : solo.Undecided client banquetUrl) {finished : Bool}
    (seen : finished → solo.active = some true) : (solo.drain finished).results.Judged := by
  obtain ⟨_, shown, schema, scroll, mark, displays⟩ := undecided.sound
  have isActive := undecided.streaming.isActive
  obtain rfl := displays.unmarked isActive
  have complete := displays.complete isActive
  have picked : ((solo.results.applyAll solo.queue).settled finished).report =
      (((Results.start banquetUrl).applyAll (shown ++ solo.queue)).settled finished).report := by
    rw [displays.results_eq, Mark.apply, Results.applyAll_viewed, Results.settled_viewed,
      Results.applyAll_append]
    rfl
  simp only [Solo.drain, isActive, if_true]
  refine Results.Judged.of_report ?_ picked
  cases known : solo.task with
  | none =>
      -- The job was not started, so nothing was sent and its end cannot have been seen.
      obtain ⟨rfl, noQueue⟩ := displays.nothing_yet known
      rw [noQueue isActive]
      cases finished with
      | false => exact Results.judged_of_running rfl
      | true =>
          obtain ⟨stream, launched⟩ := undecided.streaming.sentAll (seen rfl)
          cases known.symm.trans launched
  | some task =>
      obtain ⟨network, stream_eq⟩ := undecided.streaming.streams task known
      have concluded := QueryRun.concluded_run_never client network banquetUrl
      have produced_eq : solo.produced = task.stream := by rw [produced, known]; rfl
      rw [← stream_eq, ← produced_eq, complete] at concluded
      refine Results.judged_settled banquetUrl concluded (List.prefix_append _ _) fun ended => ?_
      obtain ⟨stream, sentAll⟩ := undecided.streaming.sentAll (seen ended)
      have nothingLeft : solo.unsent = [] := by rw [unsent, sentAll]; rfl
      rw [nothingLeft, List.append_nil]

theorem Undecided.drain (undecided : solo.Undecided client banquetUrl) {finished : Bool}
    (seen : finished → solo.active = some true) : (solo.drain finished).Decides client := by
  have judged := undecided.judged_drain seen
  cases running : (solo.drain finished).results.status.isRunning with
  | false =>
      refine Or.inl ⟨?_, running, judged⟩
      simp only [Solo.drain] at running ⊢
      rw [running, if_neg Bool.false_ne_true]
  | true =>
      have active_eq : (solo.drain finished).active = solo.active := by
        simp only [Solo.drain] at running ⊢
        rw [running, if_pos rfl]
      refine Or.inr ⟨banquetUrl, undecided.sound.drain finished, ?_, undecided.queued⟩
      exact
        { client_eq := undecided.streaming.client_eq
          isActive := active_eq ▸ undecided.streaming.isActive
          streams := undecided.streaming.streams
          sentAll := fun ended => undecided.streaming.sentAll (active_eq ▸ ended) }

theorem Undecided.affect (undecided : solo.Undecided client banquetUrl)
    (effect : Session.Effect) : (solo.affect effect).Decides client := by
  have sound := undecided.sound.affect effect
  have streaming := undecided.streaming
  have queued := undecided.queued
  cases effect with
  | nothing | start => exact Or.inr ⟨banquetUrl, undecided⟩
  | checkServer | resize | scroll =>
      exact Or.inr ⟨banquetUrl, sound, { streaming with }, queued⟩
  | cancel =>
      left
      have ended := solo.results.isRunning_markCancelled
      obtain ⟨finished, known⟩ := Option.isSome_iff_exists.mp streaming.isActive
      obtain ⟨_, _, _, _, _, displays⟩ := undecided.sound
      have running : solo.results.status.isRunning :=
        displays.running_eq.symm.trans streaming.isActive
      have cancelled : solo.results.markCancelled.status = .cancelled := by
        rw [Results.markCancelled, if_pos running]
      simp only [Solo.affect, known]
      exact ⟨rfl, ended, by simp [Results.Judged, cancelled]⟩
  | pollSchema =>
      refine Or.inr ⟨banquetUrl, sound, ?_, ?_⟩
      · simp only [Solo.affect]
        split <;> exact { streaming with }
      · simp only [Solo.affect]
        split <;> exact queued

/-- A query is active for exactly as long as it runs. -/
theorem Decides.running_eq (decides : solo.Decides client) :
    solo.active.isSome = solo.results.status.isRunning := by
  rcases decides with rests | ⟨banquetUrl, undecided⟩
  · rw [rests.inactive, rests.ended]
    rfl
  · obtain ⟨_, _, _, _, _, displays⟩ := undecided.sound
    exact displays.running_eq

theorem Decides.rests_of_ended (decides : solo.Decides client)
    (ended : solo.results.status.isRunning = false) : solo.Rests := by
  rcases decides with rests | ⟨banquetUrl, undecided⟩
  · exact rests
  · have isActive := undecided.streaming.isActive
    rw [Decides.running_eq (Or.inr ⟨banquetUrl, undecided⟩), ended] at isActive
    cases isActive

theorem Decides.judged (decides : solo.Decides client) : solo.results.Judged := by
  cases running : solo.results.status.isRunning with
  | false => exact (decides.rests_of_ended running).judged
  | true => exact Results.judged_of_isRunning running

theorem Decides.step (decides : solo.Decides client) (step : Step) :
    (solo.step step).Decides client := by
  rcases decides with rests | ⟨banquetUrl, undecided⟩
  · exact Or.inl (rests.step step).1
  · cases step with
    | operate operation => exact undecided.affect _
    | background move => exact Or.inr ⟨banquetUrl, undecided.move move⟩
    | runJobs network => exact Or.inr ⟨banquetUrl, undecided.runJobs network _⟩
    | pollUpdates meanwhile =>
        refine (undecided.foldl_move meanwhile).drain fun seen => ?_
        -- The end of the job was seen before the moves, and they do not take that back.
        refine (kept_foldl_move meanwhile solo).seen ?_
        cases known : solo.active with
        | none => rw [known] at seen; cases seen
        | some ended =>
            rw [known] at seen
            exact congrArg some seen

end

end Solo

end RowStream
