import RowStream.Proofs.Headless
import RowStream.Proofs.Judging
import RowStream.Screen.Draw

/-!
# Two readers of one stream

The same query may be printed line by line or be shown in a session.  The sink that prints has its
own counters, and a session folds the events that it picks up from a queue; but both come to the
same rows, columns and errors, and to the same verdict (`headless_agrees`).

A session may have had any history before the query.  What is left of that is passed over, so the
query is looked at by itself, as a `Solo` whose job has been run to its end.
-/

set_option autoImplicit false

namespace RowStream

open Event (messages)
open Http (Network)
open Printed (ofEvents)

namespace Solo

structure Done (banquetUrl : String) (stream : List Event) (solo : Solo) : Prop where
  results_eq : solo.results = .start banquetUrl
  active_eq : solo.active = some true
  jobs_eq : solo.jobs = []
  task_eq : solo.task = some ⟨stream, []⟩
  queue_eq : solo.queue = stream

theorem done_runJobs (client : Client) (pageSize : Nat) (banquetUrl : String)
    (network : Network) :
    ((start client pageSize banquetUrl).step (.runJobs network)).Done banquetUrl
      (QueryRun.run client network banquetUrl .never).consumer.sent :=
  ⟨rfl, rfl, rfl, rfl, rfl⟩

variable {banquetUrl : String} {stream : List Event} {solo : Solo}

theorem Done.takeJobs (done : solo.Done banquetUrl stream) (chosen : Job → Bool)
    (act : Solo → Job → Solo) : (solo.takeJobs chosen act).Done banquetUrl stream := by
  have taken : solo.takeJobs chosen act = { solo with jobs := [] } := by
    simp [Solo.takeJobs, done.jobs_eq]
  rw [taken]
  exact { done with jobs_eq := rfl }

theorem Done.move (done : solo.Done banquetUrl stream) (move : Move) :
    (solo.move move).Done banquetUrl stream := by
  cases move with
  | launch age network => exact done.takeJobs _ _
  | lookUp age network => exact done.takeJobs _ _
  | send age =>
      have sent : solo.sendNext = solo := by simp only [sendNext, done.task_eq]
      rw [Solo.move, sent, ite_self]
      exact done
  | finish age =>
      have ended : solo.finishTask.Done banquetUrl stream := by
        have active_eq : solo.active.map (fun _ => true) = some true := by rw [done.active_eq]; rfl
        unfold finishTask
        split
        · exact { done with active_eq }
        · exact done
      rw [Solo.move]
      split
      · exact ended
      · exact done

theorem Done.foldl_move (done : solo.Done banquetUrl stream) (moves : List Move) :
    (moves.foldl Solo.move solo).Done banquetUrl stream :=
  List.foldlRecOn moves Solo.move done fun _ still move _ => still.move move

theorem Done.results_poll (done : solo.Done banquetUrl stream) (meanwhile : List Move) :
    (solo.step (.pollUpdates meanwhile)).results =
      ((Results.start banquetUrl).applyAll stream).settled true := by
  have moved := done.foldl_move meanwhile
  have isActive : (meanwhile.foldl Solo.move solo).active.isSome = true := by
    rw [moved.active_eq]
    rfl
  simp only [step, drain, done.active_eq, Option.getD_some]
  rw [isActive, if_pos rfl, moved.results_eq, moved.queue_eq]

end Solo

theorem Stage.results_background (client : Client) (steps : List Step) (network : Network)
    (banquetUrl : String) :
    let begun := ((new client).run steps).step (.operate (.start banquetUrl))
    ((begun.runBackground network).step (.pollUpdates [])).session.results =
      ((Results.start banquetUrl).applyAll
        (QueryRun.run client network banquetUrl .never).consumer.sent).settled true := by
  intro begun
  obtain ⟨id, ticket, numbered⟩ := exists_numbered_run client steps
  have started : begun.Follows id ticket
      (Solo.start client ((new client).run steps).session.pageSize banquetUrl) :=
    follows_step_of_started numbered rfl
  have ran : (begun.step (.runJobs network)).Follows id ticket _ := started.step rfl
  have moved := ran.foldl_move (begun.step (.runJobs network)).movesLeft
  have polled : ((begun.runBackground network).step (.pollUpdates [])).Follows id ticket _ :=
    moved.step rfl
  have done := (Solo.done_runJobs client ((new client).run steps).session.pageSize banquetUrl
    network).foldl_move (begun.step (.runJobs network)).movesLeft
  exact polled.results_eq.trans (done.results_poll [])

/-! ## One verdict -/

theorem Results.status_settled {stream : Consumer} (ends : stream.Ends) (banquetUrl : String) :
    let status := (((start banquetUrl).applyAll stream.sent).settled true).status
    (∀ total, status = .completed total ↔ stream.outcome = some (.completed total)) ∧
      ((∃ message, status = .failed message) ↔ stream.outcome = some .failed) := by
  intro status
  cases ends with
  | completes earlier total outcome_eq incomplete sent_eq =>
      have completed := (start banquetUrl).status_applyAll_complete earlier total
      have status_eq : status = .completed total := by
        change (((start banquetUrl).applyAll stream.sent).settled true).status = _
        rw [sent_eq, settled_of_ended (by rw [completed]; rfl), completed]
      rw [status_eq, outcome_eq]
      simp
  | fails earlier message outcome_eq incomplete sent_eq =>
      have running := status_applyAll_start
        (Consumer.incomplete_append incomplete (Consumer.incomplete_error message)) banquetUrl
      obtain ⟨reason, status_eq⟩ : ∃ reason, status = .failed reason := by
        change ∃ reason, (((start banquetUrl).applyAll stream.sent).settled true).status = _
        rw [sent_eq, settled, if_pos rfl, markFailed_of_running running]
        exact ⟨_, rfl⟩
      rw [status_eq, outcome_eq]
      simp

theorem Screen.statusColor_eq_green_iff (results : Results) :
    statusColor results = .green ↔
      (∃ total, results.status = .completed total) ∧ results.errors = [] := by
  unfold statusColor
  cases results.status with
  | completed total => by_cases silent : results.errors = [] <;> simp [silent]
  | idle | running | failed | cancelled => simp

/-- A query that is printed and the same query in a session show the same and are judged alike. -/
theorem headless_agrees (client : Client) (steps : List Step) (network : Network)
    (banquetUrl : String) {writer : LineWriter} (fresh : writer.lines = #[])
    (flushes : writer.flushes = true)
    (accepts : writer.Accepts ((ofEvents
      (QueryRun.run client network banquetUrl .never).consumer.sent).map Printed.line)) :
    let stream := (QueryRun.run client network banquetUrl .never).consumer
    let printed := ofEvents stream.sent
    let sink := Invocation.sinkOf stream writer
    let transcript := Invocation.runHeadless client banquetUrl network writer
    let begun := ((Stage.new client).run steps).step (.operate (.start banquetUrl))
    let results := ((begun.runBackground network).step (.pollUpdates [])).session.results
    transcript.output = Printed.text printed ∧
      printed.filterMap Printed.row? = results.rows ∧
      results.columns = (printed.filterMap Printed.columns?).getLast?.getD [] ∧
      results.errors.length = sink.errors ∧
      (∀ total, results.status = .completed total ↔ stream.outcome = some (.completed total)) ∧
      ((∃ message, results.status = .failed message) ↔ stream.outcome = some .failed) ∧
      (transcript.exitCode = 0 ↔
        (∃ total, results.status = .completed total) ∧ results.errors = []) ∧
      (transcript.exitCode = 0 ↔ Screen.statusColor results = .green) := by
  intro stream printed sink transcript begun results
  have results_eq : results = ((Results.start banquetUrl).applyAll stream.sent).settled true :=
    Stage.results_background client steps network banquetUrl
  obtain ⟨rows_eq, errors_eq, columns_eq, _⟩ :=
    ((Results.start banquetUrl).applyAll stream.sent).settled_view true
  rw [← results_eq, Results.rows_applyAll] at rows_eq
  rw [← results_eq, Results.errors_applyAll] at errors_eq
  rw [← results_eq, (Results.header_applyAll _ _).1] at columns_eq
  obtain ⟨completed_iff, failed_iff⟩ := Results.status_settled
    (QueryRun.ends_run_never client network banquetUrl) banquetUrl
  rw [← results_eq] at completed_iff failed_iff
  obtain ⟨writer_eq, counted_eq, writeErrors_eq⟩ := Invocation.sinkOf_spec stream writer
  have written : sink.writeErrors = 0 := by
    rw [if_pos flushes, Nat.add_zero] at writeErrors_eq
    exact writeErrors_eq.trans accepts
  have errors_length : results.errors.length = sink.errors := by
    rw [errors_eq]
    exact (congrArg List.length (List.nil_append _)).trans counted_eq.symm
  obtain ⟨output_eq, exitCode_iff, _⟩ :=
    Invocation.runHeadless_eq client banquetUrl network writer
  have exits : transcript.exitCode = 0 ↔
      (∃ total, results.status = .completed total) ∧ results.errors = [] := by
    rw [exitCode_iff, Invocation.verdict_eq_ok_iff, ← List.length_eq_zero_iff, errors_length]
    simp only [completed_iff]
    exact ⟨fun ⟨_, completed, silent⟩ => ⟨completed, silent⟩,
      fun ⟨completed, silent⟩ => ⟨written, completed, silent⟩⟩
  refine ⟨?_, ?_, ?_, errors_length, completed_iff, failed_iff, exits, ?_⟩
  · rw [output_eq]
    change sink.writer.text = _
    rw [writer_eq]
    exact Printed.text_writeAll fresh accepts
  · rw [Printed.rows_ofEvents, rows_eq]
    exact (List.nil_append _).symm
  · rw [Printed.columns_ofEvents, columns_eq, Event.lastHeader?, List.getLast?_map]
    rfl
  · exact exits.trans (Screen.statusColor_eq_green_iff results).symm

/-- The body ends within a line, and events of an earlier query still wait in the session. -/
theorem headless_agrees_unfinished :
    let network := Sample.answering
      "\x7b\"columns\":[[\"id\",\"T\"]]\x7d\n\x7b\"rows\":[[\"a\"]]\x7d\n?"
    let earlier := [Step.operate (.start "old.sqlite/t"), .runJobs (Sample.answering Sample.oneRow)]
    let writer : LineWriter := { capacity := some 2, flushes := true, lines := #[] }
    let stream := (QueryRun.run Sample.client network "a.sqlite/t" .never).consumer
    let transcript := Invocation.runHeadless Sample.client "a.sqlite/t" network writer
    let begun := ((Stage.new Sample.client).run earlier).step (.operate (.start "a.sqlite/t"))
    let results := ((begun.runBackground network).step (.pollUpdates [])).session.results
    writer.lines = #[] ∧ writer.flushes = true ∧
      writer.Accepts ((ofEvents stream.sent).map Printed.line) ∧
      transcript.output = "id\na\n" ∧ results.status = .completed 1 ∧ results.errors ≠ [] ∧
      transcript.exitCode ≠ 0 := by
  intro network earlier writer stream transcript begun results
  have accepts : writer.Accepts ((ofEvents stream.sent).map Printed.line) := by decide
  have text : Printed.text (ofEvents stream.sent) = "id\na\n" := by decide
  have outcome : stream.outcome = some (.completed 1) := by decide
  have counted : (Invocation.sinkOf stream writer).errors = 1 := by decide
  have agreed := headless_agrees Sample.client earlier network "a.sqlite/t" rfl rfl accepts
  extract_lets printed sink at agreed
  obtain ⟨output_eq, _, _, errors_eq, completed_iff, _, exits, _⟩ := agreed
  have reported : results.errors ≠ [] := by
    intro silent
    rw [counted, silent] at errors_eq
    cases errors_eq
  exact ⟨rfl, rfl, accepts, output_eq.trans text, (completed_iff 1).mpr outcome, reported,
    fun zero => reported (exits.mp zero).2⟩

end RowStream
