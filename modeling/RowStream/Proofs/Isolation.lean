import RowStream.Proofs.Display
import RowStream.Proofs.Following
import RowStream.Proofs.QueryStream

/-!
# The latest query is not disturbed

What a session shows is the latest query's, whatever became of the queries before it and in which
order the jobs of all of them do their work.  First, the results are a prefix of that query's own
events, folded into new results.  Second, two runs that agree from the start of the query on show
the same results, however much they differ before.
-/

set_option autoImplicit false

namespace RowStream.Stage

open Event (allRows messages lastHeader?)

def produced (stage : Stage) (id : Nat) : List Event := ((stage.tasks id).map Task.stream).getD []

theorem schemaShown_withTicket {answer : Option (Except ClientError (List Column))}
    {shown : List Column} {lookup : Lookup (List Column)}
    (schemaShown : Solo.SchemaShown answer shown lookup) (ticket : Nat) :
    Solo.SchemaShown answer shown (lookup.withTicket ticket) := by
  cases lookup with
  | none | waiting | answered => exact schemaShown

theorem view_marked (mark : Mark) (results : Results) (schema : List Column) (scroll : Nat) :
    let displayed := (mark.apply results).viewed schema scroll
    displayed.rows = results.rows ∧ displayed.errors = results.errors ∧
      displayed.columns = results.columns ∧
      displayed.advertisedTotal = results.advertisedTotal := by
  cases mark with
  | unmarked => exact ⟨rfl, rfl, rfl, rfl⟩
  | failed =>
      simp only [Mark.apply, Results.markFailed, Results.viewed]
      split <;> exact ⟨rfl, rfl, rfl, rfl⟩
  | cancelled =>
      simp only [Mark.apply, Results.markCancelled, Results.viewed]
      split <;> exact ⟨rfl, rfl, rfl, rfl⟩

theorem follows_run {client : Client} {before after : List Step} {step : Step}
    {banquetUrl : String}
    (starts : ((new client).run before).startedBy? step = some banquetUrl)
    (quiet : (((new client).run before).step step).Quiet after) :
    let earlier := (new client).run before
    ((new client).run (before ++ step :: after)).Follows earlier.session.nextQueryId
      earlier.session.nextTicket
      ((Solo.start client earlier.session.pageSize banquetUrl).run after) := by
  intro earlier
  obtain ⟨queries, tickets, numbered⟩ := exists_numbered_run client before
  obtain rfl := numbered.nextQueryId_eq
  obtain rfl := numbered.nextTicket_eq
  rw [run_append, run_cons]
  exact (follows_step_of_started numbered starts).run quiet

/-- What is on display is a prefix of the latest query's own events with its own schema, and it
does not depend on what was before that query. -/
theorem latest_query_isolated (client : Client) (before after : List Step) (step : Step)
    (banquetUrl : String)
    (starts : ((new client).run before).startedBy? step = some banquetUrl)
    (quiet : (((new client).run before).step step).Quiet after) :
    let earlier := (new client).run before
    let stage := (new client).run (before ++ step :: after)
    let results := stage.session.results
    let info := QueryInfo.parse banquetUrl
    let produced := stage.produced earlier.session.nextQueryId
    let answer := stage.answers earlier.session.nextTicket
    (∃ (shown : List Event) (schema : List Column) (scroll : Nat) (mark : Mark),
      results = (mark.apply ((Results.start banquetUrl).applyAll shown)).viewed schema scroll ∧
      shown <+: produced ∧
      results.rows = allRows shown ∧
      results.errors = messages shown ∧
      results.columns = ((lastHeader? shown).map Prod.fst).getD [] ∧
      results.advertisedTotal = (lastHeader? shown).map Prod.snd ∧
      Solo.SchemaShown answer schema stage.session.schema) ∧
    (produced = [] ∨ ∃ network cancellation,
      produced = (QueryRun.run client network banquetUrl cancellation).consumer.sent) ∧
    (∀ given, answer = some given → ∃ network,
      given = (client.fetchSchema network info.dataset info.table).1) ∧
    (∀ (otherBefore : List Step) (otherStep : Step),
      let otherEarlier := (new client).run otherBefore
      otherEarlier.startedBy? otherStep = some banquetUrl →
      otherEarlier.session.pageSize = earlier.session.pageSize →
      (otherEarlier.step otherStep).Quiet after →
      ((new client).run (otherBefore ++ otherStep :: after)).session.results = results) := by
  intro earlier stage results info produced answer
  have follows := follows_run starts quiet
  have produced_eq : produced =
      ((Solo.start client earlier.session.pageSize banquetUrl).run after).produced :=
    congrArg (fun task => (task.map Task.stream).getD []) follows.task_eq
  obtain ⟨sourced, shown, schema, scroll, mark, displays⟩ :=
    (Solo.sound_start client earlier.session.pageSize banquetUrl).run after
  have results_eq : results =
      (mark.apply ((Results.start banquetUrl).applyAll shown)).viewed schema scroll :=
    follows.results_eq.trans displays.results_eq
  refine ⟨⟨shown, schema, scroll, mark, results_eq, ?_, ?_, ?_, ?_, ?_, ?_⟩, ?_, ?_, ?_⟩
  · rw [produced_eq]
    exact displays.shown_prefix
  · rw [results_eq, (view_marked mark _ schema scroll).1, Results.rows_applyAll]
    rfl
  · rw [results_eq, (view_marked mark _ schema scroll).2.1, Results.errors_applyAll]
    rfl
  · rw [results_eq, (view_marked mark _ schema scroll).2.2.1, (Results.header_applyAll _ _).1]
    rfl
  · rw [results_eq, (view_marked mark _ schema scroll).2.2.2, (Results.header_applyAll _ _).2]
    exact Option.or_none
  · have schemaShown := displays.schema_shown
    rw [← follows.answer_eq] at schemaShown
    rw [follows.schema_eq]
    exact schemaShown_withTicket schemaShown _
  · rw [produced_eq, Solo.produced]
    cases known : ((Solo.start client earlier.session.pageSize banquetUrl).run after).task with
    | none => exact Or.inl rfl
    | some task => exact Or.inr (sourced.task_source task known)
  · intro given known
    exact sourced.answer_source given (follows.answer_eq.symm.trans known)
  · intro otherBefore otherStep otherEarlier otherStarts samePage otherQuiet
    have otherFollows := follows_run otherStarts otherQuiet
    rw [otherFollows.results_eq, samePage, ← follows.results_eq]

/-- An event of an earlier query, which is still in the queue, makes no difference. -/
theorem latest_query_isolated_stale :
    let before : List Step :=
      [.operate (.start "old.sqlite/t"), .runJobs (Sample.answering Sample.oneRow)]
    let after : List Step :=
      [.background (.launch 0 (Sample.answering Sample.oneRow)), .background (.send 0),
        .pollUpdates [.send 0, .send 1]]
    let start : Step := .operate (.start "a.sqlite/t")
    ((new Sample.client).run before).startedBy? start = some "a.sqlite/t" ∧
      (((new Sample.client).run before).step start).Quiet after ∧
      ((new Sample.client).run (start :: after)).session.results =
        ((new Sample.client).run (before ++ start :: after)).session.results := by
  intro before after start
  have starts : ((new Sample.client).run before).startedBy? start = some "a.sqlite/t" := rfl
  have quiet : (((new Sample.client).run before).step start).Quiet after :=
    ⟨rfl, rfl, rfl, trivial⟩
  obtain ⟨_, _, _, independent⟩ :=
    latest_query_isolated Sample.client before after start "a.sqlite/t" starts quiet
  exact ⟨starts, quiet, independent [] start rfl rfl ⟨rfl, rfl, rfl, trivial⟩⟩

end RowStream.Stage
