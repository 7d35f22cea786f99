import RowStream.Proofs.Draining
import RowStream.Proofs.QueryStream

/-!
# Polling a query to its end

The job of a query sends its events and ends, and a session looks after it again and again.  Each
time it first looks whether the job has ended, `Poll.sawEnd`, and then picks up what is in the
queue by then.  Between the two looks the job may send its last events and end, so an end that was
not seen says nothing; but one that was seen means that no event is still to come.  This is all
that `Delivers` asks of a schedule, and `foldl_pick_stream` says that no schedule makes a session
misjudge how the query ended.
-/

set_option autoImplicit false

namespace RowStream

namespace Session

open Event (Incomplete allRows messages lastHeader?)

/-- One look at a query: the events that went into the queue since the one before, and whether the
query's job was seen to have ended before the queue was emptied. -/
structure Poll where
  arrived : List Update
  sawEnd : Bool

def pick (session : Session) (poll : Poll) : Session :=
  { session with updates := session.updates ++ poll.arrived }.drainUpdates poll.sawEnd

theorem pollUpdates_eq_pick (session : Session) :
    session.pollUpdates =
      session.pick ⟨[], (session.active.map ActiveQuery.finished).getD false⟩ := by
  rw [pick, List.append_nil, pollUpdates]

def pickedUp (id : Nat) (polls : List Poll) : List Event :=
  polls.flatMap fun poll => accepted (some id) poll.arrived

/-- The polls find these events of a query in the queue, in their order, and once the job was seen
to have ended none of them is missing.  Events of other queries may lie among them. -/
def Delivers (id : Nat) : List Event → List Poll → Prop
  | _, [] => True
  | events, poll :: later => ∃ rest, events = accepted (some id) poll.arrived ++ rest ∧
      (poll.sawEnd → rest = []) ∧ Delivers id rest later

theorem pickedUp_cons (id : Nat) (poll : Poll) (later : List Poll) :
    pickedUp id (poll :: later) = accepted (some id) poll.arrived ++ pickedUp id later := rfl

theorem Delivers.pickedUp_prefix {id : Nat} {events : List Event} {polls : List Poll}
    (delivers : Delivers id events polls) : pickedUp id polls <+: events := by
  induction polls generalizing events with
  | nil => exact List.nil_prefix
  | cons poll later inductionHypothesis =>
      obtain ⟨rest, rfl, _, restDelivers⟩ := delivers
      rw [pickedUp_cons, List.prefix_append_right_inj]
      exact inductionHypothesis restDelivers

theorem Delivers.pickedUp_nil {id : Nat} {polls : List Poll} (delivers : Delivers id [] polls) :
    pickedUp id polls = [] :=
  List.prefix_nil.mp delivers.pickedUp_prefix

theorem Delivers.pickedUp_of_sawEnd {id : Nat} {events : List Event} {polls : List Poll}
    (delivers : Delivers id events polls) (sawEnd : polls.any Poll.sawEnd) :
    pickedUp id polls = events := by
  induction polls generalizing events with
  | nil => cases sawEnd
  | cons poll later inductionHypothesis =>
      obtain ⟨rest, rfl, nothingLeft, restDelivers⟩ := delivers
      rw [pickedUp_cons]
      cases seen : poll.sawEnd with
      | true =>
          obtain rfl := nothingLeft seen
          rw [restDelivers.pickedUp_nil]
      | false =>
          rw [List.any_cons, seen, Bool.false_or] at sawEnd
          rw [inductionHypothesis restDelivers sawEnd]

/-! ## What a session makes of a schedule -/

theorem pick_of_inactive {session : Session} (inactive : session.active = none)
    (ended : session.results.status.isRunning = false) (poll : Poll) :
    (session.pick poll).results = session.results ∧ (session.pick poll).active = none := by
  obtain ⟨lastError, dirty, drained⟩ :=
    drainUpdates_eq { session with updates := session.updates ++ poll.arrived } poll.sawEnd
  rw [pick, drained]
  simp [inactive, Results.settled_of_ended ended]

theorem foldl_pick_of_inactive {session : Session} (inactive : session.active = none)
    (ended : session.results.status.isRunning = false) (polls : List Poll) :
    (polls.foldl pick session).results = session.results ∧
      (polls.foldl pick session).active = none := by
  induction polls generalizing session with
  | nil => exact ⟨rfl, inactive⟩
  | cons poll later inductionHypothesis =>
      obtain ⟨same, stillInactive⟩ := pick_of_inactive inactive ended poll
      rw [List.foldl_cons, ← same]
      exact inductionHypothesis stillInactive (by rw [same]; exact ended)

/-- The query with this number is active, it is running, and none of its events waits. -/
structure Streams (session : Session) (query : ActiveQuery) : Prop where
  active_eq : session.active = some query
  running : session.results.status = .running
  nothingWaits : accepted (some query.id) session.updates = []

theorem Streams.pick {session : Session} {query : ActiveQuery} (streams : session.Streams query)
    (poll : Poll) :
    (session.pick poll).results =
        (session.results.applyAll (accepted (some query.id) poll.arrived)).settled poll.sawEnd ∧
      (session.pick poll).active =
        (if (session.pick poll).results.status.isRunning then some query else none) ∧
      (session.pick poll).updates = [] := by
  obtain ⟨lastError, dirty, drained⟩ :=
    drainUpdates_eq { session with updates := session.updates ++ poll.arrived } poll.sawEnd
  rw [Session.pick, drained]
  simp only [streams.active_eq, Option.map_some, accepted_append, streams.nothingWaits,
    List.nil_append, and_self]

theorem incomplete_of_dropLast_append {first second : List Event}
    (onlyLast : Incomplete (first ++ second).dropLast) :
    (second = [] ∨ Incomplete first) ∧ Incomplete second.dropLast := by
  by_cases empty : second = []
  · rw [empty]
    exact ⟨Or.inl rfl, by simp [Incomplete]⟩
  · rw [List.dropLast_append_of_ne_nil empty] at onlyLast
    refine ⟨Or.inr fun event member => ?_, fun event member => ?_⟩
    · exact onlyLast event (List.mem_append_left _ member)
    · exact onlyLast event (List.mem_append_right _ member)

/-- The results depend on the schedule only by which events were picked up and by whether the end
of the job was seen. -/
theorem results_foldl_pick {session : Session} {query : ActiveQuery}
    (streams : session.Streams query) {events : List Event} {polls : List Poll}
    (delivers : Delivers query.id events polls) (onlyLast : Incomplete events.dropLast) :
    (polls.foldl pick session).results =
        (session.results.applyAll (pickedUp query.id polls)).settled (polls.any Poll.sawEnd) ∧
      (polls.foldl pick session).active =
        (if (polls.foldl pick session).results.status.isRunning then some query else none) := by
  induction polls generalizing session events with
  | nil =>
      simp [pickedUp, Results.settled, streams.running, streams.active_eq, QueryStatus.isRunning]
  | cons poll later inductionHypothesis =>
      obtain ⟨rest, rfl, nothingLeft, restDelivers⟩ := delivers
      obtain ⟨earlierIncomplete, restOnlyLast⟩ := incomplete_of_dropLast_append onlyLast
      obtain ⟨results_eq, active_eq, updates_eq⟩ := streams.pick poll
      rw [List.foldl_cons, pickedUp_cons, Results.applyAll_append, List.any_cons]
      cases running : (session.pick poll).results.status.isRunning with
      | true =>
          rw [running, if_pos rfl] at active_eq
          rw [results_eq] at running
          obtain ⟨notYet, stillRunning⟩ := Results.of_isRunning_settled running
          rw [notYet, Results.settled, if_neg Bool.false_ne_true] at results_eq
          have next : (session.pick poll).Streams query :=
            ⟨active_eq, by rw [results_eq, stillRunning], by rw [updates_eq, accepted_nil]⟩
          rw [notYet, Bool.false_or, ← results_eq]
          exact inductionHypothesis next restDelivers restOnlyLast
      | false =>
          -- The query has come to its end, so none of its events is left.
          rw [running, if_neg Bool.false_ne_true] at active_eq
          have exhausted : rest = [] := by
            rcases earlierIncomplete with empty | incomplete
            · exact empty
            · cases seen : poll.sawEnd with
              | true => exact nothingLeft seen
              | false =>
                  rw [results_eq, seen, Results.settled, if_neg Bool.false_ne_true,
                    Results.status_applyAll incomplete, streams.running] at running
                  cases running
          subst exhausted
          obtain ⟨same, stillInactive⟩ := foldl_pick_of_inactive active_eq running later
          rw [restDelivers.pickedUp_nil, Results.applyAll_nil, ← Results.settled_settled,
            ← results_eq, Results.settled_of_ended running, same, stillInactive, running]
          exact ⟨rfl, rfl⟩

theorem view_foldl_pick {session : Session} {query : ActiveQuery}
    (streams : session.Streams query) {events : List Event} {polls : List Poll}
    (delivers : Delivers query.id events polls) (onlyLast : Incomplete events.dropLast) :
    let drained := pickedUp query.id polls
    let last := (polls.foldl pick session).results
    last.rows = session.results.rows ++ allRows drained ∧
      last.errors = session.results.errors ++ messages drained ∧
      last.columns = ((lastHeader? drained).map Prod.fst).getD session.results.columns := by
  intro drained last
  have results_eq : last = (session.results.applyAll drained).settled (polls.any Poll.sawEnd) :=
    (results_foldl_pick streams delivers onlyLast).1
  obtain ⟨rows_eq, errors_eq, columns_eq, _⟩ :=
    (session.results.applyAll drained).settled_view (polls.any Poll.sawEnd)
  rw [results_eq, rows_eq, errors_eq, columns_eq, Results.rows_applyAll, Results.errors_applyAll]
  exact ⟨rfl, rfl, (session.results.header_applyAll drained).1⟩

/-! ## How the query ended -/

theorem incomplete_dropLast_concat {earlier : List Event} (incomplete : Incomplete earlier)
    (event : Event) : Incomplete (earlier ++ [event]).dropLast := by
  rw [List.dropLast_concat]
  exact incomplete

theorem status_of_completes {session : Session} {query : ActiveQuery}
    (streams : session.Streams query) {earlier : List Event} {total : Nat} {polls : List Poll}
    (incomplete : Incomplete earlier)
    (delivers : Delivers query.id (earlier ++ [Event.complete total]) polls) :
    (.complete total ∈ pickedUp query.id polls →
      pickedUp query.id polls = earlier ++ [.complete total] ∧
        (polls.foldl pick session).results.status = .completed total) ∧
    (.complete total ∉ pickedUp query.id polls →
      (polls.foldl pick session).results.status = .running) := by
  obtain ⟨results_eq, _⟩ :=
    results_foldl_pick streams delivers (incomplete_dropLast_concat incomplete _)
  rw [results_eq]
  rcases List.prefix_concat_iff.mp delivers.pickedUp_prefix with all | some
  · have completed := session.results.status_applyAll_complete earlier total
    rw [all, Results.settled_of_ended (by rw [completed]; rfl)]
    exact ⟨fun _ => ⟨rfl, completed⟩, fun missing => absurd (by simp) missing⟩
  · have someIncomplete : Incomplete (pickedUp query.id polls) := fun event member =>
      incomplete event (some.subset member)
    have unseen : polls.any Poll.sawEnd = false := by
      cases seen : polls.any Poll.sawEnd with
      | false => rfl
      | true =>
          have shorter := some.length_le
          rw [delivers.pickedUp_of_sawEnd seen, List.length_append, List.length_singleton]
            at shorter
          omega
    refine ⟨fun member => ?_, fun _ => ?_⟩
    · cases someIncomplete _ member
    · rw [unseen, Results.settled, if_neg Bool.false_ne_true,
        Results.status_applyAll someIncomplete, streams.running]

theorem status_of_fails {session : Session} {query : ActiveQuery}
    (streams : session.Streams query) {earlier : List Event} {message : String}
    {polls : List Poll} (incomplete : Incomplete earlier)
    (delivers : Delivers query.id (earlier ++ [Event.error message]) polls) :
    (polls.foldl pick session).results.status =
      if polls.any Poll.sawEnd then .failed message else .running := by
  have someIncomplete : Incomplete (pickedUp query.id polls) := fun event member =>
    Consumer.incomplete_append incomplete (Consumer.incomplete_error message) event
      (delivers.pickedUp_prefix.subset member)
  have running : (session.results.applyAll (pickedUp query.id polls)).status = .running := by
    rw [Results.status_applyAll someIncomplete, streams.running]
  rw [(results_foldl_pick streams delivers (incomplete_dropLast_concat incomplete _)).1]
  cases seen : polls.any Poll.sawEnd with
  | false => exact running
  | true =>
      have last : (session.results.applyAll (pickedUp query.id polls)).errors.getLast? =
          some message := by
        rw [delivers.pickedUp_of_sawEnd seen, Results.errors_applyAll, messages,
          List.filterMap_append, ← List.append_assoc]
        exact List.getLast?_concat
      rw [Results.settled, if_pos rfl, Results.markFailed_of_running running, last]
      rfl

/-- Whatever the schedule, a session judges a query by how its stream ended: it is completed once
its completion was picked up, and it has failed with its last error once its job was seen to have
ended without. -/
theorem foldl_pick_stream (client : Client) (network : Http.Network) (banquetUrl : String)
    {session : Session} {query : ActiveQuery} (streams : session.Streams query) (polls : List Poll)
    (delivers : Delivers query.id
      (QueryRun.run client network banquetUrl .never).consumer.sent polls) :
    let stream := (QueryRun.run client network banquetUrl .never).consumer
    let drained := pickedUp query.id polls
    let last := polls.foldl pick session
    (∀ total, stream.outcome = some (.completed total) →
      (.complete total ∈ drained →
        drained = stream.sent ∧ last.results.status = .completed total) ∧
      (.complete total ∉ drained → last.results.status = .running)) ∧
    (stream.outcome = some .failed → ∃ message, stream.sent.getLast? = some (.error message) ∧
      last.results.status = if polls.any Poll.sawEnd then .failed message else .running) ∧
    (stream.outcome = some .failed ∨ ∃ total, stream.outcome = some (.completed total)) ∧
    last.isQueryRunning = last.results.status.isRunning ∧
    drained <+: stream.sent ∧
    last.results.rows = session.results.rows ++ allRows drained ∧
    last.results.errors = session.results.errors ++ messages drained ∧
    last.results.columns = ((lastHeader? drained).map Prod.fst).getD session.results.columns ∧
    (drained = stream.sent → ∀ others : List Poll, Delivers query.id stream.sent others →
      pickedUp query.id others = stream.sent →
      (others.foldl pick session).results.rows = last.results.rows ∧
      (others.foldl pick session).results.errors = last.results.errors ∧
      (others.foldl pick session).results.columns = last.results.columns) := by
  intro stream drained last
  have ends : stream.Ends := QueryRun.ends_run_never client network banquetUrl
  have onlyLast : Incomplete stream.sent.dropLast := by
    cases ends with
    | completes earlier _ _ incomplete sent_eq | fails earlier _ _ incomplete sent_eq =>
        rw [sent_eq]
        exact incomplete_dropLast_concat incomplete _
  obtain ⟨rows_eq, errors_eq, columns_eq⟩ := view_foldl_pick streams delivers onlyLast
  refine ⟨?_, ?_, ?_, ?_, delivers.pickedUp_prefix, rows_eq, errors_eq, columns_eq, ?_⟩
  · intro total completed
    cases ends with
    | completes earlier other outcome_eq incomplete sent_eq =>
        obtain rfl : other = total := by simpa using outcome_eq.symm.trans completed
        change Delivers query.id stream.sent polls at delivers
        rw [sent_eq] at delivers ⊢
        exact status_of_completes streams incomplete delivers
    | fails _ _ outcome_eq => cases outcome_eq.symm.trans completed
  · intro failed
    cases ends with
    | completes _ _ outcome_eq => cases outcome_eq.symm.trans failed
    | fails earlier message _ incomplete sent_eq =>
        change Delivers query.id stream.sent polls at delivers
        rw [sent_eq] at delivers ⊢
        exact ⟨message, List.getLast?_concat, status_of_fails streams incomplete delivers⟩
  · cases ends with
    | completes _ total outcome_eq => exact Or.inr ⟨total, outcome_eq⟩
    | fails _ _ outcome_eq => exact Or.inl outcome_eq
  · rw [isQueryRunning, (results_foldl_pick streams delivers onlyLast).2]
    cases last.results.status.isRunning <;> rfl
  · intro all others othersDeliver othersAll
    obtain ⟨rows_eq', errors_eq', columns_eq'⟩ := view_foldl_pick streams othersDeliver onlyLast
    rw [rows_eq', errors_eq', columns_eq', rows_eq, errors_eq, columns_eq, othersAll, ← all]
    exact ⟨rfl, rfl, rfl⟩

/-- The job ends between the two looks of the first poll, so only the second one sees it. -/
theorem foldl_pick_stream_late_end :
    let session := (Session.new Sample.client).startQuery "a.sqlite/t"
    let polls : List Poll :=
      [⟨[⟨1, .rows [[.null]]⟩], false⟩, ⟨[⟨0, .error "stale"⟩, ⟨1, .complete 1⟩], true⟩]
    session.Streams ⟨1, false⟩ ∧
      Delivers 1 (QueryRun.run Sample.client (Sample.answering Sample.oneRow)
        "a.sqlite/t" .never).consumer.sent polls ∧
      (polls.foldl pick session).results.rows = [[.null]] ∧
      (polls.foldl pick session).results.status = .completed 1 := by
  intro session polls
  have streams : session.Streams ⟨1, false⟩ := ⟨rfl, rfl, rfl⟩
  have sent_eq : (QueryRun.run Sample.client (Sample.answering Sample.oneRow)
      "a.sqlite/t" .never).consumer.sent = [.rows [[.null]], .complete 1] := by rfl
  have delivers : Delivers 1 (QueryRun.run Sample.client
      (Sample.answering Sample.oneRow) "a.sqlite/t" .never).consumer.sent polls := by
    rw [sent_eq]
    exact ⟨[.complete 1], rfl, by simp, [], rfl, fun _ => rfl, trivial⟩
  obtain ⟨completes, _, _, _, _, rows_eq, _⟩ := foldl_pick_stream Sample.client
    (Sample.answering Sample.oneRow) "a.sqlite/t" streams polls delivers
  have completed := (completes 1 rfl).1 (by simp [pickedUp, accepted, polls])
  exact ⟨streams, delivers, rows_eq, completed.2⟩

end Session

end RowStream
