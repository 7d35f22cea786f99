import RowStream.Proofs.EventFold
import RowStream.Session.Background

/-!
# Picking up events

`accepted` is what a session lets through of the events in its queue: those of one query.  Picking
up the events means to apply the accepted ones in their order and then to look whether the query
has come to its end.
-/

set_option autoImplicit false

namespace RowStream

def Results.settled (results : Results) (finished : Bool) : Results :=
  if finished then results.markFailed else results

namespace Results

theorem settled_of_ended {results : Results} (ended : results.status.isRunning = false)
    (finished : Bool) : results.settled finished = results := by
  simp [settled, markFailed, ended]

theorem markFailed_of_running {results : Results} (running : results.status = .running) :
    results.markFailed = { results with
      status := .failed (results.errors.getLast?.getD "Query ended unexpectedly") } := by
  simp [markFailed, running, QueryStatus.isRunning]

theorem isRunning_markFailed (results : Results) :
    results.markFailed.status.isRunning = false := by
  unfold markFailed
  split
  · rfl
  · rename_i ended
    exact Bool.eq_false_iff.mpr ended

theorem settled_settled (results : Results) (first second : Bool) :
    (results.settled first).settled second = results.settled (first || second) := by
  cases first with
  | true => exact settled_of_ended results.isRunning_markFailed second
  | false => rfl

theorem of_isRunning_settled {results : Results} {finished : Bool}
    (running : (results.settled finished).status.isRunning) :
    finished = false ∧ results.status = .running := by
  cases finished with
  | true => simp [settled, isRunning_markFailed] at running
  | false =>
      refine ⟨rfl, ?_⟩
      change results.status.isRunning = true at running
      cases status_eq : results.status with
      | running => rfl
      | idle | completed | failed | cancelled => simp [status_eq, QueryStatus.isRunning] at running

theorem settled_view (results : Results) (finished : Bool) :
    (results.settled finished).rows = results.rows ∧
      (results.settled finished).errors = results.errors ∧
      (results.settled finished).columns = results.columns ∧
      (results.settled finished).advertisedTotal = results.advertisedTotal := by
  unfold settled markFailed
  split
  · split <;> exact ⟨rfl, rfl, rfl, rfl⟩
  · exact ⟨rfl, rfl, rfl, rfl⟩

end Results

namespace Session

/-- The events of the active query among those of several, in their order. -/
def accepted (active : Option Nat) (updates : List Update) : List Event :=
  updates.filterMap fun update => if active = some update.queryId then some update.event else none

def tagged (id : Nat) (events : List Event) : List Update :=
  events.map fun event => { queryId := id, event }

@[simp] theorem accepted_nil (active : Option Nat) : accepted active [] = [] := rfl

@[simp] theorem accepted_append (active : Option Nat) (first second : List Update) :
    accepted active (first ++ second) = accepted active first ++ accepted active second :=
  List.filterMap_append

@[simp] theorem accepted_none (updates : List Update) : accepted none updates = [] := by
  simp [accepted]

theorem accepted_tagged (id : Nat) (events : List Event) :
    accepted (some id) (tagged id events) = events := by
  induction events with
  | nil => rfl
  | cons event rest inductionHypothesis =>
      have first : accepted (some id) [{ queryId := id, event }] = [event] := by
        simp [accepted]
      have split : tagged id (event :: rest) = [{ queryId := id, event }] ++ tagged id rest := rfl
      rw [split, accepted_append, first, inductionHypothesis]
      rfl

theorem accepted_tagged_of_ne {id other : Nat} (different : id ≠ other) (events : List Event) :
    accepted (some id) (tagged other events) = [] := by
  rw [accepted, List.filterMap_eq_nil_iff]
  intro update member
  obtain ⟨event, _, rfl⟩ := List.mem_map.mp member
  exact if_neg fun same => different (Option.some.inj same)

theorem foldl_applyUpdate (active : Option Nat) (updates : List Update) (session : Session) :
    updates.foldl (applyUpdate active) session =
      { session with
        results := session.results.applyAll (accepted active updates)
        dirty := session.dirty || !(accepted active updates).isEmpty } := by
  induction updates generalizing session with
  | nil => simp
  | cons update rest inductionHypothesis =>
      rw [List.foldl_cons, inductionHypothesis]
      by_cases own : active = some update.queryId
      · simp [applyUpdate, accepted, own, markDirty, Results.applyAll_cons]
      · simp [applyUpdate, accepted, own]

/-- A query stays active for exactly as long as it is running; what else changes can be seen on the
screen only. -/
theorem settleQuery_eq (session : Session) (finished : Bool) :
    ∃ lastError dirty, session.settleQuery finished =
      { session with
        results := session.results.settled finished
        active :=
          if (session.results.settled finished).status.isRunning then session.active else none
        liveTokens :=
          if (session.results.settled finished).status.isRunning then session.liveTokens
          else session.dropHandle.liveTokens
        lastError, dirty } := by
  cases running : session.results.status.isRunning with
  | false =>
      refine ⟨session.lastError, session.dirty, ?_⟩
      simp [settleQuery, running, Results.settled_of_ended, dropHandle, cancelHandle]
  | true =>
      cases finished with
      | false =>
          refine ⟨session.lastError, session.dirty, ?_⟩
          simp [settleQuery, running, Results.settled]
      | true =>
          have ended := session.results.isRunning_markFailed
          simp only [settleQuery, running, Results.settled, Bool.not_true, Bool.false_eq_true,
            if_false, if_true, ended, markDirty]
          split <;> exact ⟨_, _, rfl⟩

/-- What picking up the events does. -/
theorem drainUpdates_eq (session : Session) (finished : Bool) :
    let results := (session.results.applyAll
      (accepted (session.active.map ActiveQuery.id) session.updates)).settled finished
    ∃ lastError dirty, session.drainUpdates finished =
      { session with
        updates := [], results
        active := if results.status.isRunning then session.active else none
        liveTokens :=
          if results.status.isRunning then session.liveTokens else session.dropHandle.liveTokens
        lastError, dirty } := by
  intro results
  simp only [drainUpdates, foldl_applyUpdate]
  exact settleQuery_eq _ finished

end Session

end RowStream
