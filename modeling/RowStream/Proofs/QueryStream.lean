import RowStream.Proofs.Lifecycle
import RowStream.Stream.Query

/-!
# The events of a query

Reading a reply comes down to operations of a consumer, so all that holds of every run of a
consumer holds of a query.  A query that nobody cancels always reaches an outcome: it completes,
and its last event says so, or it fails, and its last event is the error that made it fail.
-/

set_option autoImplicit false

namespace RowStream

namespace Consumer

open Event (Incomplete)

theorem ended_finish (consumer : Consumer) : consumer.finish.outcome.isSome := by
  cases isOpen : consumer.outcome with
  | none => rw [finish_of_open isOpen]; rfl
  | some outcome => simp [finish, isTerminated, isOpen]

theorem ended_fail (consumer : Consumer) (message : String) :
    (consumer.fail message).outcome.isSome := by
  cases isOpen : consumer.outcome with
  | none => rw [fail_of_open isOpen]; rfl
  | some outcome => simp [fail, isTerminated, isOpen]

inductive Ends (consumer : Consumer) : Prop where
  | completes (earlier : List Event) (total : Nat)
      (outcome_eq : consumer.outcome = some (.completed total)) (incomplete : Incomplete earlier)
      (sent_eq : consumer.sent = earlier ++ [.complete total])
  | fails (earlier : List Event) (message : String)
      (outcome_eq : consumer.outcome = some .failed) (incomplete : Incomplete earlier)
      (sent_eq : consumer.sent = earlier ++ [.error message])

theorem ends_run {limit : Nat} {operations : List Operation} (uncancelled : .cancel ∉ operations)
    (ended : (run limit operations).outcome.isSome) : (run limit operations).Ends := by
  obtain ⟨outcome, outcome_eq⟩ := Option.isSome_iff_exists.mp ended
  cases outcome with
  | completed total =>
      obtain ⟨earlier, incomplete, sent_eq⟩ := exists_sent_of_completed outcome_eq
      exact .completes earlier total outcome_eq incomplete sent_eq
  | failed =>
      obtain ⟨_, _, _, earlier, message, _, _, _, _, incomplete, sent_eq⟩ :=
        exists_sent_of_failed outcome_eq
      exact .fails earlier message outcome_eq incomplete sent_eq
  | cancelled =>
      obtain ⟨_, before, after, shape, _⟩ := sent_of_cancelled outcome_eq
      exact absurd (by rw [shape]; simp) uncancelled

end Consumer

namespace QueryRun

open Consumer (Operation)

/-- Some operations other than cancelling lead from one consumer to the other, which has ended. -/
def Concludes (start last : Consumer) : Prop :=
  ∃ operations : List Operation, .cancel ∉ operations ∧
    operations.foldl Operation.apply start = last ∧ last.outcome.isSome

theorem Concludes.cons {start last : Consumer} (operation : Operation)
    (concludes : Concludes (operation.apply start) last) (other : .cancel ≠ operation) :
    Concludes start last := by
  obtain ⟨operations, uncancelled, result, ended⟩ := concludes
  refine ⟨operation :: operations, ?_, result, ended⟩
  rw [List.mem_cons, not_or]
  exact ⟨other, uncancelled⟩

theorem concludes_finish (consumer : Consumer) : Concludes consumer consumer.finish :=
  ⟨[.finish], by simp, rfl, consumer.ended_finish⟩

theorem concludes_fail (consumer : Consumer) (message : String) :
    Concludes consumer (consumer.fail message) :=
  ⟨[.fail message], by simp, rfl, consumer.ended_fail message⟩

theorem concludes_endBody (status : Http.Status) (consumer : Consumer) :
    Concludes consumer (endBody status consumer) := by
  unfold endBody
  split
  · exact (concludes_finish _).cons (.report (ClientError.message (.status status))) (by simp)
  · exact concludes_finish consumer

theorem concludes_readBody (reply : Http.Reply) (chunks : List Bytes) (consumer : Consumer) :
    Concludes consumer (readBody .never reply chunks consumer) := by
  induction chunks generalizing consumer with
  | nil =>
      simp only [readBody, Cancellation.holds, Bool.false_eq_true, if_false]
      split
      · exact concludes_endBody reply.status consumer
      · exact concludes_fail consumer _
  | cons chunk rest inductionHypothesis =>
      simp only [readBody, Cancellation.holds, Bool.false_eq_true, if_false]
      split
      · rename_i ended
        exact ⟨[.feed chunk], by simp, rfl, ended⟩
      · exact (inductionHypothesis (consumer.feed chunk)).cons (.feed chunk) (by simp)

theorem concludes_run_never (client : Client) (network : Http.Network) (banquetUrl : String) :
    Concludes (.new client.lineLimit) (run client network banquetUrl .never).consumer := by
  simp only [run, Cancellation.holds, Bool.false_eq_true, if_false]
  split
  · exact concludes_fail _ _
  · exact concludes_readBody _ _ _

/-- A query that nobody cancels has an outcome, whatever the network does. -/
theorem ends_run_never (client : Client) (network : Http.Network) (banquetUrl : String) :
    (run client network banquetUrl .never).consumer.Ends := by
  obtain ⟨operations, uncancelled, result, ended⟩ := concludes_run_never client network banquetUrl
  rw [← result] at ended ⊢
  exact Consumer.ends_run uncancelled ended

end QueryRun

/-! ## A server to try things on -/

namespace Sample

def client : Client :=
  { base :=
      { scheme := "http", username := "", password := "", host := some (.domain "localhost")
        port := none, path := .segments [""], query := none, fragment := none }
    lineLimit := 64 }

def answering (body : String) : Http.Network :=
  .connected fun _ => some { status := .ok, chunks := [Bytes.ofText body], ending := .clean }

def oneRow : String := "\x7b\"rows\":[[null]]\x7d\n"

end Sample

end RowStream
