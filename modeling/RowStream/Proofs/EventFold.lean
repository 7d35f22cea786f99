import RowStream.Proofs.Interpretation
import RowStream.Results

/-!
# Results of many events

`Results.applyAll` folds a list of events into the results.  What comes of it is said here for each
part of the results: the rows of all batches one after the other, the messages of all errors, and
the columns and the total of the last header.
-/

set_option autoImplicit false

namespace RowStream

namespace Event

def rowsOf : Event → List Row
  | .rows batch => batch
  | _ => []

def message? : Event → Option String
  | .error message => some message
  | _ => none

def header? : Event → Option (List Column × UInt64)
  | .header columns total => some (columns, total)
  | _ => none

def allRows (events : List Event) : List Row := events.flatMap rowsOf

def messages (events : List Event) : List String := events.filterMap message?

def lastHeader? (events : List Event) : Option (List Column × UInt64) :=
  (events.filterMap header?).getLast?

theorem lastHeader?_cons (event : Event) (rest : List Event) :
    lastHeader? (event :: rest) = (lastHeader? rest).or event.header? := by
  cases event with
  | header columns total =>
      simp only [lastHeader?, List.filterMap_cons, header?, List.getLast?_cons]
      cases (rest.filterMap header?).getLast? <;> rfl
  | rows | error | complete => exact Option.or_none.symm

end Event

namespace Results

open Event (Incomplete allRows messages lastHeader?)

def applyAll (results : Results) (events : List Event) : Results := events.foldl apply results

@[simp] theorem applyAll_nil (results : Results) : results.applyAll [] = results := rfl

theorem applyAll_cons (results : Results) (event : Event) (rest : List Event) :
    results.applyAll (event :: rest) = (results.apply event).applyAll rest := rfl

theorem applyAll_append (results : Results) (first second : List Event) :
    results.applyAll (first ++ second) = (results.applyAll first).applyAll second := by
  rw [applyAll, List.foldl_append, applyAll, applyAll]

theorem rows_applyAll (results : Results) (events : List Event) :
    (results.applyAll events).rows = results.rows ++ allRows events := by
  induction events generalizing results with
  | nil => exact (List.append_nil _).symm
  | cons event rest inductionHypothesis =>
      have one : (results.apply event).rows = results.rows ++ event.rowsOf := by
        cases event <;> simp [apply, Event.rowsOf]
      rw [applyAll_cons, inductionHypothesis, one, List.append_assoc]
      rfl

theorem errors_applyAll (results : Results) (events : List Event) :
    (results.applyAll events).errors = results.errors ++ messages events := by
  induction events generalizing results with
  | nil => exact (List.append_nil _).symm
  | cons event rest inductionHypothesis =>
      have one : (results.apply event).errors = results.errors ++ event.message?.toList := by
        cases event <;> simp [apply, Event.message?]
      rw [applyAll_cons, inductionHypothesis, one, List.append_assoc]
      cases event <;> rfl

/-- The columns and the total are those of the last header, or stay as they were. -/
theorem header_applyAll (results : Results) (events : List Event) :
    (results.applyAll events).columns =
        ((lastHeader? events).map Prod.fst).getD results.columns ∧
      (results.applyAll events).advertisedTotal =
        ((lastHeader? events).map Prod.snd).or results.advertisedTotal := by
  induction events generalizing results with
  | nil => exact ⟨rfl, rfl⟩
  | cons event rest inductionHypothesis =>
      obtain ⟨columns_eq, total_eq⟩ := inductionHypothesis (results.apply event)
      rw [applyAll_cons, columns_eq, total_eq, Event.lastHeader?_cons]
      cases lastHeader? rest with
      | some last => exact ⟨rfl, rfl⟩
      | none => cases event <;> exact ⟨rfl, rfl⟩

theorem status_applyAll {events : List Event} (incomplete : Incomplete events)
    (results : Results) : (results.applyAll events).status = results.status := by
  induction events generalizing results with
  | nil => rfl
  | cons event rest inductionHypothesis =>
      have isIncomplete := incomplete event List.mem_cons_self
      have restIncomplete : Incomplete rest := fun later member =>
        incomplete later (List.mem_cons_of_mem event member)
      rw [applyAll_cons, inductionHypothesis restIncomplete]
      cases event with
      | complete total => cases isIncomplete
      | header | rows | error => rfl

theorem status_applyAll_complete (results : Results) (earlier : List Event) (total : Nat) :
    (results.applyAll (earlier ++ [.complete total])).status = .completed total := by
  rw [applyAll_append]
  rfl

/-- The same results with these columns from the schema lookup, scrolled to this row. -/
def viewed (results : Results) (schema : List Column) (scroll : Nat) : Results :=
  { results with schema, scroll }

theorem applyAll_viewed (results : Results) (schema : List Column) (scroll : Nat)
    (events : List Event) :
    (results.viewed schema scroll).applyAll events =
      (results.applyAll events).viewed schema scroll := by
  induction events generalizing results with
  | nil => rfl
  | cons event rest inductionHypothesis =>
      have one : (results.viewed schema scroll).apply event =
          (results.apply event).viewed schema scroll := by
        cases event <;> rfl
      rw [applyAll_cons, one, inductionHypothesis, applyAll_cons]

end Results

end RowStream
