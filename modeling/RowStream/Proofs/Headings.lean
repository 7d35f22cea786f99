import RowStream.Proofs.Accounting

/-!
# The totals of headings

A heading may come without a total.  Then the total counts that the latest heading carried, and
zero if none did: `carried` says which total that is, as a function of the headings alone.  What the
lines between two headings hold does not matter.
-/

set_option autoImplicit false

namespace RowStream

namespace Record

/-- The total that was carried last. -/
def carried (headings : List (List Column × Option UInt64)) : Option UInt64 :=
  (headings.filterMap Prod.snd).getLast?

theorem carried_append (first second : List (List Column × Option UInt64)) :
    carried (first ++ second) = (carried second).or (carried first) := by
  rw [carried, List.filterMap_append, List.getLast?_append]
  rfl

theorem carried_singleton (heading : List Column × Option UInt64) :
    carried [heading] = heading.2 := by
  obtain ⟨columns, total⟩ := heading
  cases total <;> rfl

theorem carried_cons (heading : List Column × Option UInt64)
    (rest : List (List Column × Option UInt64)) :
    carried (heading :: rest) = (carried rest).or heading.2 := by
  rw [← List.singleton_append, carried_append, carried_singleton]

end Record

namespace Interpreter

open Record (headingIn? batchIn? reportedIn? carried)

theorem getD_or (first second : Option UInt64) :
    (first.or (some (second.getD 0))).getD 0 = (first.or second).getD 0 := by
  cases first <;> rfl

theorem totalOf_interpretAll (interpreter : Interpreter) (lines : List Bytes)
    (heading : List Column × Option UInt64) :
    (interpreter.interpretAll lines).1.totalOf heading =
      ((carried (lines.filterMap headingIn? ++ [heading])).or
        interpreter.advertisedTotal).getD 0 := by
  induction lines generalizing interpreter with
  | nil =>
      rw [List.filterMap_nil, List.nil_append, Record.carried_singleton]
      rfl
  | cons line rest inductionHypothesis =>
      rw [interpretAll_cons, inductionHypothesis, (headers_interpret interpreter line).2,
        List.filterMap_cons]
      cases headingIn? line with
      | none => rfl
      | some first =>
          rw [List.cons_append, Record.carried_cons, Option.or_assoc]
          exact getD_or _ _

theorem sentHeaders_interpret (interpreter : Interpreter) (line : Bytes) :
    (interpreter.interpret line).2.events.filterMap Event.header? =
      ((headingIn? line).map fun heading => (heading.1, interpreter.totalOf heading)).toList := by
  rw [events_interpret, List.filterMap_append, List.filterMap_append]
  cases reportedIn? line <;> cases headingIn? line <;> cases batchIn? line <;> rfl

theorem sentHeaders_interpretAll (interpreter : Interpreter) (lines : List Bytes) (index : Nat) :
    ((interpreter.interpretAll lines).2.events.filterMap Event.header?)[index]? =
      (lines.filterMap headingIn?)[index]?.map fun heading =>
        (heading.1, ((carried ((lines.filterMap headingIn?).take (index + 1))).or
          interpreter.advertisedTotal).getD 0) := by
  induction lines generalizing interpreter index with
  | nil => rfl
  | cons line rest inductionHypothesis =>
      have together : (interpreter.interpretAll (line :: rest)).2.events =
          (interpreter.interpret line).2.events ++
            ((interpreter.interpret line).1.interpretAll rest).2.events := rfl
      rw [together, List.filterMap_append, sentHeaders_interpret, List.filterMap_cons]
      have remembered := (headers_interpret interpreter line).2
      cases heading_eq : headingIn? line with
      | none =>
          rw [heading_eq] at remembered
          have later := inductionHypothesis (interpreter.interpret line).1 index
          rw [remembered] at later
          exact later
      | some heading =>
          rw [heading_eq] at remembered
          cases index with
          | zero =>
              rw [List.take_succ_cons, List.take_zero, Record.carried_singleton]
              rfl
          | succ index =>
              have later := inductionHypothesis (interpreter.interpret line).1 index
              rw [remembered] at later
              rw [List.take_succ_cons, Record.carried_cons, Option.or_assoc, ← getD_or]
              exact later

theorem error_interpret (interpreter : Interpreter) {line : Bytes} {message : String}
    (reported : reportedIn? line = some message) :
    (interpreter.interpret line).2.events = [.error message] ∧
      (interpreter.interpret line).1.headerSeen = interpreter.headerSeen ∧
      (interpreter.interpret line).1.advertisedTotal = interpreter.advertisedTotal ∧
      (interpreter.interpret line).1.stats.rows = interpreter.stats.rows := by
  obtain ⟨noHeading, noBatch⟩ := Record.alone_of_reportedIn reported
  have events_eq : (interpreter.interpret line).2.events = [.error message] := by
    rw [events_interpret, reported, noHeading, noBatch]
    rfl
  refine ⟨events_eq, ?_, ?_, ?_⟩
  · rw [(interpreter.headers_interpret line).1, noHeading]
    exact Bool.or_false _
  · rw [(interpreter.headers_interpret line).2, noHeading]
    rfl
  · rw [rows_interpret, events_eq]
    rfl

/-- Every heading is announced, in order, with the total that was carried last, at the place of its
line; an error stands alone in its line and leaves no trace on what follows; and a heading comes
right before the rows of its line. -/
theorem interpretAll_headings (lines : List Bytes) :
    let events := (new.interpretAll lines).2.events
    (∀ index, (events.filterMap Event.header?)[index]? =
      (lines.filterMap headingIn?)[index]?.map fun heading =>
        (heading.1, (carried ((lines.filterMap headingIn?).take (index + 1))).getD 0)) ∧
    ∀ before line after, lines = before ++ line :: after →
      let reached := (new.interpretAll before).1
      let next := (reached.interpret line).1
      let said := (reached.interpret line).2.events
      events = (new.interpretAll before).2.events ++ said ++ (next.interpretAll after).2.events ∧
      (∀ message, reportedIn? line = some message →
        said = [.error message] ∧ next.headerSeen = reached.headerSeen ∧
          next.advertisedTotal = reached.advertisedTotal ∧
          next.stats.rows = reached.stats.rows) ∧
      (reportedIn? line = none →
        said = ((headingIn? line).map fun heading => Event.header heading.1
            ((carried (before.filterMap headingIn? ++ [heading])).getD 0)).toList ++
          ((batchIn? line).map Event.rows).toList) := by
  intro events
  refine ⟨?_, ?_⟩
  · intro index
    have announced := sentHeaders_interpretAll new lines index
    have fresh : new.advertisedTotal = none := rfl
    simp only [fresh, Option.or_none] at announced
    exact announced
  · intro before line after shape reached next said
    refine ⟨?_, ?_, ?_⟩
    · have parts : events = (new.interpretAll before).2.events ++
          (reached.interpretAll (line :: after)).2.events := by
        change (new.interpretAll lines).2.events = _
        rw [shape, interpretAll_append]
        rfl
      rw [parts, List.append_assoc]
      rfl
    · intro message reported
      exact error_interpret reached reported
    · intro unreported
      have announce_eq : reached.announce = fun heading => Event.header heading.1
          ((carried (before.filterMap headingIn? ++ [heading])).getD 0) := by
        funext heading
        have fresh : new.advertisedTotal = none := rfl
        have total_eq := totalOf_interpretAll new before heading
        rw [fresh, Option.or_none] at total_eq
        exact congrArg (Event.header heading.1) total_eq
      change (reached.interpret line).2.events = _
      rw [events_interpret, unreported, announce_eq]
      rfl

end Interpreter

end RowStream
