import RowStream.Stream.Interpreter

/-!
# Reading lines one after the other

`Interpreter.interpretAll` gives a list of lines to one interpreter and collects what it says.
No line makes an interpreter say that the stream is complete: that is for the consumer to say.
-/

set_option autoImplicit false

namespace RowStream

def Event.isComplete : Event → Bool
  | .complete _ => true
  | _ => false

def Event.Incomplete (events : List Event) : Prop := ∀ event ∈ events, event.isComplete = false

namespace Interpreter

/-- Reads some lines, and collects all that is sent and logged. -/
def interpretAll : Interpreter → List Bytes → Interpreter × Emission
  | interpreter, [] => (interpreter, .none)
  | interpreter, line :: rest =>
      let (next, emission) := interpreter.interpret line
      let (last, later) := interpretAll next rest
      (last, emission ++ later)

theorem incomplete_onRows (interpreter : Interpreter) (rows : List Row) :
    Event.Incomplete (interpreter.onRows rows).2.events := by
  intro event member
  unfold onRows at member
  split at member
  · simp [Emission.none] at member
  · obtain rfl := List.mem_singleton.mp member
    rfl

theorem incomplete_dispatch (interpreter : Interpreter) (record : Record) :
    Event.Incomplete (interpreter.dispatch record).2.events := by
  intro event member
  unfold dispatch at member
  split at member
  · obtain rfl := List.mem_singleton.mp member
    rfl
  · rcases List.mem_append.mp member with inHeader | inRows
    · split at inHeader
      · obtain rfl := List.mem_singleton.mp inHeader
        rfl
      · simp [Emission.none] at inHeader
    · split at inRows
      · exact incomplete_onRows _ _ event inRows
      · simp [Emission.none] at inRows

theorem incomplete_interpret (interpreter : Interpreter) (line : Bytes) :
    Event.Incomplete (interpreter.interpret line).2.events := by
  unfold interpret
  split
  · simp [Event.Incomplete]
  · exact incomplete_dispatch _ _

theorem incomplete_interpretAll (interpreter : Interpreter) (lines : List Bytes) :
    Event.Incomplete (interpreter.interpretAll lines).2.events := by
  induction lines generalizing interpreter with
  | nil => simp [Event.Incomplete, interpretAll, Emission.none]
  | cons line rest inductionHypothesis =>
      intro event member
      rcases List.mem_append.mp member with now | later
      · exact incomplete_interpret interpreter line event now
      · exact inductionHypothesis _ event later

end Interpreter

end RowStream
