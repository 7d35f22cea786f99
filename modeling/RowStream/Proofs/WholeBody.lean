import RowStream.Proofs.Feeding

/-!
# A stream as a function of its body

What can be seen of a stream that was fed to its end, `Consumer.account`, is said here in terms of
the body alone: which lines are read, whether one of them is too long, what is left behind the
last line feed, and how the stream was brought to its end.
-/

set_option autoImplicit false

namespace RowStream

inductive Closing where
  | finish
  | fail (message : String)
  | cancel
  deriving DecidableEq, Repr

def Closing.operation : Closing → Consumer.Operation
  | .finish => .finish
  | .fail message => .fail message
  | .cancel => .cancel

structure Account where
  events : List Event
  outcome : Option Outcome
  stats : Stats
  headerSeen : Bool
  buffered : Nat

def Consumer.account (consumer : Consumer) : Account :=
  { events := consumer.sent, outcome := consumer.outcome, stats := consumer.stats
    headerSeen := consumer.headerSeen, buffered := consumer.buffered }

/-- What can be seen of a stream that ended after some lines were read. -/
def Account.ended (read : Interpreter × Emission) (outcome : Outcome) (last : List Event) :
    Account :=
  { events := read.2.events ++ last, outcome := some outcome, stats := read.1.stats
    headerSeen := read.1.headerSeen, buffered := 0 }

namespace Body

/-- How a stream with this body ends, and the last events that it sends, when so many rows were
read from its lines. -/
def ending (limit : Nat) (body : Bytes) (rows : Nat) (closing : Closing) : Outcome × List Event :=
  if Overlong limit body then
    (.failed, [.error ("Line exceeds maximum " ++ toString limit ++ " bytes")])
  else
    match closing with
    | .finish =>
        let rest := remainder body
        (.completed rows,
          (if rest = [] then [] else [.truncated rest.length]) ++ [.complete rows])
    | .fail message => (.failed, [.error message])
    | .cancel => (.cancelled, [])

def account (limit : Nat) (body : Bytes) (closing : Closing) : Account :=
  let read := Interpreter.new.interpretAll (readable limit body)
  let ending := ending limit body read.1.stats.rows closing
  .ended read ending.1 ending.2

end Body

namespace Consumer

open Body (remainder readable Overlong)

def readThrough (limit : Nat) (body : Bytes) : Consumer :=
  (readable limit body).foldl interpretLine (new limit)

theorem ofBody_of_overlong {limit : Nat} {body : Bytes} (overlong : Overlong limit body) :
    ofBody limit body = ((readThrough limit body).take (.error (.lineTooLong limit))).withDecoder
      (FrameDecoder.poison limit) := by
  rw [ofBody, foldl_take_frames, if_pos overlong, FrameDecoder.drained_reading, List.nil_append,
    if_pos overlong, readThrough]

theorem ofBody_of_fits {limit : Nat} {body : Bytes} (fits : ¬ Overlong limit body) :
    ofBody limit body =
      (readThrough limit body).withDecoder (FrameDecoder.holding limit (remainder body)) := by
  rw [ofBody, foldl_take_frames, if_neg fits, FrameDecoder.drained_reading, List.nil_append,
    if_neg fits, readThrough]

theorem account_eq_ended {limit : Nat} {body : Bytes} {consumer : Consumer} {outcome : Outcome}
    {last : List Event} (interpreted : consumer.interpreter = (readThrough limit body).interpreter)
    (said : consumer.sent = (readThrough limit body).sent ++ last)
    (ended : consumer.outcome = some outcome) (empty : consumer.buffered = 0) :
    consumer.account =
      .ended (Interpreter.new.interpretAll (readable limit body)) outcome last := by
  rw [readThrough, interpreter_foldl_interpretLine] at interpreted
  rw [readThrough, sent_foldl_interpretLine] at said
  simp only [account, stats, headerSeen, Account.ended, interpreted, said, ended, empty]
  rfl

theorem account_apply_ofBody (limit : Nat) (body : Bytes) (closing : Closing) :
    (closing.operation.apply (ofBody limit body)).account = Body.account limit body closing := by
  have outcome_eq := outcome_ofBody limit body
  by_cases overlong : Overlong limit body
  · rw [if_pos overlong] at outcome_eq
    simp only [Body.account, Body.ending, if_pos overlong]
    rw [apply_of_ended (by simp [outcome_eq]), ofBody_of_overlong overlong]
    exact account_eq_ended rfl (sent_failWith _ _) rfl rfl
  · rw [if_neg overlong] at outcome_eq
    have rows_eq : (ofBody limit body).rowsSeen =
        (Interpreter.new.interpretAll (readable limit body)).1.stats.rows := by
      rw [ofBody_of_fits overlong]
      exact congrArg (·.stats.rows)
        (interpreter_foldl_interpretLine (readable limit body) (new limit))
    simp only [Body.account, Body.ending, if_neg overlong]
    cases closing with
    | finish =>
        rw [Closing.operation, Operation.apply, finish_of_open outcome_eq, rows_eq,
          ofBody_of_fits overlong]
        apply account_eq_ended
        · exact interpreter_reportTruncation _
        · rw [sent_send, sent_settle, sent_reportTruncation, List.append_assoc]
          change _ ++ (((FrameDecoder.holding limit (remainder body)).finish.1.map _).toList ++ _) =
            _
          rw [FrameDecoder.finish_holding]
          split <;> rfl
        · rfl
        · rw [buffered_send, buffered_settle]
    | fail message =>
        rw [Closing.operation, Operation.apply, fail_of_open outcome_eq, ofBody_of_fits overlong]
        exact account_eq_ended rfl (sent_failWith _ _) rfl (buffered_failWith _ _)
    | cancel =>
        rw [Closing.operation, Operation.apply, cancel_of_open outcome_eq, ofBody_of_fits overlong]
        exact account_eq_ended rfl (List.append_nil _).symm rfl (buffered_settle _ _)

/-- What can be seen of a stream is a function of its body and of the way it was brought to its
end; the cuts between the chunks do not show. -/
theorem account_run_feeds (limit : Nat) (chunks : List Bytes) (closing : Closing) :
    (run limit (chunks.map .feed ++ [closing.operation])).account =
        Body.account limit chunks.flatten closing ∧
      ∀ others : List Bytes, others.flatten = chunks.flatten →
        run limit (others.map .feed ++ [closing.operation]) =
          run limit (chunks.map .feed ++ [closing.operation]) := by
  refine ⟨?_, ?_⟩
  · rw [run_feeds]
    exact account_apply_ofBody limit chunks.flatten closing
  · intro others same
    rw [run_feeds, run_feeds, same]

end Consumer

end RowStream
