import RowStream.Proofs.Decoder
import RowStream.Proofs.Operation

/-!
# A consumer and the body it was fed

A chunk makes a consumer take every frame that the chunk completes, one after the other
(`feed_eq`).  `ofBody` is the consumer that took the frames of a whole body, and `foldl_feed_new`
says that feeding a body in chunks leads there however it was cut: `feed_ofBody` is the step, where
the bytes that the decoder holds are the ones that the frames so far left unfinished.
-/

set_option autoImplicit false

namespace RowStream.Consumer

open Body (remainder readable frames Overlong)

/-! ## Lines -/

theorem outcome_foldl_interpretLine (read : List Bytes) (consumer : Consumer) :
    (read.foldl interpretLine consumer).outcome = consumer.outcome := by
  induction read generalizing consumer with
  | nil => rfl
  | cons line rest inductionHypothesis => exact inductionHypothesis (consumer.interpretLine line)

theorem interpreter_foldl_interpretLine (read : List Bytes) (consumer : Consumer) :
    (read.foldl interpretLine consumer).interpreter =
      (consumer.interpreter.interpretAll read).1 := by
  induction read generalizing consumer with
  | nil => rfl
  | cons line rest inductionHypothesis => exact inductionHypothesis (consumer.interpretLine line)

theorem sent_foldl_interpretLine (read : List Bytes) (consumer : Consumer) :
    (read.foldl interpretLine consumer).sent =
      consumer.sent ++ (consumer.interpreter.interpretAll read).2.events := by
  induction read generalizing consumer with
  | nil => simp [Interpreter.interpretAll, Emission.none]
  | cons line rest inductionHypothesis =>
      rw [List.foldl_cons, inductionHypothesis, sent_interpretLine, List.append_assoc]
      rfl

/-! ## One chunk -/

def take (consumer : Consumer) : Frame → Consumer
  | .ok line => consumer.interpretLine line
  | .error cause => (consumer.log (.aborted cause)).failWith cause.message

def withDecoder (consumer : Consumer) (decoder : FrameDecoder) : Consumer :=
  { consumer with decoder }

/-- What frames do apart from the decoder does not depend on the decoder. -/
theorem withDecoder_foldl_take (taken : List Frame) (consumer : Consumer)
    (before after : FrameDecoder) :
    (taken.foldl take (consumer.withDecoder before)).withDecoder after =
      (taken.foldl take consumer).withDecoder after := by
  induction taken generalizing consumer before with
  | nil => rfl
  | cons frame rest inductionHypothesis =>
      have moved : ∃ decoder,
          (consumer.withDecoder before).take frame = (consumer.take frame).withDecoder decoder := by
        cases frame with
        | ok line => exact ⟨before, rfl⟩
        | error cause => exact ⟨before.finish.2, rfl⟩
      obtain ⟨decoder, moved⟩ := moved
      rw [List.foldl_cons, moved, inductionHypothesis, List.foldl_cons]

theorem absorb_eq {count : Nat} {consumer : Consumer} (sound : consumer.decoder.Sound)
    (enough : consumer.decoder.unread.length < count) :
    absorb count consumer =
      (consumer.decoder.upcoming.foldl take consumer).withDecoder consumer.decoder.drained := by
  induction count generalizing consumer with
  | zero => omega
  | succ count inductionHypothesis =>
      have pulled := FrameDecoder.pull_cases sound
      have shorter := @FrameDecoder.pull_shortens consumer.decoder
      unfold absorb
      generalize consumer.decoder.pull = result at pulled shorter
      cases pulled with
      | nothing upcoming_eq => rw [upcoming_eq]; rfl
      | tooLong upcoming_eq drained_eq => rw [upcoming_eq, drained_eq]; rfl
      | line bytes next nextSound limit_eq upcoming_eq drained_eq =>
          have nextEnough : next.unread.length < count := by
            have readOn : next.unread.length < consumer.decoder.unread.length := shorter rfl
            omega
          have later := @inductionHypothesis ((consumer.withDecoder next).interpretLine bytes)
            nextSound nextEnough
          have taken_eq : (consumer.withDecoder next).interpretLine bytes =
              (consumer.interpretLine bytes).withDecoder next := rfl
          rw [taken_eq, withDecoder_foldl_take] at later
          rw [upcoming_eq, ← drained_eq]
          exact later

/-- A chunk makes an open consumer take the frames that it completes. -/
theorem feed_eq {consumer : Consumer} (isOpen : consumer.outcome = none)
    (sound : consumer.decoder.Sound) (chunk : Bytes) :
    consumer.feed chunk =
      ((consumer.decoder.append chunk).upcoming.foldl take consumer).withDecoder
        (consumer.decoder.append chunk).drained := by
  have absorbed := @absorb_eq ((consumer.decoder.append chunk).unread.length + 1)
    (consumer.withDecoder (consumer.decoder.append chunk)) (sound.append chunk)
    (Nat.lt_succ_self _)
  rw [withDecoder_foldl_take] at absorbed
  rw [feed, if_neg (by simp [isTerminated, isOpen])]
  exact absorbed

/-! ## The whole body -/

/-- The consumer that was fed this body. -/
def ofBody (limit : Nat) (body : Bytes) : Consumer :=
  ((frames limit body).foldl take (new limit)).withDecoder
    (FrameDecoder.reading limit [] body).drained

theorem foldl_take_frames (limit : Nat) (body : Bytes) (consumer : Consumer) :
    (frames limit body).foldl take consumer =
      if Overlong limit body then
        ((readable limit body).foldl interpretLine consumer).take (.error (.lineTooLong limit))
      else (readable limit body).foldl interpretLine consumer := by
  rw [frames, List.foldl_append, List.foldl_map]
  split <;> rfl

theorem outcome_ofBody (limit : Nat) (body : Bytes) :
    (ofBody limit body).outcome = if Overlong limit body then some .failed else none := by
  rw [ofBody, foldl_take_frames]
  split
  · rfl
  · exact outcome_foldl_interpretLine (readable limit body) (new limit)

theorem ofBody_nil (limit : Nat) : ofBody limit [] = new limit := by
  have fits : ¬ Overlong limit [] := by
    rw [Body.overlong_unbroken limit (by simp)]
    simp [Body.withoutReturn]
  rw [ofBody, frames, Body.readable_unbroken limit (by simp), if_neg fits,
    FrameDecoder.drained_reading, List.nil_append, if_neg fits,
    Body.remainder_unbroken (by simp)]
  rfl

theorem feed_ofBody (limit : Nat) (body chunk : Bytes) :
    (ofBody limit body).feed chunk = ofBody limit (body ++ chunk) := by
  by_cases overlong : Overlong limit body
  · have ended : (ofBody limit body).outcome.isSome := by
      rw [outcome_ofBody, if_pos overlong]
      rfl
    have stillOverlong := (Body.overlong_append limit body chunk).mpr (Or.inl overlong)
    have unchanged : (ofBody limit body).feed chunk = ofBody limit body :=
      apply_of_ended ended (.feed chunk)
    rw [unchanged, ofBody, ofBody, Body.frames_append_of_overlong overlong]
    simp [overlong, stillOverlong]
  · have isOpen : (ofBody limit body).outcome = none := by rw [outcome_ofBody, if_neg overlong]
    have decoder_eq :
        (ofBody limit body).decoder = FrameDecoder.holding limit (remainder body) := by
      change (FrameDecoder.reading limit [] body).drained = _
      rw [FrameDecoder.drained_reading, List.nil_append, if_neg overlong]
    have sound : (ofBody limit body).decoder.Sound := FrameDecoder.sound_drained _
    have overlong_iff :
        Overlong limit (body ++ chunk) ↔ Overlong limit (remainder body ++ chunk) := by
      simp [Body.overlong_append limit body chunk, overlong]
    rw [feed_eq isOpen sound, decoder_eq, FrameDecoder.holding, FrameDecoder.append_reading,
      FrameDecoder.upcoming_reading, FrameDecoder.drained_reading, List.nil_append, ofBody,
      withDecoder_foldl_take, ← List.foldl_append, ← Body.frames_append_of_fits overlong,
      ← Body.remainder_append, ofBody, FrameDecoder.drained_reading, List.nil_append]
    simp only [overlong_iff]

theorem ofBody_append_of_overlong {limit : Nat} {body : Bytes} (overlong : Overlong limit body)
    (more : Bytes) : ofBody limit (body ++ more) = ofBody limit body := by
  have ended : (ofBody limit body).outcome.isSome := by
    rw [outcome_ofBody, if_pos overlong]
    rfl
  rw [← feed_ofBody]
  exact apply_of_ended ended (.feed more)

/-- However a body was cut into chunks, the consumer that was fed them is the same. -/
theorem foldl_feed_new (limit : Nat) (chunks : List Bytes) :
    chunks.foldl feed (new limit) = ofBody limit chunks.flatten := by
  have fromBody : ∀ body, chunks.foldl feed (ofBody limit body) =
      ofBody limit (body ++ chunks.flatten) := by
    induction chunks with
    | nil => simp
    | cons chunk rest inductionHypothesis =>
        intro body
        rw [List.foldl_cons, feed_ofBody, inductionHypothesis, List.flatten_cons,
          List.append_assoc]
  rw [← ofBody_nil, fromBody, List.nil_append]

theorem run_feeds (limit : Nat) (chunks : List Bytes) (later : List Operation) :
    run limit (chunks.map .feed ++ later) =
      later.foldl Operation.apply (ofBody limit chunks.flatten) := by
  rw [run_append, run_map_feed, foldl_feed_new]

end RowStream.Consumer
