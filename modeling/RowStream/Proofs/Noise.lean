import RowStream.Proofs.Contents
import RowStream.Proofs.WholeBody

/-!
# Lines that say nothing

A blank line, a line that is no record and a record without an error, a heading and rows are
`Noise`: they can be put into a body between any two lines without a trace in what the stream sends
or in how it ends.  `Echoes` relates a stream to the same stream with such a line.  The two differ
by the counters of the line alone, and no operation makes anything else of that difference.
-/

set_option autoImplicit false

namespace RowStream

namespace Body

theorem withoutReturn_eq_nil_iff (line : Bytes) :
    withoutReturn line = [] ↔ line = [] ∨ line = [Bytes.carriageReturn] := by
  unfold withoutReturn
  split
  · rename_i last
    obtain ⟨front, rfl⟩ := List.getLast?_eq_some_iff.mp last
    simp
  · rename_i noReturn
    constructor
    · exact Or.inl
    · rintro (empty | lone)
      · exact empty
      · exact absurd (congrArg List.getLast? lone) noReturn

/-- A line that tells its reader nothing.  A total alone is nothing, because it belongs to a
heading. -/
inductive Noise (line : Bytes) : Prop where
  | blank (empty : line = [] ∨ line = [Bytes.carriageReturn])
  | undecodable (refused : Record.decode? (withoutReturn line) = none)
  | idle (record : Record) (decoded : Record.decode? (withoutReturn line) = some record)
      (unreported : record.reportedError? = none) (headless : record.columns = none)
      (rowless : record.rows.getD [] = [])

theorem Noise.holds_nothing {line : Bytes} (noise : Noise line) :
    Record.reportedIn? (withoutReturn line) = none ∧
      Record.headingIn? (withoutReturn line) = none ∧
      Record.batchIn? (withoutReturn line) = none := by
  cases noise with
  | blank empty =>
      rw [(withoutReturn_eq_nil_iff line).mpr empty]
      exact ⟨rfl, rfl, rfl⟩
  | undecodable refused =>
      simp only [Record.reportedIn?, Record.headingIn?, Record.batchIn?, refused]
      exact ⟨rfl, rfl, rfl⟩
  | idle record decoded unreported headless rowless =>
      obtain ⟨heading_eq, batch_eq⟩ := Record.of_unreported unreported
      simp only [Record.reportedIn?, Record.headingIn?, Record.batchIn?, decoded]
      refine ⟨unreported, ?_, ?_⟩
      · exact heading_eq.trans (by rw [headless]; rfl)
      · refine batch_eq.trans ?_
        cases rows_eq : record.rows with
        | none => rfl
        | some rows =>
            rw [rows_eq] at rowless
            obtain rfl : rows = [] := rowless
            rfl

end Body

open Body (withoutReturn remainder Overlong Noise)

/-! ## Lines -/

namespace Interpreter

/-- The second interpreter read lines more, which counted for `extra`. -/
structure Echoes (extra : Stats) (plain noisy : Interpreter) : Prop where
  headerSeen_eq : noisy.headerSeen = plain.headerSeen
  advertisedTotal_eq : noisy.advertisedTotal = plain.advertisedTotal
  stats_eq : noisy.stats = plain.stats.add extra

theorem Echoes.interpret {extra : Stats} {plain noisy : Interpreter}
    (echoes : Echoes extra plain noisy) (line : Bytes) :
    Echoes extra (plain.interpret line).1 (noisy.interpret line).1 ∧
      (noisy.interpret line).2.events = (plain.interpret line).2.events := by
  obtain ⟨headerSeen_eq, advertisedTotal_eq, stats_eq⟩ := echoes
  have totalOf_eq : noisy.totalOf = plain.totalOf := by
    unfold totalOf
    rw [advertisedTotal_eq]
  have announce_eq : noisy.announce = plain.announce := by
    unfold announce
    rw [totalOf_eq]
  refine ⟨⟨?_, ?_, ?_⟩, ?_⟩
  · rw [(noisy.headers_interpret line).1, (plain.headers_interpret line).1, headerSeen_eq]
  · rw [(noisy.headers_interpret line).2, (plain.headers_interpret line).2, advertisedTotal_eq,
      totalOf_eq]
  · rw [stats_interpret, stats_interpret, stats_eq, Stats.add_right_comm]
  · rw [events_interpret, events_interpret, announce_eq]

theorem echoes_noise (interpreter : Interpreter) {line : Bytes} (noise : Noise line) :
    Echoes (.ofLine (withoutReturn line)) interpreter
        (interpreter.interpret (withoutReturn line)).1 ∧
      (interpreter.interpret (withoutReturn line)).2.events = [] := by
  obtain ⟨noError, noHeading, noBatch⟩ := noise.holds_nothing
  refine ⟨⟨?_, ?_, stats_interpret interpreter _⟩, ?_⟩
  · rw [(interpreter.headers_interpret _).1, noHeading]
    exact Bool.or_false _
  · rw [(interpreter.headers_interpret _).2, noHeading]
    rfl
  · rw [events_interpret, noError, noHeading, noBatch]
    rfl

end Interpreter

namespace Consumer

/-! ## Operations -/

/-- The second stream read lines more, which counted for `extra` and held no rows. -/
structure Echoes (extra : Stats) (plain noisy : Consumer) : Prop where
  rowless : extra.rows = 0
  decoder_eq : noisy.decoder = plain.decoder
  outcome_eq : noisy.outcome = plain.outcome
  sent_eq : noisy.sent = plain.sent
  interpreters : plain.interpreter.Echoes extra noisy.interpreter

section

variable {extra : Stats} {plain noisy : Consumer}

theorem Echoes.refl (consumer : Consumer) : Echoes .zero consumer consumer :=
  ⟨rfl, rfl, rfl, rfl, rfl, rfl, rfl⟩

theorem Echoes.rowsSeen_eq (echoes : Echoes extra plain noisy) :
    noisy.rowsSeen = plain.rowsSeen := by
  change noisy.interpreter.stats.rows = plain.interpreter.stats.rows
  rw [echoes.interpreters.stats_eq]
  change plain.interpreter.stats.rows + extra.rows = _
  rw [echoes.rowless, Nat.add_zero]

theorem Echoes.send (echoes : Echoes extra plain noisy) (event : Event) :
    Echoes extra (plain.send event) (noisy.send event) where
  rowless := echoes.rowless
  decoder_eq := echoes.decoder_eq
  outcome_eq := echoes.outcome_eq
  sent_eq := by rw [sent_send, sent_send, echoes.sent_eq]
  interpreters := echoes.interpreters

theorem Echoes.log (echoes : Echoes extra plain noisy) (notice : Notice) :
    Echoes extra (plain.log notice) (noisy.log notice) :=
  ⟨echoes.rowless, echoes.decoder_eq, echoes.outcome_eq, echoes.sent_eq, echoes.interpreters⟩

theorem Echoes.settle (echoes : Echoes extra plain noisy) (outcome : Outcome) :
    Echoes extra (plain.settle outcome) (noisy.settle outcome) :=
  ⟨echoes.rowless, congrArg (·.finish.2) echoes.decoder_eq, rfl, echoes.sent_eq,
    echoes.interpreters⟩

theorem Echoes.failWith (echoes : Echoes extra plain noisy) (message : String) :
    Echoes extra (plain.failWith message) (noisy.failWith message) :=
  (echoes.settle .failed).send (.error message)

theorem Echoes.withDecoder (echoes : Echoes extra plain noisy) (decoder : FrameDecoder) :
    Echoes extra (plain.withDecoder decoder) (noisy.withDecoder decoder) :=
  ⟨echoes.rowless, rfl, echoes.outcome_eq, echoes.sent_eq, echoes.interpreters⟩

theorem Echoes.interpretLine (echoes : Echoes extra plain noisy) (line : Bytes) :
    Echoes extra (plain.interpretLine line) (noisy.interpretLine line) := by
  obtain ⟨interpreters, events_eq⟩ := echoes.interpreters.interpret line
  refine ⟨echoes.rowless, echoes.decoder_eq, echoes.outcome_eq, ?_, interpreters⟩
  rw [sent_interpretLine, sent_interpretLine, echoes.sent_eq, events_eq]

theorem Echoes.absorb (echoes : Echoes extra plain noisy) (count : Nat) :
    Echoes extra (Consumer.absorb count plain) (Consumer.absorb count noisy) := by
  induction count generalizing plain noisy with
  | zero => exact echoes
  | succ count inductionHypothesis =>
      unfold Consumer.absorb
      rw [echoes.decoder_eq]
      split
      · exact echoes.withDecoder _
      · rename_i line decoder _
        exact inductionHypothesis ((echoes.withDecoder decoder).interpretLine line)
      · rename_i cause decoder _
        exact ((echoes.withDecoder decoder).log (.aborted cause)).failWith cause.message

theorem Echoes.reportTruncation (echoes : Echoes extra plain noisy) :
    Echoes extra plain.reportTruncation noisy.reportTruncation := by
  unfold Consumer.reportTruncation
  rw [echoes.decoder_eq]
  split
  · exact echoes
  · exact (echoes.log _).send _

theorem Echoes.apply (echoes : Echoes extra plain noisy) (operation : Operation) :
    Echoes extra (operation.apply plain) (operation.apply noisy) := by
  have same := echoes.outcome_eq
  cases outcome_eq : plain.outcome with
  | some outcome =>
      rw [outcome_eq] at same
      rw [apply_of_ended (by rw [outcome_eq]; rfl), apply_of_ended (by rw [same]; rfl)]
      exact echoes
  | none =>
      rw [outcome_eq] at same
      cases operation with
      | feed chunk =>
          rw [Operation.apply, Operation.apply, feed, feed,
            if_neg (by simp [isTerminated, outcome_eq]), if_neg (by simp [isTerminated, same]),
            echoes.decoder_eq]
          exact (echoes.withDecoder (plain.decoder.append chunk)).absorb _
      | finish =>
          rw [Operation.apply, Operation.apply, finish_of_open outcome_eq, finish_of_open same,
            echoes.rowsSeen_eq]
          exact (echoes.reportTruncation.settle _).send _
      | fail message =>
          rw [Operation.apply, Operation.apply, fail_of_open outcome_eq, fail_of_open same]
          exact (echoes.log _).failWith message
      | report message =>
          rw [Operation.apply, Operation.apply, report_of_open outcome_eq, report_of_open same]
          exact (echoes.log _).send _
      | cancel =>
          rw [Operation.apply, Operation.apply, cancel_of_open outcome_eq, cancel_of_open same]
          exact echoes.settle .cancelled

theorem Echoes.foldl_apply (echoes : Echoes extra plain noisy) (operations : List Operation) :
    Echoes extra (operations.foldl Operation.apply plain)
      (operations.foldl Operation.apply noisy) := by
  induction operations generalizing plain noisy with
  | nil => exact echoes
  | cons operation rest inductionHypothesis => exact inductionHypothesis (echoes.apply operation)

end

/-! ## One line more -/

theorem echoes_interpretLine_noise (consumer : Consumer) {line : Bytes} (noise : Noise line) :
    Echoes (.ofLine (withoutReturn line)) consumer
      (consumer.interpretLine (withoutReturn line)) := by
  obtain ⟨interpreters, silent⟩ := consumer.interpreter.echoes_noise noise
  refine ⟨?_, rfl, rfl, ?_, interpreters⟩
  · change ((Record.batchIn? (withoutReturn line)).getD []).length = 0
    rw [noise.holds_nothing.2.2]
    rfl
  · rw [sent_interpretLine, silent, List.append_nil]

def counted (limit : Nat) (before line : Bytes) : Stats :=
  if Overlong limit before ∨ withoutReturn line = [] then .zero else .ofLine (withoutReturn line)

theorem echoes_ofBody_noise {limit : Nat} {before line : Bytes} (whole : remainder before = [])
    (unbroken : Bytes.lineFeed ∉ line) (fits : (withoutReturn line).length ≤ limit)
    (noise : Noise line) :
    Echoes (counted limit before line) (ofBody limit before)
      (ofBody limit (before ++ (line ++ [Bytes.lineFeed]))) := by
  unfold counted
  by_cases overlong : Overlong limit before
  · rw [if_pos (Or.inl overlong), ofBody_append_of_overlong overlong]
    exact .refl _
  · have isOpen : (ofBody limit before).outcome = none := by rw [outcome_ofBody, if_neg overlong]
    have decoder_eq : (ofBody limit before).decoder = FrameDecoder.holding limit [] := by
      rw [ofBody_of_fits overlong, whole]
      rfl
    have sound : (ofBody limit before).decoder.Sound := FrameDecoder.sound_drained _
    have short : ¬ limit < (withoutReturn line).length := by omega
    have notOverlong : ¬ Overlong limit (line ++ [Bytes.lineFeed]) := by
      rw [Body.overlong_cons limit unbroken, Body.overlong_unbroken limit List.not_mem_nil]
      exact not_or.mpr ⟨short, Nat.not_lt_zero limit⟩
    have drained_eq : (FrameDecoder.reading limit [] (line ++ [Bytes.lineFeed])).drained =
        (ofBody limit before).decoder := by
      rw [FrameDecoder.drained_reading, List.nil_append, if_neg notOverlong, decoder_eq,
        Body.remainder_cons, Body.remainder_unbroken List.not_mem_nil]
    have nothing : Body.frames limit [] = [] := by
      rw [Body.frames_unbroken limit List.not_mem_nil]
      rfl
    rw [← feed_ofBody, feed_eq isOpen sound, decoder_eq, FrameDecoder.holding,
      FrameDecoder.append_reading, List.nil_append, FrameDecoder.upcoming_reading, drained_eq,
      List.nil_append, Body.frames_cons limit unbroken, if_neg short, nothing]
    by_cases blank : withoutReturn line = []
    · rw [if_pos blank, if_pos (Or.inr blank)]
      exact .refl _
    · rw [if_neg blank, if_neg (not_or.mpr ⟨overlong, blank⟩)]
      exact (echoes_interpretLine_noise _ noise).withDecoder _

/-- A line of noise, put in between the lines of a body, changes nothing but the counters of lines:
it counts as a line unless it is blank, or stands behind a line that was too long. -/
theorem run_noise (limit : Nat) {before line after : Bytes} {chunks noisyChunks : List Bytes}
    (whole : remainder before = []) (unbroken : Bytes.lineFeed ∉ line)
    (fits : (withoutReturn line).length ≤ limit) (noise : Noise line)
    (chunks_eq : chunks.flatten = before ++ after)
    (noisyChunks_eq : noisyChunks.flatten = before ++ (line ++ Bytes.lineFeed :: after))
    (later : List Operation) :
    let plain := run limit (chunks.map .feed ++ later)
    let noisy := run limit (noisyChunks.map .feed ++ later)
    let read := if Overlong limit before ∨ line = [] ∨ line = [Bytes.carriageReturn] then 0 else 1
    let decoded := (Record.decode? (withoutReturn line)).isSome
    noisy.sent = plain.sent ∧ noisy.outcome = plain.outcome ∧
      noisy.headerSeen = plain.headerSeen ∧
      noisy.interpreter.advertisedTotal = plain.interpreter.advertisedTotal ∧
      noisy.stats =
        { frames := plain.stats.frames + read
          records := plain.stats.records + if decoded then read else 0
          decodeFailures := plain.stats.decodeFailures + if decoded then 0 else read
          rows := plain.stats.rows
          errorRecords := plain.stats.errorRecords } := by
  intro plain noisy read decoded
  have start := echoes_ofBody_noise whole unbroken fits noise
  have fed := start.apply (.feed after)
  have shape : before ++ (line ++ [Bytes.lineFeed]) ++ after =
      before ++ (line ++ Bytes.lineFeed :: after) := by simp
  change Echoes _ ((ofBody limit before).feed after) (feed _ after) at fed
  rw [feed_ofBody, feed_ofBody, shape, ← chunks_eq, ← noisyChunks_eq] at fed
  have echoes := fed.foldl_apply later
  rw [← run_feeds, ← run_feeds] at echoes
  obtain ⟨_, _, outcome_eq, sent_eq, headerSeen_eq, advertisedTotal_eq, stats_eq⟩ := echoes
  refine ⟨sent_eq, outcome_eq, headerSeen_eq, advertisedTotal_eq, stats_eq.trans ?_⟩
  obtain ⟨noError, _, noBatch⟩ := noise.holds_nothing
  change plain.stats.add _ = _
  simp only [counted, Body.withoutReturn_eq_nil_iff, read]
  split
  · simp [Stats.add, Stats.zero]
  · simp only [Stats.add, Stats.ofLine, noError, noBatch, decoded]
    rfl

/-- A total without columns is not the total of the heading behind it. -/
theorem run_noise_totalAlone :
    let heading := Bytes.ofText "\x7b\"columns\":[]\x7d\n"
    let line := Bytes.ofText "\x7b\"total\":7\x7d\r"
    let plain := run 64 ([heading, heading].map .feed ++ [.finish])
    let noisy := run 64 ([heading ++ line, Bytes.lineFeed :: heading].map .feed ++ [.finish])
    (remainder heading = [] ∧ Bytes.lineFeed ∉ line ∧ (withoutReturn line).length ≤ 64 ∧
      Noise line) ∧ noisy.sent = plain.sent ∧ noisy.stats.frames = plain.stats.frames + 1 := by
  intro heading line plain noisy
  have whole : remainder heading = [] := by decide
  have unbroken : Bytes.lineFeed ∉ line := by decide
  have fits : (withoutReturn line).length ≤ 64 := by decide
  have noise : Noise line :=
    .idle { columns := none, rows := none, total := some 7, error := none } rfl rfl rfl rfl
  have chunks_eq : [heading, heading].flatten = heading ++ heading := rfl
  have noisyChunks_eq : [heading ++ line, Bytes.lineFeed :: heading].flatten =
      heading ++ (line ++ Bytes.lineFeed :: heading) := rfl
  obtain ⟨sent_eq, _, _, _, stats_eq⟩ :=
    run_noise 64 whole unbroken fits noise chunks_eq noisyChunks_eq [.finish]
  refine ⟨⟨whole, unbroken, fits, noise⟩, sent_eq, ?_⟩
  rw [stats_eq]
  rfl

end Consumer

end RowStream
