import RowStream.Proofs.Contents
import RowStream.Proofs.Feeding
import RowStream.Proofs.Messages
import RowStream.Proofs.WholeBody

/-!
# Records on the wire

A body of written records, each on a line of its own, is read as those records with their cells in
normal form (`run_written_lines`).  No written record has a line end in it, so that each line is one
frame, however the body is cut into chunks.
-/

set_option autoImplicit false

namespace RowStream

/-! ## Lines -/

structure Line where
  record : Record
  text : String
  isText : record.Text text
  withReturn : Bool

namespace Line

def content (line : Line) : Bytes := Bytes.ofText line.text

def marked (line : Line) : Bytes :=
  line.content ++ if line.withReturn then [Bytes.carriageReturn] else []

def bytes (line : Line) : Bytes := line.marked ++ [Bytes.lineFeed]

theorem printable_content {line : Line} (readsBack : line.record.ReadsBack) :
    Json.Printable line.content :=
  (Record.reads_text readsBack line.isText).written.printable

theorem decode?_content (line : Line) (readsBack : line.record.ReadsBack) :
    Record.decode? line.content = some line.record.norm :=
  (Record.reads_text readsBack line.isText).parse_bind

theorem content_ne_nil {line : Line} (readsBack : line.record.ReadsBack) : line.content ≠ [] := by
  intro empty
  have decoded := line.decode?_content readsBack
  rw [empty] at decoded
  cases decoded

theorem lineFeed_notMem_marked {line : Line} (readsBack : line.record.ReadsBack) :
    Bytes.lineFeed ∉ line.marked := by
  intro member
  rcases List.mem_append.mp member with inContent | inEnd
  · exact absurd (printable_content readsBack _ inContent) (by decide)
  · split at inEnd
    · exact absurd (List.mem_singleton.mp inEnd) (by decide)
    · cases inEnd

theorem withoutReturn_marked {line : Line} (readsBack : line.record.ReadsBack) :
    Body.withoutReturn line.marked = line.content := by
  unfold marked
  split
  · rw [Body.withoutReturn, List.getLast?_concat, if_pos rfl, List.dropLast_concat]
  · have noReturn : line.content.getLast? ≠ some Bytes.carriageReturn := by
      intro last
      have printable := printable_content readsBack _ (List.mem_of_getLast? last)
      exact absurd printable (by decide)
    rw [List.append_nil, Body.withoutReturn, if_neg noReturn]

end Line

namespace Body

theorem readable_lines {limit : Nat} {lines : List Line}
    (readsBack : ∀ line ∈ lines, line.record.ReadsBack)
    (fits : ∀ line ∈ lines, line.content.length ≤ limit) :
    readable limit (lines.flatMap Line.bytes) = lines.map Line.content ∧
      ¬ Overlong limit (lines.flatMap Line.bytes) ∧ remainder (lines.flatMap Line.bytes) = [] := by
  induction lines with
  | nil =>
      have unbroken : Bytes.lineFeed ∉ ([] : Bytes) := List.not_mem_nil
      refine ⟨readable_unbroken limit unbroken, ?_, remainder_unbroken unbroken⟩
      simp [List.flatMap_nil, overlong_unbroken limit unbroken, withoutReturn]
  | cons line rest inductionHypothesis =>
      obtain ⟨readRest, fitsRest, nothingLeft⟩ := inductionHypothesis
        (fun other member => readsBack other (List.mem_cons_of_mem line member))
        (fun other member => fits other (List.mem_cons_of_mem line member))
      have lineReadsBack := readsBack line List.mem_cons_self
      have unbroken := Line.lineFeed_notMem_marked lineReadsBack
      have content_eq := Line.withoutReturn_marked lineReadsBack
      have notBlank := Line.content_ne_nil lineReadsBack
      have short : ¬ limit < line.content.length := Nat.not_lt.mpr (fits line List.mem_cons_self)
      have body_eq : (line :: rest).flatMap Line.bytes =
          line.marked ++ Bytes.lineFeed :: rest.flatMap Line.bytes := by
        simp [Line.bytes]
      rw [body_eq]
      refine ⟨?_, ?_, ?_⟩
      · rw [readable_cons limit unbroken, content_eq, if_neg short, if_neg notBlank, readRest]
        rfl
      · rw [overlong_cons limit unbroken, content_eq]
        simp [short, fitsRest]
      · rw [remainder_cons, nothingLeft]

end Body

/-! ## Records -/

namespace Interpreter

def receive (interpreter : Interpreter) (record : Record) : Interpreter × Emission :=
  let stats := interpreter.stats
  { interpreter with
    stats := { stats with frames := stats.frames + 1, records := stats.records + 1 } }.dispatch
      record

def receiveAll : Interpreter → List Record → Interpreter × Emission
  | interpreter, [] => (interpreter, .none)
  | interpreter, record :: rest =>
      let (next, emission) := interpreter.receive record
      let (last, later) := receiveAll next rest
      (last, emission ++ later)

/-- Lines that are all decoded are received as the records that they are. -/
theorem interpretAll_eq_receiveAll {α : Type} {lines : List α} {content : α → Bytes}
    {record : α → Record}
    (decoded : ∀ line ∈ lines, Record.decode? (content line) = some (record line))
    (interpreter : Interpreter) :
    interpreter.interpretAll (lines.map content) = interpreter.receiveAll (lines.map record) := by
  induction lines generalizing interpreter with
  | nil => rfl
  | cons line rest inductionHypothesis =>
      have received : interpreter.interpret (content line) = interpreter.receive (record line) := by
        rw [interpret, decoded line List.mem_cons_self]
        rfl
      have later := inductionHypothesis fun other member =>
        decoded other (List.mem_cons_of_mem line member)
      simp only [List.map_cons, interpretAll, receiveAll, received, later]

theorem counters_dispatch (interpreter : Interpreter) (record : Record) :
    (interpreter.dispatch record).1.stats.frames = interpreter.stats.frames ∧
      (interpreter.dispatch record).1.stats.records = interpreter.stats.records ∧
      (interpreter.dispatch record).1.stats.decodeFailures = interpreter.stats.decodeFailures := by
  rw [stats_dispatch]
  exact ⟨rfl, rfl, rfl⟩

theorem counters_receive (interpreter : Interpreter) (record : Record) :
    (interpreter.receive record).1.stats.frames = interpreter.stats.frames + 1 ∧
      (interpreter.receive record).1.stats.records = interpreter.stats.records + 1 ∧
      (interpreter.receive record).1.stats.decodeFailures = interpreter.stats.decodeFailures :=
  counters_dispatch _ record

theorem counters_receiveAll (interpreter : Interpreter) (records : List Record) :
    (interpreter.receiveAll records).1.stats.frames =
        interpreter.stats.frames + records.length ∧
      (interpreter.receiveAll records).1.stats.records =
        interpreter.stats.records + records.length ∧
      (interpreter.receiveAll records).1.stats.decodeFailures =
        interpreter.stats.decodeFailures := by
  induction records generalizing interpreter with
  | nil => exact ⟨rfl, rfl, rfl⟩
  | cons record rest inductionHypothesis =>
      obtain ⟨frames, recordsRead, failures⟩ := inductionHypothesis (interpreter.receive record).1
      obtain ⟨framesNow, recordsNow, failuresNow⟩ := counters_receive interpreter record
      simp only [receiveAll, List.length_cons]
      omega

end Interpreter

/-! ## The consumer -/

namespace Consumer

structure Received (records : List Record) (consumer : Consumer) : Prop where
  outcome_eq : consumer.outcome = none
  buffered_eq : consumer.buffered = 0
  frames_eq : consumer.stats.frames = records.length
  records_eq : consumer.stats.records = records.length
  decodeFailures_eq : consumer.stats.decodeFailures = 0
  interpreter_eq : consumer.interpreter = (Interpreter.new.receiveAll records).1
  sent_eq : consumer.sent = (Interpreter.new.receiveAll records).2.events

theorem received_run_feeds {lines : List Line} (readsBack : ∀ line ∈ lines, line.record.ReadsBack)
    {limit : Nat} (fits : ∀ line ∈ lines, line.content.length ≤ limit) {chunks : List Bytes}
    (cut : chunks.flatten = lines.flatMap Line.bytes) :
    Received (lines.map (·.record.norm)) (run limit (chunks.map .feed)) := by
  obtain ⟨readable_eq, fitting, nothingLeft⟩ := Body.readable_lines readsBack fits
  have decoded : ∀ line ∈ lines, Record.decode? line.content = some line.record.norm := by
    intro line member
    exact line.decode?_content (readsBack line member)
  have read_eq := Interpreter.interpretAll_eq_receiveAll decoded Interpreter.new
  obtain ⟨frames, recordsRead, failures⟩ :=
    Interpreter.counters_receiveAll Interpreter.new (lines.map (·.record.norm))
  have consumer_eq : run limit (chunks.map .feed) =
      (readThrough limit (lines.flatMap Line.bytes)).withDecoder
        (FrameDecoder.holding limit []) := by
    rw [run_map_feed, foldl_feed_new, cut, ofBody_of_fits fitting, nothingLeft]
  have interpreter_eq : (run limit (chunks.map .feed)).interpreter =
      (Interpreter.new.receiveAll (lines.map (·.record.norm))).1 := by
    rw [consumer_eq, ← read_eq, ← readable_eq]
    exact interpreter_foldl_interpretLine _ (new limit)
  refine ⟨?_, ?_, ?_, ?_, ?_, interpreter_eq, ?_⟩
  · rw [run_map_feed, foldl_feed_new, cut, outcome_ofBody, if_neg fitting]
  · rw [consumer_eq]
    rfl
  · rw [stats, interpreter_eq, frames]
    exact Nat.zero_add _
  · rw [stats, interpreter_eq, recordsRead]
    exact Nat.zero_add _
  · rw [stats, interpreter_eq, failures]
    rfl
  · rw [consumer_eq, ← read_eq, ← readable_eq]
    exact sent_foldl_interpretLine _ (new limit)

/-- Written records are received with their cells in normal form, which no cell that was read ever
leaves; columns and query requests are read back as they are. -/
theorem run_written_lines {lines : List Line}
    (readsBack : ∀ line ∈ lines, line.record.ReadsBack) {limit : Nat}
    (fits : ∀ line ∈ lines, line.content.length ≤ limit) {chunks : List Bytes}
    (cut : chunks.flatten = lines.flatMap Line.bytes) :
    (∀ line ∈ lines, Record.decode? line.content = some line.record.norm) ∧
      Received (lines.map (·.record.norm)) (run limit (chunks.map .feed)) ∧
      (∀ json cell, Cell.ofJson? json = some cell → cell.norm = cell) ∧
      (∀ column : Column,
        (Json.parse? (Bytes.ofText column.toJson)).bind Column.ofJson? = some column) ∧
      ∀ request : QueryRequest,
        QueryRequest.decode? (Bytes.ofText request.toJson) = some request := by
  refine ⟨?_, received_run_feeds readsBack fits cut, ?_, ?_, ?_⟩
  · intro line member
    exact line.decode?_content (readsBack line member)
  · intro json cell read
    exact Cell.norm_of_ofJson? read
  · intro column
    exact column.reads_toJson.parse_bind
  · intro request
    exact request.reads_toJson.parse_bind

/-- A line with a carriage return at its end, which is exactly as long as is allowed and is cut
behind the point of its only cell. -/
theorem run_written_lines_half :
    ∃ line : Line, line.record.rows = some [[.float 0.5]] ∧ line.withReturn = true ∧
      Received [line.record.norm]
        (run 29 [.feed (Bytes.ofText "\x7b\"total\":null,\"rows\":[[0."),
          .feed (Bytes.ofText "5]]\x7d\r\n")]) := by
  let line : Line :=
    { record := { columns := none, rows := some [[.float 0.5]], total := none, error := none }
      text := Json.objectText [("total", "null"),
        ("rows", Json.arrayText [Json.arrayText [Cell.toJson (.float 0.5)]])]
      isText := .object (fun name => name = "total") _ (List.Perm.swap _ _ _)
      withReturn := true }
  have readsBack : ∀ other ∈ [line], other.record.ReadsBack := by
    intro other member rows isRows row isRow cell isCell
    obtain rfl := List.mem_singleton.mp member
    cases isRows
    obtain rfl := List.mem_singleton.mp isRow
    obtain rfl := List.mem_singleton.mp isCell
    intro finite
    unfold Json.ReadsBack
    decide +kernel
  have fits : ∀ other ∈ [line], other.content.length ≤ 29 := by
    decide +kernel
  have cut : [Bytes.ofText "\x7b\"total\":null,\"rows\":[[0.",
      Bytes.ofText "5]]\x7d\r\n"].flatten = [line].flatMap Line.bytes := by
    decide +kernel
  exact ⟨line, rfl, rfl, (run_written_lines readsBack fits cut).2.1⟩

end Consumer

end RowStream
