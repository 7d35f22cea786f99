import RowStream.Proofs.Decoder

/-!
# Where a search for a line feed is resumed

A decoder keeps the bytes that wait in one buffer and remembers how many at its front were searched
without success; the next search starts behind that mark.  `Marked` is that buffer with every
access checked: a slice that reaches beyond the end and a difference below zero give no result.
`shortens_turn` says that a search that goes on has fewer bytes left, so that it ends, and
`pull?_marked` that a decoder finds what the marked buffer finds.

What this needs is that no line feed stands in front of the mark.  It stays so however a decoder is
fed, pulled from and finished (`Sound.operate`), and then every access is in range and the mark
makes no difference to what comes out (`operateAll_marks`).
-/

set_option autoImplicit false

namespace RowStream.FrameDecoder

open Body (withoutReturn)

/-! ## A buffer with a mark -/

/-- The bytes that wait, in order of arrival, and how many at their front have been searched. -/
structure Marked where
  limit : Nat
  buffer : Bytes
  mark : Nat
  poisoned : Bool

def marked (decoder : FrameDecoder) : Marked :=
  { limit := decoder.limit, buffer := decoder.waiting, mark := decoder.scanned
    poisoned := decoder.poisoned }

namespace Marked

def behind? (count : Nat) (bytes : Bytes) : Option Bytes :=
  if count ≤ bytes.length then some (bytes.drop count) else none

def front? (count : Nat) (bytes : Bytes) : Option Bytes :=
  if count ≤ bytes.length then some (bytes.take count) else none

def minus? (larger smaller : Nat) : Option Nat :=
  if smaller ≤ larger then some (larger - smaller) else none

def lengthWithoutReturn? (length : Nat) (bytes : Bytes) : Option Nat :=
  minus? length (if bytes.getLast? = some Bytes.carriageReturn then 1 else 0)

def new (limit : Nat) : Marked := { limit, buffer := [], mark := 0, poisoned := false }

def poison (limit : Nat) : Marked := { new limit with poisoned := true }

/-- What one search comes to: a pull ends with it, or a blank line was taken out of the buffer and
the pull goes on. -/
inductive Turn where
  | ends (frame : Option Frame) (next : Marked)
  | blank (next : Marked)

def complete (state : Marked) (line rest : Bytes) : Turn :=
  if state.limit < line.length then
    .ends (some (.error (.lineTooLong state.limit))) (poison state.limit)
  else if line = [] then .blank { state with buffer := rest, mark := 0 }
  else .ends (some (.ok line)) { state with buffer := rest, mark := 0 }

def incomplete (state : Marked) (length : Nat) : Turn :=
  if state.limit < length then
    .ends (some (.error (.lineTooLong state.limit))) (poison state.limit)
  else .ends none { state with mark := state.buffer.length }

def takeLine? (state : Marked) (place : Nat) : Option Turn := do
  let taken ← front? (place + 1) state.buffer
  let rest ← behind? (place + 1) state.buffer
  let length ← lengthWithoutReturn? place (taken.take place)
  some (state.complete ((taken.take place).take length) rest)

def keepLine? (state : Marked) : Option Turn := do
  let length ← lengthWithoutReturn? state.buffer.length state.buffer
  some (state.incomplete length)

def turn? (state : Marked) : Option Turn :=
  if state.poisoned then some (.ends none state)
  else do
    let unread ← behind? state.mark state.buffer
    match unread.idxOf? Bytes.lineFeed with
    | some offset => state.takeLine? (state.mark + offset)
    | none => state.keepLine?

/-- Everything but the end of the frames leaves fewer bytes than there were. -/
def Turn.Shortens (length : Nat) : Turn → Prop
  | .ends none _ => True
  | .ends (some _) next => next.buffer.length < length
  | .blank next => next.buffer.length < length

theorem length_of_behind? {count : Nat} {bytes rest : Bytes}
    (behind : behind? count bytes = some rest) : rest.length + count = bytes.length := by
  unfold behind? at behind
  split at behind
  · cases behind
    rw [List.length_drop]
    omega
  · cases behind

theorem le_of_minus? {larger smaller difference : Nat}
    (rest : minus? larger smaller = some difference) : difference ≤ larger := by
  unfold minus? at rest
  split at rest
  · cases rest
    exact Nat.sub_le larger smaller
  · cases rest

theorem shortens_complete {state : Marked} (line : Bytes) {rest : Bytes}
    (shorter : rest.length < state.buffer.length) :
    (state.complete line rest).Shortens state.buffer.length := by
  have positive : 0 < state.buffer.length := by omega
  unfold complete
  split
  · exact positive
  · split
    · exact shorter
    · exact shorter

theorem shortens_incomplete {state : Marked} {length : Nat}
    (atMost : length ≤ state.buffer.length) :
    (state.incomplete length).Shortens state.buffer.length := by
  unfold incomplete
  split
  · have positive : 0 < state.buffer.length := by omega
    exact positive
  · trivial

theorem shortens_takeLine {state : Marked} {place : Nat} {turn : Turn}
    (taken : state.takeLine? place = some turn) : turn.Shortens state.buffer.length := by
  obtain ⟨line, _, taken⟩ := Option.bind_eq_some_iff.mp taken
  obtain ⟨rest, behind, taken⟩ := Option.bind_eq_some_iff.mp taken
  obtain ⟨length, _, taken⟩ := Option.bind_eq_some_iff.mp taken
  have split := length_of_behind? behind
  cases taken
  exact shortens_complete _ (by omega)

theorem shortens_keepLine {state : Marked} {turn : Turn}
    (kept : state.keepLine? = some turn) : turn.Shortens state.buffer.length := by
  obtain ⟨length, counted, kept⟩ := Option.bind_eq_some_iff.mp kept
  cases kept
  exact shortens_incomplete (le_of_minus? counted)

theorem shortens_turn {state : Marked} {turn : Turn} (turn_eq : state.turn? = some turn) :
    turn.Shortens state.buffer.length := by
  unfold turn? at turn_eq
  split at turn_eq
  · cases turn_eq
    trivial
  · obtain ⟨unread, _, turn_eq⟩ := Option.bind_eq_some_iff.mp turn_eq
    split at turn_eq
    · exact shortens_takeLine turn_eq
    · exact shortens_keepLine turn_eq

def pull? (state : Marked) : Option (Option Frame × Marked) :=
  match _ : state.turn? with
  | none => none
  | some (.ends frame next) => some (frame, next)
  | some (.blank next) => next.pull?
termination_by state.buffer.length
decreasing_by exact shortens_turn (by assumption)

theorem pull?_of_ends {state next : Marked} {frame : Option Frame}
    (turn_eq : state.turn? = some (.ends frame next)) : state.pull? = some (frame, next) := by
  rw [pull?]
  split
  · rename_i stuck
    cases stuck.symm.trans turn_eq
  · rename_i ends
    cases ends.symm.trans turn_eq
    rfl
  · rename_i goesOn
    cases goesOn.symm.trans turn_eq

theorem pull?_of_blank {state next : Marked} (turn_eq : state.turn? = some (.blank next)) :
    state.pull? = next.pull? := by
  rw [pull?]
  split
  · rename_i stuck
    cases stuck.symm.trans turn_eq
  · rename_i ends
    cases ends.symm.trans turn_eq
  · rename_i goesOn
    cases goesOn.symm.trans turn_eq
    rfl

theorem shortens_pull {state next : Marked} {frame : Option Frame}
    (pulled : state.pull? = some (frame, next)) :
    frame = none ∨ next.buffer.length < state.buffer.length := by
  induction state using pull?.induct with
  | case1 state stuck =>
      rw [pull?] at pulled
      split at pulled
      · cases pulled
      · rename_i ends
        cases stuck.symm.trans ends
      · rename_i goesOn
        cases stuck.symm.trans goesOn
  | case2 state found last turn_eq =>
      have shorter := shortens_turn turn_eq
      rw [pull?_of_ends turn_eq] at pulled
      cases pulled
      cases frame with
      | none => exact Or.inl rfl
      | some frame => exact Or.inr shorter
  | case3 state rest turn_eq inductionHypothesis =>
      have shorter : rest.buffer.length < state.buffer.length := shortens_turn turn_eq
      rw [pull?_of_blank turn_eq] at pulled
      rcases inductionHypothesis pulled with none | shorterStill
      · exact Or.inl none
      · exact Or.inr (by omega)

end Marked

/-! ## A decoder is such a buffer -/

namespace Marked

theorem lengthWithoutReturn?_eq (line : Bytes) :
    lengthWithoutReturn? line.length line = some (withoutReturn line).length := by
  unfold lengthWithoutReturn? withoutReturn minus?
  by_cases ends : line.getLast? = some Bytes.carriageReturn
  · have notEmpty : line ≠ [] := fun empty => by simp [empty] at ends
    have atLeast : 1 ≤ line.length := List.length_pos_iff.mpr notEmpty
    rw [if_pos ends, if_pos ends, if_pos atLeast, List.length_dropLast]
  · rw [if_neg ends, if_neg ends, if_pos (Nat.zero_le _), Nat.sub_zero]

theorem take_length_withoutReturn (line : Bytes) :
    line.take (withoutReturn line).length = withoutReturn line := by
  unfold withoutReturn
  split
  · rw [List.length_dropLast, List.dropLast_eq_take]
  · exact List.take_length

theorem idxOf?_lineFeed {first : Bytes} (unbroken : Bytes.lineFeed ∉ first) (rest : Bytes) :
    (first ++ Bytes.lineFeed :: rest).idxOf? Bytes.lineFeed = some first.length := by
  have within : first.length < (first ++ Bytes.lineFeed :: rest).length := by simp
  rw [List.idxOf?_eq_some_iff]
  refine ⟨within, by simp, fun earlier before found => ?_⟩
  rw [List.getElem_append_left before] at found
  exact unbroken (found ▸ List.getElem_mem before)

theorem behind?_append (before after : Bytes) :
    behind? before.length (before ++ after) = some after := by
  rw [behind?, List.drop_left]
  exact if_pos (by simp)

theorem front?_append (before after : Bytes) :
    front? before.length (before ++ after) = some before := by
  rw [front?, List.take_left]
  exact if_pos (by simp)

end Marked

theorem marked_reading (limit : Nat) (part unread : Bytes) :
    (reading limit part unread).marked =
      { limit, buffer := part ++ unread, mark := part.length, poisoned := false } := by
  rw [marked, waiting_reading]
  rfl

theorem turn?_unfinished (limit : Nat) (part : Bytes) {last : Bytes}
    (unbroken : Bytes.lineFeed ∉ last) :
    (reading limit part last).marked.turn? =
      some ((reading limit part last).marked.incomplete (withoutReturn (part ++ last)).length) := by
  have nowhere := List.idxOf?_eq_none_iff.mpr unbroken
  rw [marked_reading]
  simp only [Marked.turn?, Marked.keepLine?, Marked.behind?_append, nowhere,
    Marked.lengthWithoutReturn?_eq, Option.bind_eq_bind, Option.bind_some, Bool.false_eq_true,
    if_false]

theorem turn?_line (limit : Nat) (part : Bytes) {first : Bytes} (unbroken : Bytes.lineFeed ∉ first)
    (rest : Bytes) :
    (reading limit part (first ++ Bytes.lineFeed :: rest)).marked.turn? =
      some ((reading limit part (first ++ Bytes.lineFeed :: rest)).marked.complete
        (withoutReturn (part ++ first)) rest) := by
  have found := Marked.idxOf?_lineFeed unbroken rest
  have place : part.length + first.length = (part ++ first).length := List.length_append.symm
  have through : (part ++ first).length + 1 = (part ++ first ++ [Bytes.lineFeed]).length := by
    simp only [List.length_append, List.length_singleton]
  have whole : part ++ (first ++ Bytes.lineFeed :: rest) =
      part ++ first ++ [Bytes.lineFeed] ++ rest := by simp
  rw [marked_reading]
  simp only [Marked.turn?, Marked.behind?_append, found, Option.bind_eq_bind, Option.bind_some,
    Bool.false_eq_true, if_false, Marked.takeLine?, place]
  rw [whole, through]
  simp only [Marked.front?_append, Marked.behind?_append, Option.bind_some, List.take_left,
    Marked.lengthWithoutReturn?_eq, Marked.take_length_withoutReturn]

theorem pull?_reading (limit : Nat) (part unread : Bytes) :
    (reading limit part unread).marked.pull? =
      some ((scan limit part.reverse part.length unread).1,
        (scan limit part.reverse part.length unread).2.marked) := by
  induction unread using Body.lineInduction generalizing part with
  | unfinished last unbroken =>
      have turn_eq := turn?_unfinished limit part unbroken
      have scanned := scan_append limit part unbroken []
      rw [List.append_nil, scan_nil] at scanned
      rw [marked_reading, Marked.incomplete] at turn_eq
      rw [scanned, marked_reading]
      split at turn_eq
      · rename_i tooLong
        rw [if_pos tooLong]
        exact Marked.pull?_of_ends turn_eq
      · rename_i fits
        rw [if_neg fits, holding, marked_reading, List.append_nil]
        exact Marked.pull?_of_ends turn_eq
  | line first rest unbroken inductionHypothesis =>
      have turn_eq := turn?_line limit part unbroken rest
      rw [marked_reading, Marked.complete] at turn_eq
      rw [scan_append limit part unbroken, scan_lineFeed, marked_reading]
      split at turn_eq
      · rename_i tooLong
        rw [if_pos tooLong]
        exact Marked.pull?_of_ends turn_eq
      · rename_i fits
        rw [if_neg fits]
        split at turn_eq
        · rename_i blank
          have next := inductionHypothesis []
          rw [marked_reading] at next
          rw [if_pos blank, Marked.pull?_of_blank turn_eq]
          exact next
        · rename_i notBlank
          rw [if_neg notBlank, marked_reading]
          exact Marked.pull?_of_ends turn_eq

/-- A search that starts anywhere in front of the mark finds the same. -/
theorem pull?_of_mark_le {decoder : FrameDecoder} (sound : decoder.Sound) {mark : Nat}
    (before : mark ≤ decoder.scanned) :
    { decoder.marked with mark }.pull? = some (decoder.pull.1, decoder.pull.2.marked) := by
  cases sound with
  | reading limit part unread unbroken =>
      have marked_eq : { (reading limit part unread).marked with mark } =
          (reading limit (part.take mark) (part.drop mark ++ unread)).marked := by
        have within : mark ≤ part.length := before
        simp only [marked_reading, ← List.append_assoc, List.take_append_drop,
          List.length_take_of_le within]
      have othersUnbroken : Bytes.lineFeed ∉ part.drop mark :=
        fun member => unbroken (List.drop_subset mark part member)
      rw [marked_eq, pull?_reading, scan_append _ _ othersUnbroken, List.take_append_drop]
      rfl
  | poison limit =>
      have start : mark = 0 := Nat.le_zero.mp before
      rw [start]
      exact Marked.pull?_of_ends rfl

theorem pull?_marked {decoder : FrameDecoder} (sound : decoder.Sound) :
    decoder.marked.pull? = some (decoder.pull.1, decoder.pull.2.marked) :=
  pull?_of_mark_le sound (Nat.le_refl decoder.scanned)

/-- Behind the mark it is another matter: past a line feed, two lines would be taken for one. -/
example : Marked.turn?
      { limit := 9, buffer := [0x61, 0x0a, 0x62, 0x0a], mark := 2, poisoned := false } =
    some (.ends (some (.ok [0x61, 0x0a, 0x62])) (Marked.new 9)) := rfl

/-! ## Operations in any order -/

inductive Operation where
  | feed (chunk : Bytes)
  | pull
  | finish

inductive Answer where
  | fed
  | pulled (frame : Option Frame)
  | finished (discarded : Option Nat)

def operate (decoder : FrameDecoder) : Operation → Answer × FrameDecoder
  | .feed chunk => (.fed, decoder.append chunk)
  | .pull => (.pulled decoder.pull.1, decoder.pull.2)
  | .finish => (.finished decoder.finish.1, decoder.finish.2)

def operateAll (decoder : FrameDecoder) : List Operation → List Answer × FrameDecoder
  | [] => ([], decoder)
  | operation :: rest =>
      let (answer, next) := decoder.operate operation
      let (answers, last) := next.operateAll rest
      (answer :: answers, last)

namespace Marked

def feed (state : Marked) (chunk : Bytes) : Marked :=
  if state.poisoned then state else { state with buffer := state.buffer ++ chunk }

def finish (state : Marked) : Option Nat × Marked :=
  (if 0 < state.buffer.length ∧ state.poisoned = false then some state.buffer.length else none,
    { state with buffer := [], mark := 0 })

def operate? (state : Marked) : Operation → Option (Answer × Marked)
  | .feed chunk => some (.fed, state.feed chunk)
  | .pull => do
      let (frame, next) ← state.pull?
      some (.pulled frame, next)
  | .finish => some (.finished state.finish.1, state.finish.2)

def operateAll? (state : Marked) : List Operation → Option (List Answer × Marked)
  | [] => some ([], state)
  | operation :: rest => do
      let (answer, next) ← state.operate? operation
      let (answers, last) ← next.operateAll? rest
      some (answer :: answers, last)

end Marked

/-! ## What holds in between -/

theorem lineFeed_notMem_scanned {decoder : FrameDecoder} (sound : decoder.Sound) :
    Bytes.lineFeed ∉ decoder.waiting.take decoder.scanned := by
  cases sound with
  | reading limit part unread unbroken =>
      have front : (part ++ unread).take (reading limit part unread).scanned = part := List.take_left
      rw [waiting_reading, front]
      exact unbroken
  | poison limit => exact List.not_mem_nil

theorem nothing_of_poisoned {decoder : FrameDecoder} (sound : decoder.Sound)
    (poisoned : decoder.poisoned = true) : decoder.waiting = [] ∧ decoder.scanned = 0 := by
  cases sound with
  | reading limit part unread unbroken => cases poisoned
  | poison limit => exact ⟨rfl, rfl⟩

theorem Sound.operate {decoder : FrameDecoder} (sound : decoder.Sound) (operation : Operation) :
    (decoder.operate operation).2.Sound := by
  cases operation with
  | feed chunk => exact sound.append chunk
  | pull => exact sound.pull
  | finish => exact sound.finish

theorem marked_append {decoder : FrameDecoder} (sound : decoder.Sound) (chunk : Bytes) :
    (decoder.append chunk).marked = decoder.marked.feed chunk := by
  cases sound with
  | reading limit part unread unbroken =>
      rw [append_reading, marked_reading, marked_reading, ← List.append_assoc]
      rfl
  | poison limit => rfl

theorem marked_finish {decoder : FrameDecoder} (sound : decoder.Sound) :
    decoder.marked.finish = (decoder.finish.1, decoder.finish.2.marked) := by
  rw [finish_of_sound sound, rest_finish, buffered_eq sound]
  cases sound with
  | reading limit part unread unbroken =>
      rw [waiting_reading, marked_reading]
      by_cases empty : (part ++ unread).length = 0
      · simp only [Marked.finish, empty]
        rfl
      · have positive := Nat.pos_of_ne_zero empty
        simp only [Marked.finish, positive, empty]
        rfl
  | poison limit => rfl

theorem operate?_marked {decoder : FrameDecoder} (sound : decoder.Sound) (operation : Operation) :
    decoder.marked.operate? operation =
      some ((decoder.operate operation).1, (decoder.operate operation).2.marked) := by
  cases operation with
  | feed chunk =>
      rw [Marked.operate?, ← marked_append sound]
      rfl
  | pull =>
      rw [Marked.operate?, pull?_marked sound]
      rfl
  | finish =>
      rw [Marked.operate?, marked_finish sound]
      rfl

theorem Sound.operateAll {decoder : FrameDecoder} (sound : decoder.Sound)
    (operations : List Operation) : (decoder.operateAll operations).2.Sound := by
  induction operations generalizing decoder with
  | nil => exact sound
  | cons operation rest inductionHypothesis => exact inductionHypothesis (sound.operate operation)

theorem operateAll?_marked {decoder : FrameDecoder} (sound : decoder.Sound)
    (operations : List Operation) :
    decoder.marked.operateAll? operations =
      some ((decoder.operateAll operations).1, (decoder.operateAll operations).2.marked) := by
  induction operations generalizing decoder with
  | nil => rfl
  | cons operation rest inductionHypothesis =>
      have later := inductionHypothesis (sound.operate operation)
      simp only [Marked.operateAll?, operate?_marked sound, Option.bind_eq_bind, Option.bind_some,
        later]
      rfl

/-- However a decoder is fed, pulled from and finished, no line feed stands in front of its mark,
which lies within the buffer, and a decoder that gave up holds nothing.  So no access to the buffer
is ever out of range, a pull that yields something leaves fewer bytes, and it makes no difference
to a pull whether its search starts at the mark or anywhere in front of it. -/
theorem operateAll_marks (limit : Nat) (operations : List Operation) :
    let reached := (new limit).operateAll operations
    let decoder := reached.2
    decoder.scanned ≤ decoder.waiting.length ∧ decoder.buffered = decoder.waiting.length ∧
      Bytes.lineFeed ∉ decoder.waiting.take decoder.scanned ∧
      (decoder.poisoned = true → decoder.waiting = [] ∧ decoder.scanned = 0) ∧
      (Marked.new limit).operateAll? operations = some (reached.1, decoder.marked) ∧
      (decoder.pull.1 = none ∨ decoder.pull.2.waiting.length < decoder.waiting.length) ∧
      ∀ mark ≤ decoder.scanned,
        { decoder.marked with mark }.pull? = some (decoder.pull.1, decoder.pull.2.marked) := by
  intro reached decoder
  have sound : decoder.Sound := (sound_new limit).operateAll operations
  have performed := operateAll?_marked (sound_new limit) operations
  have within : decoder.scanned ≤ decoder.waiting.length := by
    rw [← buffered_eq sound]
    exact Nat.le_add_right _ _
  refine ⟨within, buffered_eq sound, lineFeed_notMem_scanned sound, nothing_of_poisoned sound,
    performed, Marked.shortens_pull (pull?_marked sound), ?_⟩
  intro mark before
  exact pull?_of_mark_le sound before

end RowStream.FrameDecoder
