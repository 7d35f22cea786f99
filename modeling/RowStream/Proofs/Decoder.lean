import RowStream.Proofs.Body

/-!
# What a decoder yields

A decoder in any state it can reach has frames to come, `upcoming`, which depend on the bytes that
wait and on nothing else.  `pull_cases` says all that one pull can do: there is nothing to come
and the unfinished line is kept, a line is too long and the decoder gives up, or the first frame
comes out and the others are still to come.
-/

set_option autoImplicit false

namespace RowStream.FrameDecoder

open Body (withoutReturn remainder frames Overlong)

/-! ## States -/

/-- A decoder that looked at the bytes `part` of a line and has others to look at. -/
def reading (limit : Nat) (part unread : Bytes) : FrameDecoder :=
  { new limit with held := part.reverse, scanned := part.length, unread }

def holding (limit : Nat) (part : Bytes) : FrameDecoder := reading limit part []

/-- What holds of a decoder from its first chunk to its last. -/
inductive Sound : FrameDecoder → Prop where
  | reading (limit : Nat) (part unread : Bytes) (unbroken : Bytes.lineFeed ∉ part) :
      Sound (reading limit part unread)
  | poison (limit : Nat) : Sound (poison limit)

/-- The frames to come, if all of them are pulled before the next chunk. -/
def upcoming (decoder : FrameDecoder) : List Frame :=
  if decoder.poisoned then [] else frames decoder.limit decoder.waiting

def drained (decoder : FrameDecoder) : FrameDecoder :=
  if decoder.poisoned ∨ Overlong decoder.limit decoder.waiting then poison decoder.limit
  else holding decoder.limit (remainder decoder.waiting)

@[simp] theorem waiting_reading (limit : Nat) (part unread : Bytes) :
    (reading limit part unread).waiting = part ++ unread := by
  simp [reading, waiting]

@[simp] theorem upcoming_reading (limit : Nat) (part unread : Bytes) :
    (reading limit part unread).upcoming = frames limit (part ++ unread) := by
  rw [upcoming, waiting_reading]
  rfl

@[simp] theorem drained_reading (limit : Nat) (part unread : Bytes) :
    (reading limit part unread).drained =
      if Overlong limit (part ++ unread) then poison limit
      else holding limit (remainder (part ++ unread)) := by
  rw [drained, waiting_reading]
  simp only [reading, new, Bool.false_eq_true, false_or]

@[simp] theorem append_reading (limit : Nat) (part unread chunk : Bytes) :
    (reading limit part unread).append chunk = reading limit part (unread ++ chunk) := rfl

theorem drained_poison (limit : Nat) : (poison limit).drained = poison limit := by
  simp [drained, poison, new]

theorem finish_holding (limit : Nat) (part : Bytes) :
    (holding limit part).finish.1 = if part = [] then none else some part.length := by
  have waits : (holding limit part).buffered = part.length := rfl
  have healthy : (holding limit part).poisoned = false := rfl
  simp only [finish, waits, healthy, Bool.or_false, decide_eq_true_eq, List.length_eq_zero_iff]
  split <;> rfl

theorem rest_finish (decoder : FrameDecoder) :
    decoder.finish.2 = { decoder with held := [], scanned := 0, unread := [] } := by
  unfold finish
  split <;> rfl

theorem finish_of_sound {decoder : FrameDecoder} (sound : decoder.Sound) :
    decoder.finish.1 = if decoder.buffered = 0 then none else some decoder.buffered := by
  cases sound with
  | poison limit => rfl
  | reading limit part unread unbroken =>
      have healthy : (reading limit part unread).poisoned = false := rfl
      simp only [finish, healthy, Bool.or_false, decide_eq_true_eq]
      split <;> rfl

theorem sound_new (limit : Nat) : (new limit).Sound := .reading limit [] [] (by simp)

theorem Sound.append {decoder : FrameDecoder} (sound : decoder.Sound) (chunk : Bytes) :
    (decoder.append chunk).Sound := by
  cases sound with
  | reading limit part unread unbroken => exact .reading limit part (unread ++ chunk) unbroken
  | poison limit => exact .poison limit

theorem Sound.finish {decoder : FrameDecoder} (sound : decoder.Sound) : decoder.finish.2.Sound := by
  rw [rest_finish]
  cases sound with
  | reading limit part unread unbroken => exact sound_new limit
  | poison limit => exact .poison limit

theorem sound_drained (decoder : FrameDecoder) : decoder.drained.Sound := by
  unfold drained
  split
  · exact .poison decoder.limit
  · exact .reading decoder.limit _ [] (Body.lineFeed_notMem_remainder decoder.waiting)

theorem buffered_eq {decoder : FrameDecoder} (sound : decoder.Sound) :
    decoder.buffered = decoder.waiting.length := by
  cases sound with
  | reading limit part unread unbroken =>
      rw [waiting_reading, List.length_append]
      rfl
  | poison limit => rfl

@[simp] theorem limit_drained (decoder : FrameDecoder) : decoder.drained.limit = decoder.limit := by
  unfold drained
  split <;> rfl

@[simp] theorem limit_append (decoder : FrameDecoder) (chunk : Bytes) :
    (decoder.append chunk).limit = decoder.limit := by
  unfold append
  split <;> rfl

theorem exists_upcoming_eq (decoder : FrameDecoder) :
    ∃ lines : List Bytes, decoder.upcoming = lines.map .ok ∨
      decoder.upcoming = lines.map .ok ++ [.error (.lineTooLong decoder.limit)] ∧
        decoder.drained = poison decoder.limit := by
  unfold upcoming drained
  by_cases poisoned : decoder.poisoned
  · rw [if_pos poisoned]
    exact ⟨[], Or.inl rfl⟩
  · rw [if_neg poisoned, frames]
    refine ⟨Body.readable decoder.limit decoder.waiting, ?_⟩
    by_cases overlong : Overlong decoder.limit decoder.waiting
    · rw [if_pos overlong, if_pos (Or.inr overlong)]
      exact Or.inr ⟨rfl, rfl⟩
    · rw [if_neg overlong]
      exact Or.inl (List.append_nil _)

/-! ## One scan -/

theorem endsInReturn_reverse (part : Bytes) :
    endsInReturn part.reverse = decide (part.getLast? = some Bytes.carriageReturn) := by
  simp [endsInReturn]

theorem lineLength_reverse (part : Bytes) :
    lineLength part.reverse part.length = (withoutReturn part).length := by
  simp only [lineLength, endsInReturn_reverse, decide_eq_true_eq, withoutReturn]
  split <;> simp

theorem line_reverse (part : Bytes) : line part.reverse = withoutReturn part := by
  simp only [line, endsInReturn_reverse, decide_eq_true_eq, withoutReturn]
  split <;> simp

theorem scan_append (limit : Nat) (part : Bytes) {more : Bytes} (unbroken : Bytes.lineFeed ∉ more)
    (rest : Bytes) :
    scan limit part.reverse part.length (more ++ rest) =
      scan limit (part ++ more).reverse (part ++ more).length rest := by
  induction more generalizing part with
  | nil => simp
  | cons byte others inductionHypothesis =>
      have goesOn : byte ≠ Bytes.lineFeed := fun ends => unbroken (by simp [ends])
      have othersUnbroken : Bytes.lineFeed ∉ others := fun member => unbroken (by simp [member])
      have next := inductionHypothesis (part ++ [byte]) othersUnbroken
      rw [List.cons_append, scan, if_neg goesOn]
      simpa using next

theorem scan_nil (limit : Nat) (part : Bytes) :
    scan limit part.reverse part.length [] =
      if limit < (withoutReturn part).length then
        (some (.error (.lineTooLong limit)), poison limit)
      else (none, holding limit part) := by
  rw [scan, lineLength_reverse]
  rfl

theorem scan_lineFeed (limit : Nat) (part rest : Bytes) :
    scan limit part.reverse part.length (Bytes.lineFeed :: rest) =
      if limit < (withoutReturn part).length then
        (some (.error (.lineTooLong limit)), poison limit)
      else if withoutReturn part = [] then scan limit [] 0 rest
      else (some (.ok (withoutReturn part)), reading limit [] rest) := by
  rw [scan, if_pos rfl, lineLength_reverse, line_reverse]
  simp only [List.length_eq_zero_iff]
  rfl

/-! ## One pull -/

inductive Pulled (decoder : FrameDecoder) : Option Frame × FrameDecoder → Prop where
  | nothing (upcoming_eq : decoder.upcoming = []) : Pulled decoder (none, decoder.drained)
  | tooLong (upcoming_eq : decoder.upcoming = [.error (.lineTooLong decoder.limit)])
      (drained_eq : decoder.drained = poison decoder.limit) :
      Pulled decoder (some (.error (.lineTooLong decoder.limit)), poison decoder.limit)
  | line (bytes : Bytes) (next : FrameDecoder) (sound : next.Sound)
      (limit_eq : next.limit = decoder.limit)
      (upcoming_eq : decoder.upcoming = .ok bytes :: next.upcoming)
      (drained_eq : next.drained = decoder.drained) : Pulled decoder (some (.ok bytes), next)

theorem Pulled.of_eq {decoder other : FrameDecoder} {result : Option Frame × FrameDecoder}
    (pulled : Pulled other result) (limit_eq : other.limit = decoder.limit)
    (upcoming_eq : decoder.upcoming = other.upcoming)
    (drained_eq : decoder.drained = other.drained) : Pulled decoder result := by
  cases pulled with
  | nothing empty => rw [← drained_eq]; exact .nothing (upcoming_eq.trans empty)
  | tooLong only poisoned =>
      rw [limit_eq] at only poisoned ⊢
      exact .tooLong (upcoming_eq.trans only) (drained_eq.trans poisoned)
  | line bytes next sound nextLimit first others =>
      exact .line bytes next sound (nextLimit.trans limit_eq) (upcoming_eq.trans first)
        (others.trans drained_eq.symm)

theorem pulled_scan (limit : Nat) (unread : Bytes) {part : Bytes}
    (unbroken : Bytes.lineFeed ∉ part) :
    Pulled (reading limit part unread) (scan limit part.reverse part.length unread) := by
  induction unread using Body.lineInduction generalizing part with
  | unfinished last lastUnbroken =>
      have whole : Bytes.lineFeed ∉ part ++ last := by simp [unbroken, lastUnbroken]
      have upcoming_eq := upcoming_reading limit part last
      have drained_eq := drained_reading limit part last
      rw [Body.frames_unbroken limit whole] at upcoming_eq
      simp only [Body.overlong_unbroken limit whole, Body.remainder_unbroken whole] at drained_eq
      rw [← List.append_nil last, scan_append limit part lastUnbroken, scan_nil, List.append_nil]
      by_cases tooLong : limit < (withoutReturn (part ++ last)).length
      · rw [if_pos tooLong] at upcoming_eq drained_eq ⊢
        exact .tooLong upcoming_eq drained_eq
      · rw [if_neg tooLong] at upcoming_eq drained_eq ⊢
        rw [← drained_eq]
        exact .nothing upcoming_eq
  | line first rest firstUnbroken inductionHypothesis =>
      have whole : Bytes.lineFeed ∉ part ++ first := by simp [unbroken, firstUnbroken]
      have upcoming_eq := upcoming_reading limit part (first ++ Bytes.lineFeed :: rest)
      have drained_eq := drained_reading limit part (first ++ Bytes.lineFeed :: rest)
      rw [← List.append_assoc, Body.frames_cons limit whole] at upcoming_eq
      rw [← List.append_assoc, Body.remainder_cons] at drained_eq
      simp only [Body.overlong_cons limit whole] at drained_eq
      rw [scan_append limit part firstUnbroken, scan_lineFeed]
      by_cases tooLong : limit < (withoutReturn (part ++ first)).length
      · rw [if_pos tooLong] at upcoming_eq ⊢
        rw [if_pos (Or.inl tooLong)] at drained_eq
        exact .tooLong upcoming_eq drained_eq
      · simp only [tooLong, if_false, false_or] at upcoming_eq drained_eq ⊢
        have next := drained_reading limit [] rest
        rw [List.nil_append] at next
        by_cases blank : withoutReturn (part ++ first) = []
        · rw [if_pos blank] at upcoming_eq ⊢
          -- A blank line leaves the decoder where it would be without that line.
          have skipped := @inductionHypothesis [] (by simp)
          refine skipped.of_eq rfl ?_ ?_
          · rw [upcoming_eq, upcoming_reading, List.nil_append]
          · rw [drained_eq, next]
        · rw [if_neg blank] at upcoming_eq ⊢
          refine .line _ _ (.reading limit [] rest (by simp)) rfl ?_ ?_
          · rw [upcoming_eq, upcoming_reading, List.nil_append]
          · rw [drained_eq, next]

theorem pull_cases {decoder : FrameDecoder} (sound : decoder.Sound) :
    Pulled decoder decoder.pull := by
  cases sound with
  | reading limit part unread unbroken => exact pulled_scan limit unread unbroken
  | poison limit =>
      have stays : (poison limit).pull = (none, (poison limit).drained) := by
        rw [drained_poison]
        rfl
      rw [stays]
      exact .nothing rfl

theorem Sound.pull {decoder : FrameDecoder} (sound : decoder.Sound) : decoder.pull.2.Sound := by
  have pulled := pull_cases sound
  generalize decoder.pull = result at pulled
  cases pulled with
  | nothing _ => exact sound_drained decoder
  | tooLong _ _ => exact .poison decoder.limit
  | line bytes next nextSound _ _ _ => exact nextSound

end RowStream.FrameDecoder
