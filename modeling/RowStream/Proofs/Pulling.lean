import RowStream.Proofs.Decoder

/-!
# Frames that are pulled late

Nothing makes a reader pull all frames of a chunk before the next chunk is fed.  What is left behind
waits, and comes out as if it had been pulled at once: `upcoming_append` and `drained_append` say
that feeding commutes with draining.  `Follows` is what this keeps true from pull to pull, and
`run_frames` compares everything that was ever pulled with the frames of the whole body.
-/

set_option autoImplicit false

namespace RowStream

/-! ## The frames of a body -/

namespace Body

theorem lineFeed_notMem_of_mem_lines {body line : Bytes} (member : line ∈ lines body) :
    Bytes.lineFeed ∉ line :=
  (of_mem_splitOn (List.dropLast_subset _ member)).1

theorem withoutReturn_subset (line : Bytes) : withoutReturn line ⊆ line := by
  unfold withoutReturn
  split
  · exact List.dropLast_subset line
  · exact fun _ member => member

theorem length_le_withoutReturn (line : Bytes) :
    line.length ≤ (withoutReturn line).length + 1 := by
  unfold withoutReturn
  split
  · rw [List.length_dropLast]
    omega
  · omega

theorem fits_remainder {limit : Nat} {body : Bytes} (fits : ¬ Overlong limit body) :
    ¬ Overlong limit (remainder body) := by
  intro overlong
  have split := overlong_append limit body []
  rw [List.append_nil, List.append_nil] at split
  exact fits (split.mpr (Or.inr overlong))

theorem readable_spec {limit : Nat} {body line : Bytes} (member : line ∈ readable limit body) :
    line ≠ [] ∧ Bytes.lineFeed ∉ line ∧ line.length ≤ limit := by
  obtain ⟨taken, notBlank⟩ := List.mem_filter.mp member
  have short : line.length ≤ limit := by simpa using List.all_eq_true.mp List.all_takeWhile _ taken
  obtain ⟨whole, isLine, rfl⟩ := List.mem_map.mp (List.takeWhile_subset _ taken)
  refine ⟨of_decide_eq_true notBlank, ?_, short⟩
  intro broken
  exact lineFeed_notMem_of_mem_lines isLine (withoutReturn_subset whole broken)

theorem mem_readable_of_ok_mem_frames {limit : Nat} {body line : Bytes}
    (member : .ok line ∈ frames limit body) : line ∈ readable limit body := by
  rcases List.mem_append.mp member with inLines | inError
  · obtain ⟨other, isRead, same⟩ := List.mem_map.mp inLines
    cases same
    exact isRead
  · split at inError
    · cases List.mem_singleton.mp inError
    · cases inError

/-- The error stands at the end, and only where a line is too long. -/
theorem nothing_behind_error {limit : Nat} {body : Bytes} {before after : List Frame}
    {cause : FrameError} (frames_eq : frames limit body = before ++ .error cause :: after) :
    after = [] ∧ Overlong limit body := by
  rw [frames] at frames_eq
  split at frames_eq
  · rename_i overlong
    refine ⟨?_, overlong⟩
    generalize readable limit body = lines at frames_eq
    induction lines generalizing before with
    | nil =>
        cases before with
        | nil => exact (List.cons.inj frames_eq).2.symm
        | cons frame others => simp at frames_eq
    | cons line rest inductionHypothesis =>
        cases before with
        | nil => cases frames_eq
        | cons frame others => exact inductionHypothesis (List.cons.inj frames_eq).2
  · have member : (.error cause : Frame) ∈ (readable limit body).map .ok := by
      rw [← List.append_nil (List.map _ _), frames_eq]
      exact List.mem_append_right before List.mem_cons_self
    obtain ⟨_, _, impossible⟩ := List.mem_map.mp member
    cases impossible

end Body

namespace FrameDecoder

open Body (frames remainder withoutReturn Overlong)

/-! ## Feeding before everything was pulled -/

/-- Frames that are left to be pulled later come out in front of those of the next chunk. -/
theorem upcoming_append {decoder : FrameDecoder} (sound : decoder.Sound) (chunk : Bytes) :
    (decoder.append chunk).upcoming =
      decoder.upcoming ++ (decoder.drained.append chunk).upcoming := by
  cases sound with
  | poison limit =>
      rw [drained_poison]
      rfl
  | reading limit part unread unbroken =>
      rw [append_reading, upcoming_reading, upcoming_reading, drained_reading, ← List.append_assoc]
      by_cases overlong : Overlong limit (part ++ unread)
      · rw [if_pos overlong, Body.frames_append_of_overlong overlong]
        exact (List.append_nil _).symm
      · rw [if_neg overlong, holding, append_reading, upcoming_reading, List.nil_append,
          Body.frames_append_of_fits overlong]

theorem drained_append {decoder : FrameDecoder} (sound : decoder.Sound) (chunk : Bytes) :
    (decoder.append chunk).drained = (decoder.drained.append chunk).drained := by
  cases sound with
  | poison limit =>
      rw [drained_poison]
  | reading limit part unread unbroken =>
      have split := Body.overlong_append limit (part ++ unread) chunk
      rw [append_reading, drained_reading, drained_reading, ← List.append_assoc]
      by_cases overlong : Overlong limit (part ++ unread)
      · rw [if_pos overlong, if_pos (split.mpr (Or.inl overlong))]
        exact (drained_poison limit).symm
      · have next : ((holding limit (remainder (part ++ unread))).append chunk).drained =
            (reading limit (remainder (part ++ unread)) chunk).drained := rfl
        rw [if_neg overlong, next, drained_reading, Body.remainder_append]
        simp only [split, overlong, false_or]

/-! ## After everything was pulled -/

theorem upcoming_drained (decoder : FrameDecoder) : decoder.drained.upcoming = [] := by
  unfold drained
  split
  · rfl
  · rename_i goesOn
    have unbroken := Body.lineFeed_notMem_remainder decoder.waiting
    have fits := Body.fits_remainder (not_or.mp goesOn).2
    rw [Body.overlong_unbroken _ unbroken] at fits
    rw [holding, upcoming_reading, List.append_nil, Body.frames_unbroken _ unbroken, if_neg fits]

theorem drained_drained (decoder : FrameDecoder) : decoder.drained.drained = decoder.drained := by
  by_cases stops : decoder.poisoned = true ∨ Overlong decoder.limit decoder.waiting
  · rw [drained.eq_def decoder, if_pos stops, drained_poison]
  · have unbroken := Body.lineFeed_notMem_remainder decoder.waiting
    have fits := Body.fits_remainder (not_or.mp stops).2
    rw [drained.eq_def decoder, if_neg stops, holding, drained_reading, List.append_nil,
      if_neg fits, Body.remainder_unbroken unbroken]
    rfl

theorem pull_drained (decoder : FrameDecoder) : decoder.drained.pull = (none, decoder.drained) := by
  have pulled := pull_cases (sound_drained decoder)
  have empty := upcoming_drained decoder
  generalize decoder.drained.pull = result at pulled
  cases pulled with
  | nothing _ => rw [drained_drained]
  | tooLong upcoming_eq _ => cases empty.symm.trans upcoming_eq
  | line _ _ _ _ upcoming_eq _ => cases empty.symm.trans upcoming_eq

theorem pullAtMost_eq {count : Nat} {decoder : FrameDecoder} (sound : decoder.Sound)
    (enough : decoder.unread.length < count) :
    pullAtMost count decoder = (decoder.upcoming, decoder.drained) := by
  induction count generalizing decoder with
  | zero => omega
  | succ count inductionHypothesis =>
      have pulled := pull_cases sound
      have shorter := @pull_shortens decoder
      unfold pullAtMost
      generalize decoder.pull = result at pulled shorter
      cases pulled with
      | nothing upcoming_eq => rw [upcoming_eq]
      | tooLong upcoming_eq drained_eq =>
          rw [upcoming_eq, drained_eq]
          -- A poisoned decoder yields nothing more, however often it is asked.
          cases count <;> rfl
      | line bytes next nextSound limit_eq upcoming_eq drained_eq =>
          have readOn : next.unread.length < decoder.unread.length := shorter rfl
          have later := inductionHypothesis nextSound (by omega)
          rw [upcoming_eq, ← drained_eq]
          simp only [later]

theorem drain_eq {decoder : FrameDecoder} (sound : decoder.Sound) :
    decoder.drain = (decoder.upcoming, decoder.drained) :=
  pullAtMost_eq sound (Nat.lt_succ_self _)

theorem finish_finish (decoder : FrameDecoder) : decoder.finish.2.finish.1 = none := by
  have dropped : decoder.finish.2.buffered = 0 := by
    rw [rest_finish]
    rfl
  generalize decoder.finish.2 = rest at dropped ⊢
  simp [finish, dropped]

/-! ## Feeding and pulling in turns -/

/-- A chunk, and how often the next frame is asked for before the chunk behind it is fed. -/
structure Portion where
  chunk : Bytes
  pulls : Nat

structure Tap where
  yielded : List Frame
  decoder : FrameDecoder

namespace Tap

def feed (tap : Tap) (chunk : Bytes) : Tap := { tap with decoder := tap.decoder.append chunk }

def pull (tap : Tap) : Tap :=
  { yielded := tap.yielded ++ tap.decoder.pull.1.toList, decoder := tap.decoder.pull.2 }

def pulls : Nat → Tap → Tap
  | 0, tap => tap
  | count + 1, tap => pulls count tap.pull

def serve (tap : Tap) (portion : Portion) : Tap := (tap.feed portion.chunk).pulls portion.pulls

end Tap

def run (limit : Nat) (portions : List Portion) : Tap :=
  portions.foldl Tap.serve { yielded := [], decoder := new limit }

/-- What was yielded and what is still to come are together the frames of the body fed so far. -/
structure Tap.Follows (limit : Nat) (body : Bytes) (tap : Tap) : Prop where
  sound : tap.decoder.Sound
  frames_eq : tap.yielded ++ tap.decoder.upcoming = frames limit body
  drained_eq : tap.decoder.drained = (reading limit [] body).drained

namespace Tap

theorem Follows.feed {limit : Nat} {body : Bytes} {tap : Tap} (follows : tap.Follows limit body)
    (chunk : Bytes) : (tap.feed chunk).Follows limit (body ++ chunk) where
  sound := follows.sound.append chunk
  frames_eq := by
    have whole := upcoming_append (.reading limit [] body (by simp)) chunk
    rw [append_reading, upcoming_reading, upcoming_reading, List.nil_append, List.nil_append,
      ← follows.drained_eq, ← follows.frames_eq, List.append_assoc,
      ← upcoming_append follows.sound] at whole
    exact whole.symm
  drained_eq := by
    have whole := drained_append (.reading limit [] body (by simp)) chunk
    rw [append_reading, ← follows.drained_eq, ← drained_append follows.sound] at whole
    exact whole.symm

theorem Follows.pull {limit : Nat} {body : Bytes} {tap : Tap} (follows : tap.Follows limit body) :
    tap.pull.Follows limit body := by
  have pulled := pull_cases follows.sound
  have frames_eq := follows.frames_eq
  have drained_eq := follows.drained_eq
  unfold Tap.pull
  generalize tap.decoder.pull = result at pulled
  cases pulled with
  | nothing upcoming_eq =>
      rw [upcoming_eq] at frames_eq
      refine ⟨sound_drained _, ?_, (drained_drained _).trans drained_eq⟩
      rw [upcoming_drained, List.append_nil]
      exact frames_eq
  | tooLong upcoming_eq poisoned =>
      rw [upcoming_eq] at frames_eq
      refine ⟨.poison _, ?_, ?_⟩
      · exact (List.append_nil _).trans frames_eq
      · rw [drained_poison, ← poisoned, drained_eq]
  | line bytes next sound limit_eq upcoming_eq rest_eq =>
      rw [upcoming_eq] at frames_eq
      refine ⟨sound, ?_, rest_eq.trans drained_eq⟩
      rw [← frames_eq]
      exact List.append_assoc _ _ _

theorem Follows.pulls {limit : Nat} {body : Bytes} {tap : Tap} (follows : tap.Follows limit body)
    (count : Nat) : (tap.pulls count).Follows limit body := by
  induction count generalizing tap with
  | zero => exact follows
  | succ count inductionHypothesis => exact inductionHypothesis follows.pull

theorem Follows.foldl_serve {limit : Nat} {body : Bytes} {tap : Tap}
    (follows : tap.Follows limit body) (portions : List Portion) :
    (portions.foldl serve tap).Follows limit (body ++ (portions.map Portion.chunk).flatten) := by
  induction portions generalizing body tap with
  | nil =>
      rw [List.map_nil, List.flatten_nil, List.append_nil]
      exact follows
  | cons portion rest inductionHypothesis =>
      have next := inductionHypothesis ((follows.feed portion.chunk).pulls portion.pulls)
      rw [List.append_assoc] at next
      exact next

theorem follows_run (limit : Nat) (portions : List Portion) :
    (run limit portions).Follows limit (portions.map Portion.chunk).flatten := by
  have empty : ({ yielded := [], decoder := new limit } : Tap).Follows limit [] :=
    ⟨sound_new limit, upcoming_reading limit [] [], rfl⟩
  exact empty.foldl_serve portions

theorem Follows.poisoned_of_error {limit : Nat} {body : Bytes} {tap : Tap}
    (follows : tap.Follows limit body) {before after : List Frame} {cause : FrameError}
    (yielded_eq : tap.yielded = before ++ .error cause :: after) :
    after = [] ∧ tap.decoder = poison limit := by
  obtain ⟨sound, frames_eq, drained_eq⟩ := follows
  obtain ⟨yielded, decoder⟩ := tap
  simp only at sound frames_eq drained_eq yielded_eq
  rw [yielded_eq, List.append_assoc, List.cons_append] at frames_eq
  obtain ⟨nothing, overlong⟩ := Body.nothing_behind_error frames_eq.symm
  obtain ⟨rfl, none⟩ := List.append_eq_nil_iff.mp nothing
  rw [drained_reading, List.nil_append, if_pos overlong] at drained_eq
  refine ⟨rfl, ?_⟩
  cases sound with
  | poison other => exact (drained_poison other).symm.trans drained_eq
  | reading other part unread unbroken =>
      rw [upcoming_reading, frames] at none
      rw [drained_reading] at drained_eq
      split at drained_eq
      · rename_i stillOverlong
        rw [if_pos stillOverlong] at none
        simp at none
      · cases congrArg FrameDecoder.poisoned drained_eq

theorem serve_poison (yielded : List Frame) (limit : Nat) (portion : Portion) :
    serve { yielded, decoder := poison limit } portion = { yielded, decoder := poison limit } := by
  have stays : pull { yielded, decoder := poison limit } = { yielded, decoder := poison limit } :=
    congrArg (Tap.mk · (poison limit)) (List.append_nil yielded)
  have pulled : ∀ count, pulls count { yielded, decoder := poison limit } =
      { yielded, decoder := poison limit } := by
    intro count
    induction count with
    | zero => rfl
    | succ count inductionHypothesis => rw [pulls, stays, inductionHypothesis]
  exact pulled portion.pulls

theorem foldl_serve_poison (yielded : List Frame) (limit : Nat) (portions : List Portion) :
    portions.foldl serve { yielded, decoder := poison limit } =
      { yielded, decoder := poison limit } := by
  induction portions with
  | nil => rfl
  | cons portion rest inductionHypothesis =>
      rw [List.foldl_cons, serve_poison, inductionHypothesis]

end Tap

/-- However feeding and pulling take turns, what was pulled so far is the beginning of what the body
fed so far yields as a whole, and the rest is there to be pulled. -/
theorem run_frames (limit : Nat) (portions : List Portion) :
    let tap := run limit portions
    let body := (portions.map Portion.chunk).flatten
    let rest := tap.decoder.drain.1
    let last := tap.decoder.drain.2
    tap.yielded <+: frames limit body ∧
      tap.yielded ++ rest = frames limit body ∧ last.pull = (none, last) ∧
      (∀ line, .ok line ∈ tap.yielded →
        line ≠ [] ∧ Bytes.lineFeed ∉ line ∧ line.length ≤ limit) ∧
      (∀ before cause after, tap.yielded = before ++ .error cause :: after →
        after = [] ∧ tap.decoder.buffered = 0 ∧ ∀ later, run limit (portions ++ later) = tap) ∧
      (last.poisoned = true ↔ Overlong limit body) ∧
      (last.poisoned = false →
        last.buffered = (remainder body).length ∧ last.buffered ≤ limit + 1 ∧
        last.finish.1 = (if last.buffered = 0 then none else some last.buffered) ∧
        last.finish.2.finish.1 = none) := by
  intro tap body rest last
  have follows := Tap.follows_run limit portions
  have drained := drain_eq follows.sound
  have rest_eq : rest = tap.decoder.upcoming := congrArg Prod.fst drained
  have last_eq : last = tap.decoder.drained := congrArg Prod.snd drained
  have whole : tap.yielded ++ rest = frames limit body := by
    rw [rest_eq]
    exact follows.frames_eq
  have isPrefix : tap.yielded <+: frames limit body := ⟨rest, whole⟩
  have end_eq : last = if Overlong limit body then poison limit
      else holding limit (remainder body) := by
    rw [last_eq, follows.drained_eq, drained_reading, List.nil_append]
  refine ⟨isPrefix, whole, ?_, ?_, ?_, ?_, ?_⟩
  · rw [last_eq]
    exact pull_drained tap.decoder
  · intro line member
    exact Body.readable_spec (Body.mem_readable_of_ok_mem_frames (isPrefix.subset member))
  · intro before cause after yielded_eq
    obtain ⟨nothing, poisoned⟩ := follows.poisoned_of_error yielded_eq
    have tap_eq : tap = { yielded := tap.yielded, decoder := poison limit } :=
      congrArg (Tap.mk tap.yielded) poisoned
    refine ⟨nothing, ?_, ?_⟩
    · rw [tap_eq]
      rfl
    · intro later
      have extended : run limit (portions ++ later) = later.foldl Tap.serve tap :=
        List.foldl_append
      rw [extended, tap_eq]
      exact Tap.foldl_serve_poison tap.yielded limit later
  · rw [end_eq]
    split
    · rename_i overlong
      exact iff_of_true rfl overlong
    · rename_i fits
      exact iff_of_false Bool.false_ne_true fits
  · intro healthy
    by_cases overlong : Overlong limit body
    · rw [end_eq, if_pos overlong] at healthy
      cases healthy
    · rw [if_neg overlong] at end_eq
      have unbroken := Body.lineFeed_notMem_remainder body
      have fits := Body.fits_remainder overlong
      rw [Body.overlong_unbroken limit unbroken] at fits
      have atMostReturn := Body.length_le_withoutReturn (remainder body)
      have waits : last.buffered = (remainder body).length := by
        rw [end_eq]
        rfl
      refine ⟨waits, by omega, ?_, finish_finish last⟩
      rw [waits, end_eq, finish_holding]
      simp only [List.length_eq_zero_iff]

end FrameDecoder

end RowStream
