import RowStream.Frame
import RowStream.Proofs.Splitting

/-!
# The lines and the frames of a whole body

A decoder sees a body chunk by chunk.  Here the body is seen as a whole: it is split at every
line feed into complete lines and a remainder, and `frames` says what comes out of them: the
`readable` lines, and an error if a line was too long.

`frames_append_of_fits` and `frames_append_of_overlong` are what makes the cuts between chunks
invisible.  As long as no line is too long, the frames of the first part of a body come first,
and the rest follow from what the first part left unfinished; once a line is too long, more
bytes change nothing.
-/

set_option autoImplicit false

namespace RowStream.Body

/-! ## Lines -/

def lines (body : Bytes) : List Bytes := (body.splitOn Bytes.lineFeed).dropLast

def remainder (body : Bytes) : Bytes :=
  (body.splitOn Bytes.lineFeed).getLast (List.splitOn_ne_nil Bytes.lineFeed body)

def withoutReturn (line : Bytes) : Bytes :=
  if line.getLast? = some Bytes.carriageReturn then line.dropLast else line

theorem lines_unbroken {part : Bytes} (unbroken : Bytes.lineFeed ∉ part) : lines part = [] := by
  simp [lines, List.splitOn_eq_singleton unbroken]

theorem remainder_unbroken {part : Bytes} (unbroken : Bytes.lineFeed ∉ part) :
    remainder part = part := by
  simp [remainder, List.splitOn_eq_singleton unbroken]

theorem lines_cons {line : Bytes} (unbroken : Bytes.lineFeed ∉ line) (rest : Bytes) :
    lines (line ++ Bytes.lineFeed :: rest) = line :: lines rest := by
  rw [lines, List.splitOn_append_cons_self_of_not_mem unbroken,
    List.dropLast_cons_of_ne_nil (List.splitOn_ne_nil Bytes.lineFeed rest), lines]

theorem remainder_cons (before rest : Bytes) :
    remainder (before ++ Bytes.lineFeed :: rest) = remainder rest := by
  simp only [remainder, List.splitOn_append_cons_self]
  exact List.getLast_append_of_ne_nil _ (List.splitOn_ne_nil Bytes.lineFeed rest)

theorem lineInduction {motive : Bytes → Prop}
    (unfinished : ∀ part, Bytes.lineFeed ∉ part → motive part)
    (line : ∀ part rest, Bytes.lineFeed ∉ part → motive rest →
      motive (part ++ Bytes.lineFeed :: rest))
    (body : Bytes) : motive body :=
  partInduction Bytes.lineFeed unfinished line body

theorem lineFeed_notMem_remainder (body : Bytes) : Bytes.lineFeed ∉ remainder body :=
  (of_mem_splitOn (List.getLast_mem _)).1

theorem remainder_append (first second : Bytes) :
    remainder (first ++ second) = remainder (remainder first ++ second) := by
  induction first using lineInduction with
  | unfinished part unbroken => rw [remainder_unbroken unbroken]
  | line part rest _ inductionHypothesis =>
      rw [remainder_cons, List.append_assoc, List.cons_append, remainder_cons,
        inductionHypothesis]

/-- More bytes never make a line shorter, though a carriage return that did not count in front
of its line feed may turn out to belong to the line. -/
theorem length_withoutReturn_le_append (line more : Bytes) :
    (withoutReturn line).length ≤ (withoutReturn (line ++ more)).length := by
  cases more with
  | nil => simp
  | cons byte rest =>
      have kept : (withoutReturn line).length ≤ line.length := by
        unfold withoutReturn
        split <;> simp
      have longer : line.length ≤ (withoutReturn (line ++ byte :: rest)).length := by
        unfold withoutReturn
        split <;> simp
      omega

/-! ## Frames -/

/-- The lines that are read: the complete ones in front of the first one that is too long, without
the blank ones. -/
def readable (limit : Nat) (body : Bytes) : List Bytes :=
  (((lines body).map withoutReturn).takeWhile (·.length ≤ limit)).filter (· ≠ [])

/-- Some line of the body, finished or not, is too long. -/
def Overlong (limit : Nat) (body : Bytes) : Prop :=
  ∃ line ∈ body.splitOn Bytes.lineFeed, limit < (withoutReturn line).length

instance (limit : Nat) (body : Bytes) : Decidable (Overlong limit body) :=
  inferInstanceAs (Decidable (∃ line ∈ body.splitOn Bytes.lineFeed, _))

def frames (limit : Nat) (body : Bytes) : List Frame :=
  (readable limit body).map .ok ++
    if Overlong limit body then [.error (.lineTooLong limit)] else []

theorem readable_unbroken {part : Bytes} (limit : Nat) (unbroken : Bytes.lineFeed ∉ part) :
    readable limit part = [] := by
  rw [readable, lines_unbroken unbroken]
  rfl

theorem readable_cons {line : Bytes} (limit : Nat) (unbroken : Bytes.lineFeed ∉ line)
    (rest : Bytes) :
    readable limit (line ++ Bytes.lineFeed :: rest) =
      if limit < (withoutReturn line).length then []
      else if withoutReturn line = [] then readable limit rest
      else withoutReturn line :: readable limit rest := by
  rw [readable, lines_cons unbroken, List.map_cons, List.takeWhile_cons]
  by_cases tooLong : limit < (withoutReturn line).length
  · have refused : ¬ (withoutReturn line).length ≤ limit := by omega
    simp [tooLong, refused]
  · have accepted : (withoutReturn line).length ≤ limit := by omega
    by_cases blank : withoutReturn line = []
    · simp [blank, readable]
    · simp [tooLong, accepted, blank, readable]

theorem overlong_unbroken {part : Bytes} (limit : Nat) (unbroken : Bytes.lineFeed ∉ part) :
    Overlong limit part ↔ limit < (withoutReturn part).length := by
  simp [Overlong, List.splitOn_eq_singleton unbroken]

theorem overlong_cons {line : Bytes} (limit : Nat) (unbroken : Bytes.lineFeed ∉ line)
    (rest : Bytes) :
    Overlong limit (line ++ Bytes.lineFeed :: rest) ↔
      limit < (withoutReturn line).length ∨ Overlong limit rest := by
  simp [Overlong, List.splitOn_append_cons_self_of_not_mem unbroken]

theorem length_le_of_fits {limit : Nat} {body line : Bytes} (fits : ¬ Overlong limit body)
    (member : line ∈ lines body) : (withoutReturn line).length ≤ limit := by
  have split : line ∈ body.splitOn Bytes.lineFeed := List.dropLast_subset _ member
  have notTooLong : ¬ limit < (withoutReturn line).length := fun tooLong =>
    fits ⟨line, split, tooLong⟩
  omega

/-- When no line is too long, all lines are read that are not blank. -/
theorem readable_of_fits {limit : Nat} {body : Bytes} (fits : ¬ Overlong limit body) :
    readable limit body = ((lines body).map withoutReturn).filter (· ≠ []) := by
  have short : ∀ line ∈ (lines body).map withoutReturn, decide (line.length ≤ limit) := by
    intro line member
    obtain ⟨whole, isLine, rfl⟩ := List.mem_map.mp member
    exact decide_eq_true (length_le_of_fits fits isLine)
  have all : ((lines body).map withoutReturn).takeWhile (·.length ≤ limit) =
      (lines body).map withoutReturn := by
    rw [← List.append_nil (List.map _ _), List.takeWhile_append_of_pos short, List.takeWhile_nil]
  rw [readable, all]

theorem frames_unbroken {part : Bytes} (limit : Nat) (unbroken : Bytes.lineFeed ∉ part) :
    frames limit part =
      if limit < (withoutReturn part).length then [.error (.lineTooLong limit)] else [] := by
  simp only [frames, readable_unbroken limit unbroken, overlong_unbroken limit unbroken,
    List.map_nil, List.nil_append]

theorem frames_cons {line : Bytes} (limit : Nat) (unbroken : Bytes.lineFeed ∉ line)
    (rest : Bytes) :
    frames limit (line ++ Bytes.lineFeed :: rest) =
      if limit < (withoutReturn line).length then [.error (.lineTooLong limit)]
      else if withoutReturn line = [] then frames limit rest
      else .ok (withoutReturn line) :: frames limit rest := by
  simp only [frames, readable_cons limit unbroken, overlong_cons limit unbroken]
  by_cases tooLong : limit < (withoutReturn line).length
  · simp [tooLong]
  · by_cases blank : withoutReturn line = []
    · simp [blank]
    · simp [tooLong, blank]

theorem append_unbroken_or {line : Bytes} (unbroken : Bytes.lineFeed ∉ line) (more : Bytes) :
    Bytes.lineFeed ∉ line ++ more ∨
      ∃ part rest, Bytes.lineFeed ∉ line ++ part ∧
        line ++ more = line ++ part ++ Bytes.lineFeed :: rest := by
  by_cases broken : Bytes.lineFeed ∈ more
  · obtain ⟨part, rest, shape, partUnbroken⟩ := List.eq_append_cons_of_mem broken
    exact Or.inr ⟨part, rest, by simp [unbroken, partUnbroken], by simp [shape]⟩
  · exact Or.inl (by simp [unbroken, broken])

/-- A line that is already too long stays so, and nothing comes out but the error. -/
theorem long_line_append {line : Bytes} {limit : Nat} (unbroken : Bytes.lineFeed ∉ line)
    (tooLong : limit < (withoutReturn line).length) (more : Bytes) :
    Overlong limit (line ++ more) ∧
      frames limit (line ++ more) = [.error (.lineTooLong limit)] := by
  rcases append_unbroken_or unbroken more with whole | ⟨part, rest, whole, shape⟩
  · have longer := length_withoutReturn_le_append line more
    rw [overlong_unbroken limit whole, frames_unbroken limit whole, if_pos (by omega)]
    exact ⟨by omega, rfl⟩
  · have longer := length_withoutReturn_le_append line part
    rw [shape, overlong_cons limit whole, frames_cons limit whole, if_pos (by omega)]
    exact ⟨Or.inl (by omega), rfl⟩

theorem frames_append_of_fits {limit : Nat} {first : Bytes} (fits : ¬ Overlong limit first)
    (second : Bytes) :
    frames limit (first ++ second) =
      frames limit first ++ frames limit (remainder first ++ second) := by
  induction first using lineInduction with
  | unfinished part unbroken =>
      rw [overlong_unbroken limit unbroken] at fits
      rw [frames_unbroken limit unbroken, if_neg fits, remainder_unbroken unbroken,
        List.nil_append]
  | line part rest unbroken inductionHypothesis =>
      rw [overlong_cons limit unbroken, not_or] at fits
      rw [List.append_assoc, List.cons_append, frames_cons limit unbroken,
        frames_cons limit unbroken, remainder_cons, if_neg fits.1, if_neg fits.1,
        inductionHypothesis fits.2]
      split <;> rfl

theorem frames_append_of_overlong {limit : Nat} {first : Bytes} (overlong : Overlong limit first)
    (second : Bytes) : frames limit (first ++ second) = frames limit first := by
  induction first using lineInduction with
  | unfinished part unbroken =>
      have tooLong := (overlong_unbroken limit unbroken).mp overlong
      rw [(long_line_append unbroken tooLong second).2, frames_unbroken limit unbroken,
        if_pos tooLong]
  | line part rest unbroken inductionHypothesis =>
      rw [List.append_assoc, List.cons_append, frames_cons limit unbroken,
        frames_cons limit unbroken]
      rcases (overlong_cons limit unbroken rest).mp overlong with tooLong | later
      · rw [if_pos tooLong, if_pos tooLong]
      · rw [inductionHypothesis later]

theorem overlong_append (limit : Nat) (first second : Bytes) :
    Overlong limit (first ++ second) ↔
      Overlong limit first ∨ Overlong limit (remainder first ++ second) := by
  induction first using lineInduction with
  | unfinished part unbroken =>
      rw [overlong_unbroken limit unbroken, remainder_unbroken unbroken]
      constructor
      · exact Or.inr
      · rintro (tooLong | later)
        · exact (long_line_append unbroken tooLong second).1
        · exact later
  | line part rest unbroken inductionHypothesis =>
      rw [List.append_assoc, List.cons_append, overlong_cons limit unbroken,
        overlong_cons limit unbroken, remainder_cons, inductionHypothesis, or_assoc]

end RowStream.Body
