import Mathlib.Data.List.Infix
import Mathlib.Data.List.TakeDrop
import Mathlib.Data.List.TakeWhile
import RowStream.Proofs.Graphemes
import RowStream.Screen.Clip

/-!
# Clipped cells

`takeColumns` is the longest beginning of a text that fits into a width (`longest_takeColumns`).
With an ellipsis behind it, a text gets wider by one column at most, even where the ellipsis joins
the last grapheme (`width_concat_ellipsis`).  Hence what is clipped always fits into a cell, and
clipping changes nothing but what does not (`clip_one_narrow_line`).
-/

set_option autoImplicit false

namespace RowStream

namespace Text

/-- Some of the first graphemes of a text. -/
def IsBeginning (part chars : List Char) : Prop :=
  ∃ count, part = ((graphemes chars).take count).flatten

structure Longest (limit : Nat) (chars part : List Char) : Prop where
  beginning : IsBeginning part chars
  narrow : width part ≤ limit
  longest : ∀ other, IsBeginning other chars → width other ≤ limit → other <+: part

theorem IsBeginning.isPrefix {part chars : List Char} (beginning : IsBeginning part chars) :
    part <+: chars := by
  obtain ⟨count, rfl⟩ := beginning
  have taken : (graphemes chars).take count <+: graphemes chars := List.take_prefix count _
  have inside := taken.flatten
  rwa [flatten_graphemes] at inside

theorem isBeginning_self (chars : List Char) : IsBeginning chars chars :=
  ⟨(graphemes chars).length, by rw [List.take_length, flatten_graphemes]⟩

theorem width_beginning (chars : List Char) (count : Nat) :
    width ((graphemes chars).take count).flatten =
      graphemesWidth ((graphemes chars).take count) := by
  rw [width, graphemes_take]

theorem graphemesWidth_cons (cluster : List Char) (rest : List (List Char)) :
    graphemesWidth (cluster :: rest) = graphemeWidth cluster + graphemesWidth rest := rfl

theorem graphemesWidth_append (front behind : List (List Char)) :
    graphemesWidth (front ++ behind) = graphemesWidth front + graphemesWidth behind := by
  induction front with
  | nil => exact (Nat.zero_add _).symm
  | cons cluster rest inductionHypothesis =>
      rw [List.cons_append, graphemesWidth_cons, graphemesWidth_cons, inductionHypothesis,
        Nat.add_assoc]

/-! ## As much as fits -/

theorem takeFitting_spec (limit : Nat) (clusters : List (List Char)) :
    ∃ count, takeFitting limit clusters = clusters.take count ∧
      graphemesWidth (clusters.take count) ≤ limit ∧
      ∀ more, graphemesWidth (clusters.take more) ≤ limit →
        clusters.take more <+: clusters.take count := by
  induction clusters generalizing limit with
  | nil => exact ⟨0, rfl, Nat.zero_le _, fun more _ => by simp⟩
  | cons cluster rest inductionHypothesis =>
      rw [takeFitting]
      by_cases fits : graphemeWidth cluster ≤ limit
      · obtain ⟨count, taken_eq, narrow, longest⟩ :=
          inductionHypothesis (limit - graphemeWidth cluster)
        refine ⟨count + 1, by rw [if_pos fits, taken_eq, List.take_succ_cons], ?_, ?_⟩
        · rw [List.take_succ_cons, graphemesWidth_cons]
          omega
        · intro more narrowToo
          cases more with
          | zero => exact List.nil_prefix
          | succ more =>
              rw [List.take_succ_cons, graphemesWidth_cons] at narrowToo
              exact (List.prefix_cons_inj cluster).mpr (longest more (by omega))
      · refine ⟨0, if_neg fits, Nat.zero_le _, fun more narrow => ?_⟩
        cases more with
        | zero => exact List.prefix_rfl
        | succ more =>
            rw [List.take_succ_cons, graphemesWidth_cons] at narrow
            omega

theorem longest_takeColumns (limit : Nat) (chars : List Char) :
    Longest limit chars (takeColumns limit chars) := by
  obtain ⟨count, taken_eq, narrow, longest⟩ := takeFitting_spec limit (graphemes chars)
  rw [takeColumns, taken_eq]
  refine ⟨⟨count, rfl⟩, (width_beginning chars count).trans_le narrow, ?_⟩
  rintro _ ⟨more, rfl⟩ narrowToo
  rw [width_beginning] at narrowToo
  exact (longest more narrowToo).flatten

theorem takeColumns_eq_self_iff (limit : Nat) (chars : List Char) :
    takeColumns limit chars = chars ↔ width chars ≤ limit := by
  have taken := longest_takeColumns limit chars
  constructor
  · intro same
    rw [← same]
    exact taken.narrow
  · intro narrow
    have whole := taken.longest chars (isBeginning_self chars) narrow
    exact taken.beginning.isPrefix.eq_of_length_le whole.length_le

/-! ## An ellipsis behind a text -/

open Screen (ellipsis)

theorem joinsPictograph_concat_ellipsis (chars : List Char) :
    joinsPictograph (chars ++ [ellipsis]) = joinsPictograph chars := by
  have plain : inRanges pictographicRanges ellipsis = false := by decide
  fun_induction joinsPictograph chars with
  | case1 joiner next rest inductionHypothesis =>
      rw [List.cons_append, List.cons_append, joinsPictograph, ← List.cons_append,
        inductionHypothesis]
  | case2 chars short =>
      match chars with
      | [] => rfl
      | [only] => simp [joinsPictograph, plain]
      | joiner :: next :: rest => exact absurd rfl (short joiner next rest)

theorem charWidth_ellipsis : charWidth ellipsis = 1 := by decide +kernel

theorem charsWidth_cons (char : Char) (rest : List Char) :
    charsWidth (char :: rest) = charWidth char + charsWidth rest := rfl

theorem charsWidth_concat_ellipsis (chars : List Char) :
    charsWidth (chars ++ [ellipsis]) = charsWidth chars + 1 := by
  induction chars with
  | nil => rw [List.nil_append, charsWidth_cons, charWidth_ellipsis, Nat.add_comm]
  | cons char rest inductionHypothesis =>
      rw [List.cons_append, charsWidth_cons, charsWidth_cons, inductionHypothesis, Nat.add_assoc]

theorem graphemeWidth_concat_ellipsis {cluster : List Char} (single : '\n' ∉ cluster) :
    graphemeWidth (cluster ++ [ellipsis]) ≤ graphemeWidth cluster + 1 := by
  match cluster with
  | [] => exact Nat.le_of_eq charWidth_ellipsis
  | [only] =>
      have notSelector : ellipsis ≠ pictographSelector ∧ ellipsis ≠ textSelector := by decide
      have notTone : inRanges toneRanges ellipsis = false := by decide
      have chars_eq : charsWidth [only, ellipsis] = charWidth only + 1 :=
        charsWidth_concat_ellipsis [only]
      rw [List.singleton_append, graphemeWidth, graphemeWidth, chars_eq]
      · simp [notSelector, notTone, joinsPictograph]
      · exact fun _ isBreak => absurd isBreak (by decide)
  | base :: mark :: rest =>
      have notBreak : mark ≠ '\n' := by
        rintro rfl
        simp at single
      have joins_eq : joinsPictograph (mark :: (rest ++ [ellipsis])) =
          joinsPictograph (mark :: rest) :=
        joinsPictograph_concat_ellipsis (mark :: rest)
      have chars_eq : charsWidth (base :: mark :: (rest ++ [ellipsis])) =
          charsWidth (base :: mark :: rest) + 1 :=
        charsWidth_concat_ellipsis (base :: mark :: rest)
      rw [List.cons_append, List.cons_append, graphemeWidth, graphemeWidth, joins_eq, chars_eq]
      · split
        · omega
        · split
          · omega
          · split <;> omega
      all_goals exact fun _ isBreak => absurd isBreak notBreak

theorem width_concat_ellipsis {chars : List Char} (single : '\n' ∉ chars) :
    width (chars ++ [ellipsis]) ≤ width chars + 1 := by
  rw [width, width]
  rcases graphemes_concat chars ellipsis with alone | ⟨front, last, shape, joined⟩
  · have width_eq : graphemeWidth [ellipsis] = 1 := charWidth_ellipsis
    rw [alone, graphemesWidth_append, graphemesWidth_cons, width_eq]
    exact Nat.le_refl _
  · have lastSingle : '\n' ∉ last := by
      intro member
      refine single ?_
      rw [← flatten_graphemes chars, shape]
      exact List.mem_flatten_of_mem (by simp) member
    rw [joined, shape, graphemesWidth_append, graphemesWidth_append, Nat.add_assoc]
    exact Nat.add_le_add_left (graphemeWidth_concat_ellipsis lastSingle) _

end Text

namespace Screen

open Text (Longest takeColumns width)

/-! ## The first line -/

inductive FirstLine (text : List Char) : List Char → Prop where
  | whole (single : '\n' ∉ text) : FirstLine text text
  | ended (line rest : List Char) (single : '\n' ∉ line) (bare : line.getLast? ≠ some '\r')
      (shape : text = line ++ '\n' :: rest) : FirstLine text line
  | returned (line rest : List Char) (single : '\n' ∉ line)
      (shape : text = line ++ '\r' :: '\n' :: rest) : FirstLine text line

theorem firstLine_spec (text : List Char) : FirstLine text (firstLine text) := by
  have kept {line : List Char} (single : '\n' ∉ line) :
      ∀ char ∈ line, decide (char ≠ '\n') = true :=
    fun char member => decide_eq_true fun same => single (same ▸ member)
  rw [firstLine, List.span_eq_takeWhile_dropWhile]
  by_cases several : '\n' ∈ text
  · obtain ⟨line, rest, rfl, single⟩ := List.eq_append_cons_of_mem several
    rw [List.takeWhile_append_of_pos (kept single), List.dropWhile_append_of_pos (kept single),
      List.takeWhile_cons_of_neg (by decide), List.dropWhile_cons_of_neg (by decide),
      List.append_nil]
    dsimp only
    split
    · rename_i returned
      obtain ⟨front, rfl⟩ := List.getLast?_eq_some_iff.mp returned.2
      rw [List.dropLast_concat]
      refine .returned front rest (fun member => single (List.mem_append_left _ member)) ?_
      rw [List.append_assoc, List.singleton_append]
    · rename_i bare
      exact .ended line rest single (fun last => bare ⟨List.cons_ne_nil _ _, last⟩) rfl
  · rw [List.takeWhile_eq_self_iff.mpr (kept several),
      List.dropWhile_eq_nil_iff.mpr (kept several)]
    exact .whole several

section

variable {text line : List Char}

theorem FirstLine.single (isFirst : FirstLine text line) : '\n' ∉ line := by
  cases isFirst with
  | whole single => exact single
  | ended _ rest single => exact single
  | returned _ rest single => exact single

theorem FirstLine.isPrefix (isFirst : FirstLine text line) : line <+: text := by
  cases isFirst with
  | whole => exact List.prefix_rfl
  | ended _ rest _ _ shape => exact ⟨_, shape.symm⟩
  | returned _ rest _ shape => exact ⟨_, shape.symm⟩

theorem FirstLine.eq_of_single (isFirst : FirstLine text line) (single : '\n' ∉ text) :
    line = text := by
  cases isFirst with
  | whole => rfl
  | ended _ rest _ _ shape => simp [shape] at single
  | returned _ rest _ shape => simp [shape] at single

end

/-! ## The cell -/

def Fits (text : List Char) : Prop := '\n' ∉ text ∧ width text ≤ maxCellWidth

theorem eq_of_prefix_of_byteSize {part text : List Char} (inside : part <+: text)
    (same : (String.ofList part).utf8ByteSize = (String.ofList text).utf8ByteSize) :
    part = text := by
  obtain ⟨behind, rfl⟩ := inside
  rw [String.ofList_append, String.utf8ByteSize_append] at same
  have nothing : String.ofList behind = "" := String.utf8ByteSize_eq_zero_iff.mp (by omega)
  have behind_nil : behind = [] := String.ofList_injective nothing
  rw [behind_nil, List.append_nil]

/-- A clipped line has as many bytes as the text only where nothing was left out. -/
theorem clip_eq (text : List Char) :
    clip text =
      if takeColumns maxCellWidth (firstLine text) = text then text
      else takeColumns (maxCellWidth - 1) (firstLine text) ++ [ellipsis] := by
  have taken := Text.longest_takeColumns maxCellWidth (firstLine text)
  have inside := taken.beginning.isPrefix.trans (firstLine_spec text).isPrefix
  rw [clip]
  by_cases whole : takeColumns maxCellWidth (firstLine text) = text
  · rw [if_pos whole]
    exact (if_pos (congrArg (String.utf8ByteSize ∘ String.ofList) whole)).trans whole
  · rw [if_neg whole]
    exact if_neg fun same => whole (eq_of_prefix_of_byteSize inside same)

theorem clip_of_fits {text : List Char} (fits : Fits text) : clip text = text := by
  rw [clip_eq, (firstLine_spec text).eq_of_single fits.1]
  exact if_pos ((Text.takeColumns_eq_self_iff _ _).mpr fits.2)

/-- Nothing is left out only of a text that fits. -/
theorem takeColumns_firstLine_eq_iff (text : List Char) :
    takeColumns maxCellWidth (firstLine text) = text ↔ Fits text := by
  have isFirst := firstLine_spec text
  constructor
  · intro whole
    have taken := Text.longest_takeColumns maxCellWidth (firstLine text)
    have inLine := taken.beginning.isPrefix
    rw [whole] at inLine taken
    exact ⟨fun member => isFirst.single (inLine.subset member), taken.narrow⟩
  · rintro ⟨single, narrow⟩
    rw [isFirst.eq_of_single single]
    exact (Text.takeColumns_eq_self_iff _ _).mpr narrow

theorem clip_of_not_fits {text : List Char} (overflows : ¬ Fits text) :
    clip text = takeColumns (maxCellWidth - 1) (firstLine text) ++ [ellipsis] := by
  rw [clip_eq]
  exact if_neg fun whole => overflows ((takeColumns_firstLine_eq_iff text).mp whole)

theorem fits_clip (text : List Char) : Fits (clip text) := by
  by_cases fits : Fits text
  · rw [clip_of_fits fits]
    exact fits
  · rw [clip_of_not_fits fits]
    have taken := Text.longest_takeColumns (maxCellWidth - 1) (firstLine text)
    have single : '\n' ∉ takeColumns (maxCellWidth - 1) (firstLine text) := fun member =>
      (firstLine_spec text).single (taken.beginning.isPrefix.subset member)
    refine ⟨by simp [single, ellipsis], ?_⟩
    exact (Text.width_concat_ellipsis single).trans (Nat.add_le_add_right taken.narrow 1)

theorem clip_eq_self_iff (text : List Char) : clip text = text ↔ Fits text :=
  ⟨fun same => same ▸ fits_clip text, clip_of_fits⟩

/-- A cell shows one line of at most 40 columns: the text if it is one, and else as much of its
first line as leaves room for an ellipsis.  What is shown can be shown again. -/
theorem clip_one_narrow_line (text : List Char) :
    '\n' ∉ clip text ∧ width (clip text) ≤ 40 ∧
      (clip text = text ↔ '\n' ∉ text ∧ width text ≤ 40) ∧
      (clip text ≠ text → ∃ line part, FirstLine text line ∧ Longest 39 line part ∧
        clip text = part ++ ['…']) ∧
      clip (clip text) = clip text := by
  obtain ⟨single, narrow⟩ := fits_clip text
  refine ⟨single, narrow, clip_eq_self_iff text, fun changed => ?_, clip_of_fits ⟨single, narrow⟩⟩
  have overflows : ¬ Fits text := mt clip_of_fits changed
  exact ⟨_, _, firstLine_spec text, Text.longest_takeColumns 39 _, clip_of_not_fits overflows⟩

end Screen

end RowStream
