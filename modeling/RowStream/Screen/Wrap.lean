import RowStream.Screen.Line
import RowStream.Text.Blank

/-!
# Breaking lines between words

A line that is too long for a width is broken where blanks stand, and the blanks there are
dropped.  A word that is longer than the width is broken inside.
-/

set_option autoImplicit false

namespace RowStream.Screen.Wrap

/-- Blanks at which a line may be broken; the zero width space is one of them and the no-break
space is none. -/
def isBreak (grapheme : Styled) : Bool :=
  grapheme.symbol = ['\u200b'] ||
    (grapheme.symbol.all Text.isBlank && grapheme.symbol ≠ ['\u00a0'])

def totalWidth (graphemes : List Styled) : Nat :=
  Text.graphemesWidth (graphemes.map Styled.symbol)

/-- A line in the making: what is settled, the blanks behind it, and the word behind those. -/
structure State where
  finished : List (List Styled)
  line : List Styled
  blanks : List Styled
  word : List Styled
  inWord : Bool

def State.start : State := ⟨[], [], [], [], false⟩

def State.settle (state : State) : State :=
  { state with
    line := (if state.line = [] then [] else state.line ++ state.blanks) ++ state.word
    blanks := []
    word := [] }

def dropFitting : Nat → List Styled → List Styled
  | _, [] => []
  | room, blank :: rest =>
      let width := Text.graphemeWidth blank.symbol
      if width ≤ room then dropFitting (room - width) rest else blank :: rest

/-- Finishes the line; blanks that would have stood at its end are dropped. -/
def State.breakLine (limit : Nat) (state : State) : State :=
  { state with
    finished := state.line :: state.finished
    line := []
    blanks := dropFitting (limit - totalWidth state.line) state.blanks }

def State.add (limit : Nat) (state : State) (grapheme : Styled) : State :=
  let width := Text.graphemeWidth grapheme.symbol
  let blank := isBreak grapheme
  if limit < width then state
  else
    let overflows := state.line = [] &&
      (limit < totalWidth state.word + width || limit < totalWidth state.blanks + width)
    let settled := if (state.inWord && blank) || overflows then state.settle else state
    let lineWidth := totalWidth settled.line
    let full := limit ≤ lineWidth ||
      (0 < width && limit ≤ lineWidth + totalWidth settled.blanks + totalWidth settled.word)
    let broken := if full then settled.breakLine limit else settled
    if full && blank && broken.blanks = [] then broken
    else if blank then { broken with blanks := broken.blanks ++ [grapheme], inWord := false }
    else { broken with word := broken.word ++ [grapheme], inWord := true }

def State.lines (state : State) : List (List Styled) :=
  let onlyBlanks := state.line = [] && state.word = [] && state.blanks ≠ []
  let finished := if onlyBlanks then [] :: state.finished else state.finished
  let last := state.settle.line
  let all := if last = [] then finished else last :: finished
  if all = [] then [[]] else all.reverse

end Wrap

def wrapLine (limit : Nat) (graphemes : List Styled) : List (List Styled) :=
  (graphemes.foldl (Wrap.State.add limit) Wrap.State.start).lines

end RowStream.Screen
