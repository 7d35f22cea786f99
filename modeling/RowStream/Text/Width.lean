import RowStream.Text.Grapheme

/-!
# Width on the screen

How many columns a text takes on a terminal: two for East Asian wide characters and for
pictographs, none for marks, one for anything else.  `takeColumns` is the longest prefix of whole
graphemes within a width.
-/

set_option autoImplicit false

namespace RowStream.Text

def isControl (char : Char) : Bool :=
  char.toNat < 0x20 || (0x7f ≤ char.toNat && char.toNat < 0xa0)

def charWidth (char : Char) : Nat :=
  if char.toNat < 0xa0 then 1
  else if inRanges extendRanges char || inRanges ignorableRanges char then 0
  else if inRanges wideRanges char then 2
  else 1

/-- The width of characters that each stand for themselves. -/
def charsWidth (chars : List Char) : Nat :=
  chars.foldr (fun char total => charWidth char + total) 0

def pictographSelector : Char := '\ufe0f'

def textSelector : Char := '\ufe0e'

/-- Whether the marks of a pictograph join another one to it. -/
def joinsPictograph : List Char → Bool
  | joiner :: next :: rest =>
      (joiner = zeroWidthJoiner && inRanges pictographicRanges next) ||
        joinsPictograph (next :: rest)
  | _ => false

def graphemeWidth : List Char → Nat
  | [] => 0
  | [char] => charWidth char
  | ['\r', '\n'] => 1
  | base :: mark :: rest =>
      let pictograph := inRanges pictographicRanges base
      if mark = pictographSelector && (pictograph || inRanges keycapRanges base) then 2
      else if mark = textSelector && pictograph && base.toNat < 0x10000 then 1
      else if pictograph && (inRanges toneRanges mark || joinsPictograph (mark :: rest)) then 2
      else charsWidth (base :: mark :: rest)

def graphemesWidth (graphemes : List (List Char)) : Nat :=
  graphemes.foldr (fun grapheme total => graphemeWidth grapheme + total) 0

def width (chars : List Char) : Nat := graphemesWidth (graphemes chars)

def takeFitting (limit : Nat) : List (List Char) → List (List Char)
  | [] => []
  | grapheme :: rest =>
      if graphemeWidth grapheme ≤ limit then
        grapheme :: takeFitting (limit - graphemeWidth grapheme) rest
      else []

/-- The longest prefix of whole graphemes that is at most so many columns wide. -/
def takeColumns (limit : Nat) (chars : List Char) : List Char :=
  (takeFitting limit (graphemes chars)).flatten

end RowStream.Text
