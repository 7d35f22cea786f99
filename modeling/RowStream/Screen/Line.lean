import RowStream.Screen.Canvas

/-!
# Lines of text on a canvas

Drawing one line of text into an area.  What does not fit is left out: at the end of a line that
is set flush left, at the start of one that is set flush right.  Control characters are never
drawn.
-/

set_option autoImplicit false

namespace RowStream.Screen

inductive Alignment where
  | left
  | right
  deriving DecidableEq, Repr

/-- A piece of text of one colour; without one it keeps the colour that is there. -/
structure Span where
  text : String
  color : Option Color
  deriving DecidableEq, Repr

structure Styled where
  symbol : List Char
  color : Option Color
  deriving DecidableEq, Repr

def drawable (chars : List Char) : List (List Char) :=
  (Text.graphemes chars).filter fun grapheme => !grapheme.any Text.isControl

def Span.graphemes (span : Span) : List Styled :=
  (drawable span.text.toList).map fun symbol => ⟨symbol, span.color⟩

/-- Draws graphemes from a column on, as far as the area goes.  `started` says that something
stands in the area already. -/
def drawGraphemes (area : Area) (color : Option Color) :
    Bool → Nat → List (List Char) → Canvas → Canvas
  | _, _, [], canvas => canvas
  | started, x, grapheme :: rest, canvas =>
      let width := Text.graphemeWidth grapheme
      if area.right < x + width then canvas
      else
        let drawn :=
          if !started then canvas.put x area.y grapheme color
          else if x = area.x then canvas.attach x area.y grapheme color
          else if width = 0 then canvas.attach (x - 1) area.y grapheme color
          else canvas.put x area.y grapheme color
        let covered := (List.range (width - 1)).foldl (fun canvas offset =>
          canvas.clear (x + 1 + offset) area.y) drawn
        drawGraphemes area color true (x + width) rest covered

def lastFitting (limit : Nat) (chars : List Char) : List (List Char) :=
  (Text.takeFitting limit (Text.graphemes chars).reverse).reverse

def drawLine (area : Area) (alignment : Alignment) (color : Option Color) (chars : List Char)
    (canvas : Canvas) : Canvas :=
  let width := Text.width chars
  if area.isEmpty || width = 0 then canvas
  else
    match alignment with
    | .left => drawGraphemes area color false area.x (drawable chars) canvas
    | .right =>
        let shown := if width ≤ area.width then Text.graphemes chars
          else lastFitting area.width chars
        let indent := area.width - Text.graphemesWidth shown
        let place := { area with x := area.x + indent, width := area.width - indent }
        drawGraphemes place color false place.x
          (shown.filter fun grapheme => !grapheme.any Text.isControl) canvas

/-! ## Paragraphs -/

def drawStyled (y : Nat) : Nat → List Styled → Canvas → Canvas
  | _, [], canvas => canvas
  | x, grapheme :: rest, canvas =>
      let width := Text.graphemeWidth grapheme.symbol
      if width = 0 then drawStyled y x rest canvas
      else drawStyled y (x + width) rest (canvas.put x y grapheme.symbol grapheme.color)

/-- As much of a line as fits into a width, from `skipped` columns on. -/
def truncateLine (limit : Nat) : Nat → Nat → List Styled → List Styled
  | _, _, [] => []
  | used, skipped, grapheme :: rest =>
      let width := Text.graphemeWidth grapheme.symbol
      if limit < width then truncateLine limit used skipped rest
      else if limit < used + width then []
      else if skipped = 0 then grapheme :: truncateLine limit (used + width) 0 rest
      else if width ≤ skipped then truncateLine limit used (skipped - width) rest
      else grapheme :: truncateLine limit (used + width) 0 rest

def drawParagraph (area : Area) (lines : List (List Styled)) (canvas : Canvas) : Canvas :=
  if area.isEmpty then canvas
  else
    ((lines.take area.height).zipIdx).foldl
      (fun canvas (line, index) => drawStyled (area.y + index) area.x line canvas) canvas

end RowStream.Screen
