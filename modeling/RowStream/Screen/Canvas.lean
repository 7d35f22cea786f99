import RowStream.Text.Blank
import RowStream.Text.Width

/-!
# A canvas of character cells

What is drawn on a terminal: cells in rows, each with the text that stands in it and its colour.
A wide character stands in the first of its two cells, and marks stand in the cell of the
character that they belong to.
-/

set_option autoImplicit false

namespace RowStream.Screen

inductive Color where
  | reset
  | cyan
  | yellow
  | darkGray
  | red
  | green
  | magenta
  | white
  deriving DecidableEq, Repr

def Color.name : Color → String
  | .reset => "Reset"
  | .cyan => "Cyan"
  | .yellow => "Yellow"
  | .darkGray => "DarkGray"
  | .red => "Red"
  | .green => "Green"
  | .magenta => "Magenta"
  | .white => "White"

structure Area where
  x : Nat
  y : Nat
  width : Nat
  height : Nat
  deriving DecidableEq, Repr

namespace Area

def isEmpty (area : Area) : Bool := area.width = 0 || area.height = 0

def right (area : Area) : Nat := area.x + area.width

def bottom (area : Area) : Nat := area.y + area.height

def inner (area : Area) : Area :=
  ⟨area.x + 1, area.y + 1, area.width - 2, area.height - 2⟩

def row (area : Area) (index : Nat) : Area := ⟨area.x, area.y + index, area.width, 1⟩

end Area

structure Glyph where
  symbol : List Char
  color : Color
  deriving DecidableEq, Repr

def Glyph.blank : Glyph := ⟨[' '], .reset⟩

structure Canvas where
  rows : Array (Array Glyph)

namespace Canvas

def blank (width height : Nat) : Canvas :=
  ⟨Array.replicate height (Array.replicate width .blank)⟩

def glyph (canvas : Canvas) (x y : Nat) : Glyph :=
  ((canvas.rows[y]?).bind (·[x]?)).getD .blank

/-- Changes one cell; there is nothing outside the canvas. -/
def modify (canvas : Canvas) (x y : Nat) (change : Glyph → Glyph) : Canvas :=
  ⟨canvas.rows.modify y (·.modify x change)⟩

/-- Puts a text into a cell.  The cell keeps its colour when no other one is given. -/
def put (canvas : Canvas) (x y : Nat) (symbol : List Char) (color : Option Color) : Canvas :=
  canvas.modify x y fun glyph => ⟨symbol, color.getD glyph.color⟩

def attach (canvas : Canvas) (x y : Nat) (marks : List Char) (color : Option Color) : Canvas :=
  canvas.modify x y fun glyph => ⟨glyph.symbol ++ marks, color.getD glyph.color⟩

def clear (canvas : Canvas) (x y : Nat) : Canvas := canvas.modify x y fun _ => .blank

def tint (canvas : Canvas) (area : Area) (color : Color) : Canvas :=
  (List.range area.height).foldl (fun canvas dy =>
    (List.range area.width).foldl (fun canvas dx =>
      canvas.modify (area.x + dx) (area.y + dy) fun glyph => { glyph with color }) canvas) canvas

/-! ## Reading a canvas -/

/-- The text of cells, leaving out those that a wide character covers. -/
def visibleSymbols (covered : Nat) : List Glyph → List Char
  | [] => []
  | glyph :: rest =>
      if 0 < covered then visibleSymbols (covered - 1) rest
      else glyph.symbol ++ visibleSymbols (Text.width glyph.symbol - 1) rest

def rowText (row : Array Glyph) : String :=
  String.ofList (Text.trimEnd (visibleSymbols 0 row.toList))

def lines (canvas : Canvas) : List String := canvas.rows.toList.map rowText

end Canvas

end RowStream.Screen
