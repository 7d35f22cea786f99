import RowStream.Editor.Motion
import RowStream.Screen.Line

/-!
# The query bar

The part of the editor's text that is on the screen.  The view follows the cursor: it moves only
when the cursor would leave it, and no further than needed.
-/

set_option autoImplicit false

namespace RowStream.Screen.QueryBar

def placeholder : String := "Index.sqlite/tb0?limit=100"

/-- The start of a view of this length that contains the cursor. -/
def follow (start cursor length : Nat) : Nat :=
  if cursor < start then cursor
  else if start + length ≤ cursor then cursor + 1 - length
  else start

def viewport (editor : Editor) (area : Area) : Viewport :=
  { top := follow editor.viewport.top editor.cursor.row area.height
    left := follow editor.viewport.left editor.cursor.column area.width
    width := area.width
    height := area.height }

/-- Columns of a row where the look of the text changes: around the cursor and at the ends of
the selection. -/
def seams (editor : Editor) (row : Nat) : List Nat :=
  (if editor.cursor.row = row then [editor.cursor.column, editor.cursor.column + 1] else []) ++
    match editor.selection? with
    | some (start, stop) =>
        (if start.row = row then [start.column] else []) ++
          (if stop.row = row then [stop.column] else [])
    | none => []

def pieces (seams : List Nat) (line : List Char) : List (List Char) :=
  let places := (0 :: seams ++ [line.length]).mergeSort (· ≤ ·)
  (places.zip (places.drop 1)).map fun (start, stop) => (line.take stop).drop start

def expandTabs : Nat → List Char → List Char
  | _, [] => []
  | column, char :: rest =>
      if char = '\t' then
        let blanks := Editor.tabWidth - column % Editor.tabWidth
        List.replicate blanks ' ' ++ expandTabs (column + blanks) rest
      else
        let width := if Text.isControl char then 0 else Text.charWidth char
        char :: expandTabs (column + width) rest

/-- The pieces of a line with their tabs as blanks, counted on from piece to piece. -/
def expandPieces : Nat → List (List Char) → List (List Char)
  | _, [] => []
  | column, piece :: rest =>
      let expanded := expandTabs column piece
      expanded :: expandPieces (column + Text.charsWidth (expanded.filter (!Text.isControl ·))) rest

def styled (chars : List Char) (color : Option Color) : List Styled :=
  (drawable chars).map fun symbol => ⟨symbol, color⟩

def draw (area : Area) (editor : Editor) (canvas : Canvas) : Canvas :=
  let view := viewport editor area
  let rows :=
    if editor.isEmpty then [styled (' ' :: placeholder.toList) (some .darkGray)]
    else
      ((editor.lines.zipIdx.drop view.top).take area.height).map fun (line, row) =>
        (expandPieces 0 (pieces (seams editor row) line)).flatMap (styled · none)
  drawParagraph area (rows.map (truncateLine area.width 0 view.left)) canvas

end RowStream.Screen.QueryBar
