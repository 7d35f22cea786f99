import RowStream.Results
import RowStream.Screen.Clip
import RowStream.Screen.Line

/-!
# The table of results

Columns of equal width with one blank between them, a line with their names, a blank line, and
below it the visible rows.
-/

set_option autoImplicit false

namespace RowStream.Screen.Table

/-- A fraction of columns, rounded to hundredths first and then to whole columns. -/
def roundColumns (numerator denominator : Nat) : Nat :=
  let hundredths := (200 * numerator + denominator) / (2 * denominator)
  (hundredths + 50) / 100

def columns (width count : Nat) : List (Nat × Nat) :=
  (List.range count).map fun index =>
    let start := roundColumns (index * (width + 1)) count
    let stop := roundColumns ((index + 1) * (width + 1) - count) count
    (start, stop - start)

structure Entry where
  text : List Char
  alignment : Alignment
  color : Option Color
  deriving DecidableEq, Repr

def headerEntry (results : Results) (index : Nat) : Entry :=
  let name := (results.columnName? index).getD ("col " ++ toString (index + 1))
  { text := firstLine name.toList, alignment := .left, color := some .yellow }

def cellEntry : Option Cell → Entry
  | none => { text := [], alignment := .left, color := none }
  | some .null => { text := "NULL".toList, alignment := .left, color := some .darkGray }
  | some cell =>
      { text := clip cell.display.toList
        alignment := if cell.isNumeric then .right else .left
        color := none }

def drawRow (area : Area) (entries : List Entry) (canvas : Canvas) : Canvas :=
  (entries.zip (columns area.width entries.length)).foldl
    (fun canvas (entry, start, width) =>
      let place := { area with x := area.x + start, width }
      let tinted := match entry.color with
        | some color => canvas.tint place color
        | none => canvas
      drawLine place entry.alignment none entry.text tinted) canvas

/-- So many lines of a table are taken up by the names of the columns. -/
def headerHeight : Nat := 2

def bodyHeight (area : Area) : Nat := area.inner.height - headerHeight

def draw (area : Area) (results : Results) (height : Nat) (canvas : Canvas) : Canvas :=
  if area.isEmpty then canvas
  else
    let indices := List.range results.columnCount
    let named := drawRow (area.row 0) (indices.map (headerEntry results)) canvas
    ((results.visibleRows height).zipIdx).foldl (fun canvas (row, index) =>
      drawRow (area.row (headerHeight + index))
        (indices.map fun column => cellEntry row[column]?) canvas) named

end RowStream.Screen.Table
