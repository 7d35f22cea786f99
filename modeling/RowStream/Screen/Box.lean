import RowStream.Screen.Line

/-!
# Boxes

A border around an area, with a title on its upper edge and perhaps one on its lower edge.
-/

set_option autoImplicit false

namespace RowStream.Screen

structure Box where
  borderColor : Option Color
  titleColor : Option Color
  title : Option String
  footnote : Option String
  deriving DecidableEq, Repr

namespace Box

def drawHorizontal (area : Area) (y : Nat) (color : Option Color) (canvas : Canvas) : Canvas :=
  (List.range area.width).foldl (fun canvas offset =>
    canvas.put (area.x + offset) y ['─'] color) canvas

def drawVertical (area : Area) (x : Nat) (color : Option Color) (canvas : Canvas) : Canvas :=
  (List.range area.height).foldl (fun canvas offset =>
    canvas.put x (area.y + offset) ['│'] color) canvas

def drawBorder (area : Area) (color : Option Color) (canvas : Canvas) : Canvas :=
  let right := area.right - 1
  let bottom := area.bottom - 1
  ((((((((canvas |> drawVertical area area.x color)
    |> drawHorizontal area area.y color)
    |> drawVertical area right color)
    |> drawHorizontal area bottom color).put right bottom ['┘'] color).put
      right area.y ['┐'] color).put area.x bottom ['└'] color).put area.x area.y ['┌'] color)

def drawTitle (edge : Area) (alignment : Alignment) (color : Option Color) (title : String)
    (canvas : Canvas) : Canvas :=
  let width := min (Text.width title.toList) edge.width
  let x := match alignment with
    | .left => edge.x
    | .right => edge.right - width
  let place := { edge with x, width }
  let tinted := match color with
    | some color => canvas.tint place color
    | none => canvas
  drawLine place alignment none title.toList tinted

def draw (area : Area) (box : Box) (canvas : Canvas) : Canvas :=
  if area.isEmpty then canvas
  else
    let bordered := drawBorder area box.borderColor canvas
    let edge (y : Nat) : Area := ⟨area.x + 1, y, area.width - 2, 1⟩
    let titled := match box.title with
      | some title => drawTitle (edge area.y) .left box.titleColor title bordered
      | none => bordered
    match box.footnote with
    | some note => drawTitle (edge (area.bottom - 1)) .right box.titleColor note titled
    | none => titled

end Box

end RowStream.Screen
