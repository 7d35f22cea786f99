import RowStream.Text.Width

/-!
# A text editor

Lines of text with a cursor and perhaps a selection, which reaches from its anchor to the
cursor.  Every change is one `splice`: the text between two positions gives way to other text.
The history remembers what was there before and after, so that changes can be undone and done
again.  Columns count characters.
-/

set_option autoImplicit false

namespace RowStream

structure Position where
  row : Nat
  column : Nat
  deriving DecidableEq, Repr

def Position.before (first second : Position) : Bool :=
  first.row < second.row || (first.row = second.row && first.column < second.column)

structure Snapshot where
  lines : List (List Char)
  cursor : Position
  deriving DecidableEq, Repr

structure Change where
  before : Snapshot
  after : Snapshot
  deriving DecidableEq, Repr

structure History where
  /-- Latest first. -/
  done : List Change
  /-- What was undone, the next one to be done again first. -/
  undone : List Change
  deriving DecidableEq, Repr

namespace History

def empty : History := ⟨[], []⟩

def capacity : Nat := 50

/-- A new change; what was undone is forgotten. -/
def push (history : History) (change : Change) : History :=
  let full := history.done.length + history.undone.length = capacity
  { done := change :: (if full then history.done.dropLast else history.done), undone := [] }

end History

structure Viewport where
  top : Nat
  left : Nat
  width : Nat
  height : Nat
  deriving DecidableEq, Repr

structure Editor where
  /-- At least one line. -/
  lines : List (List Char)
  cursor : Position
  anchor : Option Position
  history : History
  clipboard : List (List Char)
  viewport : Viewport
  deriving DecidableEq, Repr

namespace Editor

def ofLine (text : String) : Editor :=
  { lines := [text.toList], cursor := ⟨0, text.toList.length⟩, anchor := none
    history := .empty, clipboard := [[]], viewport := ⟨0, 0, 0, 0⟩ }

def isEmpty (editor : Editor) : Bool := editor.lines = [[]]

def text (editor : Editor) : String := String.ofList editor.lines.flatten

def line (editor : Editor) (row : Nat) : List Char := (editor.lines[row]?).getD []

def currentLine (editor : Editor) : List Char := editor.line editor.cursor.row

/-! ## Selection -/

def selection? (editor : Editor) : Option (Position × Position) :=
  match editor.anchor with
  | none => none
  | some anchor =>
      if anchor.before editor.cursor then some (anchor, editor.cursor)
      else if editor.cursor.before anchor then some (editor.cursor, anchor)
      else none

def unselect (editor : Editor) : Editor := { editor with anchor := none }

def textBetween (editor : Editor) (start stop : Position) : List (List Char) :=
  if start.row = stop.row then
    [((editor.line start.row).take stop.column).drop start.column]
  else
    (editor.line start.row).drop start.column ::
      (editor.lines.take stop.row).drop (start.row + 1) ++
      [(editor.line stop.row).take stop.column]

/-! ## Changes -/

/-- Lines put between the text in front of them and the text behind them. -/
def joinLines (front : List Char) (chunk : List (List Char)) (behind : List Char) :
    List (List Char) :=
  match chunk with
  | [] => [front ++ behind]
  | [only] => [front ++ only ++ behind]
  | first :: rest => (front ++ first) :: rest.dropLast ++ [(rest.getLast?.getD []) ++ behind]

def endOf (start : Position) (chunk : List (List Char)) : Position :=
  let last := (chunk.getLast?.getD []).length
  if chunk.length ≤ 1 then ⟨start.row, start.column + last⟩
  else ⟨start.row + chunk.length - 1, last⟩

/-- Puts lines in the place of the text between two positions; the cursor goes behind them. -/
def splice (editor : Editor) (start stop : Position) (chunk : List (List Char)) : Editor :=
  let lines :=
    editor.lines.take start.row ++
      joinLines ((editor.line start.row).take start.column) chunk
        ((editor.line stop.row).drop stop.column) ++
      editor.lines.drop (stop.row + 1)
  let cursor := endOf start chunk
  { editor with
    lines, cursor
    history := editor.history.push ⟨⟨editor.lines, stop⟩, ⟨lines, cursor⟩⟩ }

def remove (editor : Editor) (start stop : Position) : Editor := editor.splice start stop [[]]

/-- Removes the selected text; the answer says whether there was any. -/
def removeSelection (editor : Editor) : Bool × Editor :=
  match editor.selection? with
  | some (start, stop) => (true, editor.unselect.remove start stop)
  | none => (false, editor.unselect)

def insertLines (editor : Editor) (chunk : List (List Char)) : Editor :=
  let cleared := editor.removeSelection.2
  cleared.splice cleared.cursor cleared.cursor chunk

def insertChar (editor : Editor) (char : Char) : Editor := editor.insertLines [[char]]

def insertNewline (editor : Editor) : Editor := editor.insertLines [[], []]

/-- Tabs reach up to the next column that is a multiple of this. -/
def tabWidth : Nat := 4

/-- Puts in blanks in the place of a tab.  Control characters take no column. -/
def insertTab (editor : Editor) : Editor :=
  let cleared := editor.removeSelection.2
  let front := cleared.currentLine.take cleared.cursor.column
  let column := Text.charsWidth (front.filter (!Text.isControl ·))
  cleared.insertLines [List.replicate (tabWidth - column % tabWidth) ' ']

def paste (editor : Editor) : Bool × Editor :=
  if editor.clipboard = [[]] then (false, editor.removeSelection.2)
  else (true, editor.insertLines editor.clipboard)

def copy (editor : Editor) : Editor :=
  match editor.selection? with
  | some (start, stop) =>
      { editor.unselect with clipboard := editor.textBetween start stop }
  | none => editor.unselect

def cut (editor : Editor) : Bool × Editor :=
  match editor.selection? with
  | some _ => (true, { editor.removeSelection.2 with clipboard := editor.copy.clipboard })
  | none => (false, editor.unselect)

def undo (editor : Editor) : Bool × Editor :=
  match editor.history.done with
  | [] => (false, editor)
  | change :: rest =>
      (true, { editor.unselect with
        lines := change.before.lines
        cursor := change.before.cursor
        history := ⟨rest, change :: editor.history.undone⟩ })

def redo (editor : Editor) : Bool × Editor :=
  match editor.history.undone with
  | [] => (false, editor)
  | change :: rest =>
      (true, { editor.unselect with
        lines := change.after.lines
        cursor := change.after.cursor
        history := ⟨change :: editor.history.done, rest⟩ })

end Editor

end RowStream
