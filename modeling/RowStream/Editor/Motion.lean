import RowStream.Editor.Basic
import RowStream.Text.Blank

/-!
# Moving through text

Where the cursor goes: by characters, by words, by lines and by paragraphs.  A word is a run of
punctuation or a run of other characters that are not blank.  A motion that leads nowhere leaves
cursor and selection alone.
-/

set_option autoImplicit false

namespace RowStream.Editor

inductive CharKind where
  | blank
  | punctuation
  | other
  deriving DecidableEq, Repr

def CharKind.of (char : Char) : CharKind :=
  if Text.isBlank char then .blank
  else if 0x21 ≤ char.toNat ∧ char.toNat ≤ 0x7e ∧ !char.isAlphanum then .punctuation
  else .other

/-- The first place behind the start where a run of one kind gives way to another one, and
`counts` says of the kinds before and after that it does. -/
def boundaryFrom? (counts : CharKind → CharKind → Bool) (column : Nat) (last : CharKind) :
    List Char → Option Nat
  | [] => none
  | char :: rest =>
      let kind := CharKind.of char
      if counts last kind then some column
      else boundaryFrom? counts (column + 1) kind rest

def boundaryBehind? (counts : CharKind → CharKind → Bool) (line : List Char) (column : Nat) :
    Option Nat :=
  match line.drop column with
  | [] => none
  | char :: rest => boundaryFrom? counts (column + 1) (CharKind.of char) rest

def wordStartBehind? : List Char → Nat → Option Nat :=
  boundaryBehind? fun last next => next ≠ .blank && last ≠ next

def wordEndBehind? : List Char → Nat → Option Nat :=
  boundaryBehind? fun last next => last ≠ .blank && last ≠ next

/-- The start of a word in front of a place, reading characters back from it. -/
def wordStartBack? (column : Nat) (last : CharKind) : List Char → Option Nat
  | [] => if last = .blank then none else some 0
  | char :: rest =>
      let kind := CharKind.of char
      if last ≠ .blank ∧ last ≠ kind then some column
      else wordStartBack? (column - 1) kind rest

def wordStartBefore? (line : List Char) (column : Nat) : Option Nat :=
  match (line.take column).reverse with
  | [] => none
  | char :: rest => wordStartBack? (min column line.length - 1) (CharKind.of char) rest

inductive Motion where
  | forward
  | back
  | up
  | down
  | head
  | lineEnd
  | top
  | bottom
  | wordForward
  | wordBack
  | paragraphForward
  | paragraphBack
  /-- Into the part of the text that is on the screen. -/
  | intoView
  deriving DecidableEq, Repr

def fit (editor : Editor) (row column : Nat) : Position :=
  ⟨row, min column (editor.line row).length⟩

def paragraphRow? (lastIsEmpty : Bool) (row : Nat) : List (List Char) → Option Nat
  | [] => none
  | line :: rest =>
      if !line.isEmpty && lastIsEmpty then some row
      else paragraphRow? line.isEmpty (row + 1) rest

/-- Reading rows back from one: the row behind the first blank one in front of text. -/
def paragraphRowBack? (lastIsEmpty : Bool) (row : Nat) : List (List Char) → Option Nat
  | [] => none
  | line :: rest =>
      if line.isEmpty && !lastIsEmpty then some row
      else paragraphRowBack? line.isEmpty (row - 1) rest

def destination? (editor : Editor) (motion : Motion) : Option Position :=
  let ⟨row, column⟩ := editor.cursor
  let line := editor.currentLine
  let lastRow := editor.lines.length - 1
  match motion with
  | .forward =>
      if column < line.length then some ⟨row, column + 1⟩
      else if row < lastRow then some ⟨row + 1, 0⟩
      else none
  | .back =>
      if 0 < column then some ⟨row, column - 1⟩
      else if 0 < row then some ⟨row - 1, (editor.line (row - 1)).length⟩
      else none
  | .up => if 0 < row then some (editor.fit (row - 1) column) else none
  | .down => if row < lastRow then some (editor.fit (row + 1) column) else none
  | .head => some ⟨row, 0⟩
  | .lineEnd => some ⟨row, line.length⟩
  | .top => some (editor.fit 0 column)
  | .bottom => some (editor.fit lastRow column)
  | .wordForward =>
      match wordStartBehind? line column with
      | some start => some ⟨row, start⟩
      | none => if row < lastRow then some ⟨row + 1, 0⟩ else some ⟨row, line.length⟩
  | .wordBack =>
      match wordStartBefore? line column with
      | some start => some ⟨row, start⟩
      | none =>
          if 0 < row then some ⟨row - 1, (editor.line (row - 1)).length⟩ else some ⟨row, 0⟩
  | .paragraphForward =>
      let found := paragraphRow? line.isEmpty (row + 1) (editor.lines.drop (row + 1))
      some (editor.fit (found.getD lastRow) column)
  | .paragraphBack =>
      if row = 0 then none
      else
        let found := paragraphRowBack? (editor.line (row - 1)).isEmpty (row - 1)
          (editor.lines.take (row - 1)).reverse
        some (editor.fit (found.getD 0) column)
  | .intoView =>
      let view := editor.viewport
      let visibleRow := min (max row view.top) (max view.top (view.top + view.height - 1))
      let visibleColumn := min (max column view.left) (max view.left (view.left + view.width - 1))
      some (editor.fit (min visibleRow lastRow) visibleColumn)

/-- Moves the cursor; `selecting` says whether the text on the way is selected. -/
def move (editor : Editor) (motion : Motion) (selecting : Bool) : Editor :=
  match editor.destination? motion with
  | none => editor
  | some cursor =>
      { editor with
        cursor
        anchor := if selecting then some (editor.anchor.getD editor.cursor) else none }

def page (editor : Editor) (down selecting : Bool) : Editor :=
  let view := editor.viewport
  let top := if down then view.top + view.height else view.top - view.height
  let anchor := if selecting then some (editor.anchor.getD editor.cursor) else editor.anchor
  { editor with viewport := { view with top }, anchor }.move .intoView selecting

/-! ## Removing text next to the cursor -/

/-- Removes what `removeBeside` finds, unless text is selected, which is then removed instead. -/
def removeSelectionOr (removeBeside : Editor → Bool × Editor) (editor : Editor) :
    Bool × Editor :=
  match editor.removeSelection with
  | (true, removed) => (true, removed)
  | (false, unselected) => removeBeside unselected

def removeNewline (editor : Editor) : Bool × Editor :=
  let row := editor.cursor.row
  if row = 0 then (false, editor)
  else (true, editor.remove ⟨row - 1, (editor.line (row - 1)).length⟩ ⟨row, 0⟩)

/-- Removes the text between two columns of the line and keeps it on the clipboard. -/
def removePiece (editor : Editor) (start stop : Nat) : Bool × Editor :=
  let row := editor.cursor.row
  let stop := min stop editor.currentLine.length
  if start < stop then
    let piece := editor.textBetween ⟨row, start⟩ ⟨row, stop⟩
    (true, { editor.remove ⟨row, start⟩ ⟨row, stop⟩ with clipboard := piece })
  else (false, editor)

def removeCharBefore (editor : Editor) : Bool × Editor :=
  let ⟨row, column⟩ := editor.cursor
  if column = 0 then editor.removeNewline
  else (true, editor.remove ⟨row, column - 1⟩ ⟨row, column⟩)

def removeCharBehind (editor : Editor) : Bool × Editor :=
  match editor.destination? .forward with
  | none => (false, editor)
  | some _ => (editor.move .forward false).removeCharBefore

def removeToLineEnd (editor : Editor) : Bool × Editor :=
  match editor.removePiece editor.cursor.column editor.currentLine.length with
  | (true, removed) => (true, removed)
  | (false, same) => same.removeCharBehind

def removeToLineStart (editor : Editor) : Bool × Editor :=
  match editor.removePiece 0 editor.cursor.column with
  | (true, removed) => (true, removed)
  | (false, same) => same.removeNewline

def removeWordBefore (editor : Editor) : Bool × Editor :=
  let column := editor.cursor.column
  match wordStartBefore? editor.currentLine column with
  | some start => editor.removePiece start column
  | none => if 0 < column then editor.removePiece 0 column else editor.removeNewline

def removeWordBehind (editor : Editor) : Bool × Editor :=
  let ⟨row, column⟩ := editor.cursor
  let line := editor.currentLine
  match wordEndBehind? line column with
  | some stop => editor.removePiece column stop
  | none =>
      if column < line.length then editor.removePiece column line.length
      else if row + 1 < editor.lines.length then
        { editor with cursor := ⟨row + 1, 0⟩ }.removeNewline
      else (false, editor)

end RowStream.Editor
