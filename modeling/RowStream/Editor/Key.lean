import RowStream.Editor.Motion

/-!
# Keys of the editor

What each key does to the text.  The answer of `Editor.press` says whether the key changed the
text; moving the cursor alone is no change.
-/

set_option autoImplicit false

namespace RowStream

inductive Key where
  | char (char : Char)
  | enter
  | tab
  | escape
  | backspace
  | delete
  | left
  | right
  | up
  | down
  | home
  | lineEnd
  | pageUp
  | pageDown
  | function (number : Nat)
  deriving DecidableEq, Repr

structure Modifiers where
  control : Bool
  alt : Bool
  shift : Bool
  deriving DecidableEq, Repr

def Modifiers.none : Modifiers := ⟨false, false, false⟩

def Modifiers.onlyControl : Modifiers := ⟨true, false, false⟩

namespace Editor

def pressPlain (editor : Editor) (char : Char) : Bool × Editor :=
  if char = '\n' ∨ char = '\r' then (true, editor.insertNewline)
  else (true, editor.insertChar char)

def pressControl (editor : Editor) (char : Char) (shift : Bool) : Bool × Editor :=
  match char with
  | 'm' => (true, editor.insertNewline)
  | 'h' => editor.removeSelectionOr removeCharBefore
  | 'd' => editor.removeSelectionOr removeCharBehind
  | 'k' => editor.removeSelectionOr removeToLineEnd
  | 'j' => editor.removeSelectionOr removeToLineStart
  | 'w' => editor.removeSelectionOr removeWordBefore
  | 'n' => (false, editor.move .down shift)
  | 'p' => (false, editor.move .up shift)
  | 'f' => (false, editor.move .forward shift)
  | 'b' => (false, editor.move .back shift)
  | 'a' => (false, editor.move .head shift)
  | 'e' => (false, editor.move .lineEnd shift)
  | 'v' => (false, editor.page true shift)
  | 'u' => editor.undo
  | 'r' => editor.redo
  | 'y' => editor.paste
  | 'x' => editor.cut
  | 'c' => (false, editor.copy)
  | _ => (false, editor)

def pressAlt (editor : Editor) (char : Char) (shift : Bool) : Bool × Editor :=
  match char with
  | 'h' => editor.removeSelectionOr removeWordBefore
  | 'd' => editor.removeSelectionOr removeWordBehind
  | '<' => (false, editor.move .top shift)
  | '>' => (false, editor.move .bottom shift)
  | 'f' => (false, editor.move .wordForward shift)
  | 'b' => (false, editor.move .wordBack shift)
  | 'n' => (false, editor.move .paragraphForward shift)
  | ']' => (false, editor.move .paragraphForward shift)
  | 'p' => (false, editor.move .paragraphBack shift)
  | '[' => (false, editor.move .paragraphBack shift)
  | 'v' => (false, editor.page false shift)
  | _ => (false, editor)

def pressControlAlt (editor : Editor) (char : Char) (shift : Bool) : Bool × Editor :=
  match char with
  | 'b' => (false, editor.move .head shift)
  | 'f' => (false, editor.move .lineEnd shift)
  | 'p' => (false, editor.move .top shift)
  | 'n' => (false, editor.move .bottom shift)
  | _ => (false, editor)

def pressChar (editor : Editor) (char : Char) (modifiers : Modifiers) : Bool × Editor :=
  match modifiers.control, modifiers.alt with
  | false, false => editor.pressPlain char
  | true, false => editor.pressControl char modifiers.shift
  | false, true => editor.pressAlt char modifiers.shift
  | true, true => editor.pressControlAlt char modifiers.shift

/-- A motion that control and alt change.  Alt without control is no motion. -/
def pressArrow (editor : Editor) (plain control both : Motion) (modifiers : Modifiers) :
    Bool × Editor :=
  match modifiers.control, modifiers.alt with
  | false, false => (false, editor.move plain modifiers.shift)
  | true, false => (false, editor.move control modifiers.shift)
  | true, true => (false, editor.move both modifiers.shift)
  | false, true => (false, editor)

/-- What a key does; whether it changed the text, and the editor after it. -/
def press (editor : Editor) (key : Key) (modifiers : Modifiers) : Bool × Editor :=
  match key with
  | .char char => editor.pressChar char modifiers
  | .enter => (true, editor.insertNewline)
  | .tab =>
      if modifiers.control || modifiers.alt then (false, editor) else (true, editor.insertTab)
  | .backspace =>
      match modifiers.control, modifiers.alt with
      | false, false => editor.removeSelectionOr removeCharBefore
      | false, true => editor.removeSelectionOr removeWordBefore
      | _, _ => (false, editor)
  | .delete =>
      match modifiers.control, modifiers.alt with
      | false, false => editor.removeSelectionOr removeCharBehind
      | false, true => editor.removeSelectionOr removeWordBehind
      | _, _ => (false, editor)
  | .left => editor.pressArrow .back .wordBack .head modifiers
  | .right => editor.pressArrow .forward .wordForward .lineEnd modifiers
  | .up => editor.pressArrow .up .paragraphBack .top modifiers
  | .down => editor.pressArrow .down .paragraphForward .bottom modifiers
  | .home => (false, editor.move .head modifiers.shift)
  | .lineEnd => (false, editor.move .lineEnd modifiers.shift)
  | .pageUp => (false, editor.page false modifiers.shift)
  | .pageDown => (false, editor.page true modifiers.shift)
  | .escape => (false, editor)
  | .function _ => (false, editor)

end Editor

end RowStream
