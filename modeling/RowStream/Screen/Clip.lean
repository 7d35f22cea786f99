import RowStream.Text.Width

/-!
# Clipping

A table cell shows one line of bounded width.  What is left out, be it more lines or more
columns, is marked by an ellipsis.
-/

set_option autoImplicit false

namespace RowStream.Screen

/-- The first line of a text.  A carriage return in front of the line feed belongs to the line
end. -/
def firstLine (text : List Char) : List Char :=
  let (line, rest) := text.span (· ≠ '\n')
  if rest ≠ [] ∧ line.getLast? = some '\r' then line.dropLast else line

def maxCellWidth : Nat := 40

def ellipsis : Char := '…'

/-- The text, if it is one line that is narrow enough; else as much of its first line as leaves
room for an ellipsis.  What is shown is the whole text when it has as many bytes. -/
def clip (text : List Char) : List Char :=
  let line := firstLine text
  let clipped := Text.takeColumns maxCellWidth line
  if (String.ofList clipped).utf8ByteSize = (String.ofList text).utf8ByteSize then clipped
  else Text.takeColumns (maxCellWidth - 1) line ++ [ellipsis]

end RowStream.Screen
