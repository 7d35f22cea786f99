import RowStream.Text.Ranges

/-!
# White space

`isBlank` is the White_Space property of Unicode, and `trim` takes blanks off both ends of a
text.
-/

set_option autoImplicit false

namespace RowStream.Text

/-- The code points with the property White_Space, as ranges with both ends included. -/
def blankRanges : List (Nat × Nat) :=
  [(0x9, 0xd), (0x20, 0x20), (0x85, 0x85), (0xa0, 0xa0), (0x1680, 0x1680), (0x2000, 0x200a),
    (0x2028, 0x2029), (0x202f, 0x202f), (0x205f, 0x205f), (0x3000, 0x3000)]

def isBlank (char : Char) : Bool := inRanges blankRanges char

def trimEnd (chars : List Char) : List Char := (chars.reverse.dropWhile isBlank).reverse

def trim (text : String) : String := String.ofList (trimEnd (text.toList.dropWhile isBlank))

end RowStream.Text
