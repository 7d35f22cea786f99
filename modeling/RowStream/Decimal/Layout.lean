import RowStream.Decimal.Shortest

/-!
# Writing doubles

The digits of a double are always the shortest that read back; a `Layout` says how they are
set: for which sizes the number is written positionally, whether a whole number keeps a point,
and the texts for what is not a finite number.
-/

set_option autoImplicit false

namespace RowStream.Decimal

structure Layout where
  /-- Numbers whose leading digit stands at one of these powers of ten are written without an
  exponent. -/
  isPositional : Int → Bool
  wholeEnding : String
  infinity : String
  negativeInfinity : String
  notANumber : String

namespace Layout

def zeros (count : Nat) : List Char := List.replicate count '0'

def positional (wholeEnding : String) (digits : List Char) : Int → List Char
  | .ofNat exponent => digits ++ zeros exponent ++ wholeEnding.toList
  | .negSucc exponent =>
      let places := exponent + 1
      if places < digits.length then
        digits.take (digits.length - places) ++ '.' :: digits.drop (digits.length - places)
      else '0' :: '.' :: (zeros (places - digits.length) ++ digits)

def scientific (digits : List Char) (leading : Int) : List Char :=
  let mantissa :=
    match digits with
    | first :: next :: rest => first :: '.' :: next :: rest
    | short => short
  let power :=
    match leading with
    | .ofNat exponent => '+' :: (toString exponent).toList
    | .negSucc exponent => '-' :: (toString (exponent + 1)).toList
  mantissa ++ 'e' :: power

/-- The digits without the zeros at their end, which move into the exponent. -/
def dropZeros (digits : Nat) (exponent : Int) : Nat × Int :=
  if digits ≠ 0 ∧ digits % 10 = 0 then dropZeros (digits / 10) (exponent + 1)
  else (digits, exponent)
termination_by digits
decreasing_by omega

def magnitude (layout : Layout) (mantissa : Nat) (exponent : Int) : List Char :=
  if mantissa = 0 then '0' :: layout.wholeEnding.toList
  else
    let shortest := Shortest.ofMantissa mantissa exponent
    let (digits, scale) := dropZeros shortest.digits shortest.exponent
    let text := (toString digits).toList
    let leading := scale + text.length - 1
    if layout.isPositional leading then positional layout.wholeEnding text scale
    else scientific text leading

def write (layout : Layout) (value : Float) : String :=
  match Binary.ofFloat value with
  | .notANumber => layout.notANumber
  | .infinite negative => if negative then layout.negativeInfinity else layout.infinity
  | .finite negative mantissa exponent =>
      let text := layout.magnitude mantissa exponent
      String.ofList (if negative then '-' :: text else text)

end Layout

end RowStream.Decimal
