/-!
# Reading natural numbers

Decimal digits, perhaps behind a plus sign, with a value below a bound.  A text may fail to be
such a number in several ways at once; the first place where it fails decides what is reported.
-/

set_option autoImplicit false

namespace RowStream

inductive NumeralError where
  | empty
  | invalidDigit
  | tooLarge
  deriving DecidableEq, Repr

def NumeralError.message : NumeralError → String
  | .empty => "cannot parse integer from empty string"
  | .invalidDigit => "invalid digit found in string"
  | .tooLarge => "number too large to fit in target type"

/-- Reads digits behind those that make up `value`; the first place where the text stops being
a number below the bound decides the error. -/
def readDigits (bound : Nat) : Nat → List Char → Except NumeralError Nat
  | value, [] => .ok value
  | value, char :: rest =>
      if !char.isDigit then .error .invalidDigit
      else
        let next := 10 * value + (char.toNat - '0'.toNat)
        if bound ≤ next then .error .tooLarge else readDigits bound next rest

def readNatural (bound : Nat) (text : String) : Except NumeralError Nat :=
  match text.toList with
  | [] => .error .empty
  | ['+'] => .error .invalidDigit
  | '+' :: digits => readDigits bound 0 digits
  | digits => readDigits bound 0 digits

end RowStream
