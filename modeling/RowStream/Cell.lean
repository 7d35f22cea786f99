import RowStream.Decimal.Layout
import RowStream.Json.Text

/-!
# Table cells

A cell is one value of a result row.  `Cell.ofJson?` reads it: a string is text, a number is an
integer where its value is one that a double holds exactly and a double otherwise, and a nested
array or object has no place in a table and becomes empty text.  `Cell.display` is what a
reader sees, `Cell.toJson` is the cell as JSON.
-/

set_option autoImplicit false

namespace RowStream

inductive Cell where
  | text (value : String)
  | integer (value : Int64)
  | float (value : Float)
  | boolean (value : Bool)
  | null

abbrev Row := List Cell

namespace Cell

def isNull : Cell → Bool
  | .null => true
  | _ => false

def isNumeric : Cell → Bool
  | .integer _ => true
  | .float _ => true
  | _ => false

/-- The largest magnitude up to which a double holds every integer. -/
def exactBound : Nat := 9007199254740992

def ofFloat (value : Float) : Cell :=
  match (Decimal.Binary.ofFloat value).integer? with
  | some whole =>
      if whole.natAbs ≤ exactBound then .integer (Int64.ofInt whole) else .float value
  | none => .float value

def ofNumber : Json.Number → Cell
  | .natural value =>
      if value.toNat < Nat.pow 2 63 then .integer (Int64.ofInt value.toNat)
      else .float value.toFloat
  | .negative value => .integer value
  | .double value => ofFloat value

/-- Reads a cell.  What is nested inside it is not looked at, but the names of an object's
members have to be text. -/
def ofJson? : Json → Option Cell
  | .null => some .null
  | .boolean value => some (.boolean value)
  | .number literal => (Json.Number.ofLiteral? literal).map ofNumber
  | .string raw => raw.toText?.map .text
  | .array _ => some (.text "")
  | .object members =>
      if members.all (·.1.toText?.isSome) then some (.text "") else none

/-- Doubles for a reader: never an exponent, and no point in a whole number. -/
def displayLayout : Decimal.Layout where
  isPositional _ := true
  wholeEnding := ""
  infinity := "inf"
  negativeInfinity := "-inf"
  notANumber := "NaN"

/-- Doubles in JSON: an exponent from `10^16` upwards and below `10^-5`, and a point in every
other number.  JSON has no word for what is not finite. -/
def jsonLayout : Decimal.Layout where
  isPositional leading := -5 ≤ leading && leading < 16
  wholeEnding := ".0"
  infinity := "null"
  negativeInfinity := "null"
  notANumber := "null"

def display : Cell → String
  | .text value => value
  | .integer value => toString value.toInt
  | .float value => displayLayout.write value
  | .boolean value => if value then "true" else "false"
  | .null => ""

def toJson : Cell → String
  | .text value => Json.quote value
  | .integer value => toString value.toInt
  | .float value => jsonLayout.write value
  | .boolean value => if value then "true" else "false"
  | .null => "null"

end Cell

end RowStream
