import RowStream.Decimal.Binary

/-!
# The shortest decimal that reads back

`Shortest.ofMantissa` finds, for a positive double `mantissa · 2 ^ exponent`, the decimal with
the fewest digits that still rounds to it, and of those the nearest one.

For one digit, two digits and so on, the two neighbours of the value on the decimal grid of
that many digits are tested against the interval of numbers that round to the double.  The
interval reaches half a unit in the last place to each side, but only a quarter downwards from
a power of two, where the doubles below stand closer.  Its ends belong to it when the mantissa
is even.  Everything is compared in exact integers, in quarters of a unit in the last place.
-/

set_option autoImplicit false

namespace RowStream.Decimal

/-- The number `digits · 10 ^ exponent`. -/
structure Shortest where
  digits : Nat
  exponent : Int
  deriving DecidableEq, Repr

namespace Shortest

def ratio (base : Nat) : Int → Nat × Nat
  | .ofNat exponent => (Nat.pow base exponent, 1)
  | .negSucc exponent => (1, Nat.pow base (exponent + 1))

def digitCount (value : Nat) : Nat :=
  if value = 0 then 0 else digitCount (value / 10) + 1
termination_by value
decreasing_by omega

/-- Whether `left · 10 ^ scale ≤ right · 2 ^ exponent`. -/
def decimalLe (left : Nat) (scale : Int) (right : Nat) (exponent : Int) : Bool :=
  let (decimalTop, decimalBottom) := ratio 10 scale
  let (binaryTop, binaryBottom) := ratio 2 exponent
  left * decimalTop * binaryBottom ≤ right * binaryTop * decimalBottom

def decimalGe (left : Nat) (scale : Int) (right : Nat) (exponent : Int) : Bool :=
  let (decimalTop, decimalBottom) := ratio 10 scale
  let (binaryTop, binaryBottom) := ratio 2 exponent
  right * binaryTop * decimalBottom ≤ left * decimalTop * binaryBottom

def leadingPower (mantissa : Nat) (exponent : Int) : Int :=
  let (top, bottom) := ratio 2 exponent
  let guess : Int := digitCount (mantissa * top) - digitCount bottom
  if decimalLe 1 guess mantissa exponent then guess else guess - 1

def floorSteps (mantissa : Nat) (exponent scale : Int) : Nat :=
  let (decimalTop, decimalBottom) := ratio 10 scale
  let (binaryTop, binaryBottom) := ratio 2 exponent
  mantissa * binaryTop * decimalBottom / (binaryBottom * decimalTop)

/-- The interval of numbers that round to a double, in quarters of a unit in the last place. -/
structure Interval where
  low : Nat
  high : Nat
  closed : Bool

def interval (mantissa : Nat) (exponent : Int) : Interval :=
  { low := 4 * mantissa - (if mantissa = Nat.pow 2 52 ∧ -1074 < exponent then 1 else 2)
    high := 4 * mantissa + 2
    closed := mantissa % 2 = 0 }

def Interval.holds (interval : Interval) (exponent : Int) (steps : Nat) (scale : Int) : Bool :=
  let quarter := exponent - 2
  if interval.closed then
    decimalGe steps scale interval.low quarter && decimalLe steps scale interval.high quarter
  else
    !decimalLe steps scale interval.low quarter && !decimalGe steps scale interval.high quarter

/-- The first grid, from `digits` digits on, that has a number in the interval. -/
def search (mantissa : Nat) (exponent leading : Int) : Nat → Nat → Shortest
  | 0, digits =>
      let scale := leading - (digits - 1 : Nat)
      { digits := floorSteps mantissa exponent scale, exponent := scale }
  | tries + 1, digits =>
      let scale := leading - (digits - 1 : Nat)
      let below := floorSteps mantissa exponent scale
      let around := interval mantissa exponent
      let lowFits := around.holds exponent below scale
      let highFits := around.holds exponent (below + 1) scale
      if lowFits && highFits then
        -- the nearer one: the value lies below the middle exactly when twice the value does
        if decimalLe (2 * below + 1) scale (2 * mantissa) exponent then
          { digits := below + 1, exponent := scale }
        else { digits := below, exponent := scale }
      else if lowFits then { digits := below, exponent := scale }
      else if highFits then { digits := below + 1, exponent := scale }
      else search mantissa exponent leading tries (digits + 1)

/-- The shortest decimal of a positive double; seventeen digits always suffice. -/
def ofMantissa (mantissa : Nat) (exponent : Int) : Shortest :=
  search mantissa exponent (leadingPower mantissa exponent) 17 1

end Shortest

end RowStream.Decimal
