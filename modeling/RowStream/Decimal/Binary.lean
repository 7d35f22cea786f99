/-!
# Doubles as exact numbers

`Binary.ofFloat` splits the 64 bits of a double into a sign, an integer and a power of two, so
that questions about its value become questions about integers.
-/

set_option autoImplicit false

namespace RowStream.Decimal

inductive Binary where
  | notANumber
  | infinite (negative : Bool)
  /-- The number `± mantissa · 2 ^ exponent`. -/
  | finite (negative : Bool) (mantissa : Nat) (exponent : Int)
  deriving DecidableEq, Repr

namespace Binary

/-- Reads the fields of the binary64 format: one bit of sign, eleven of exponent, 52 of
fraction.  The smallest exponent field has no hidden bit. -/
def ofBits (bits : UInt64) : Binary :=
  let negative := bits.toNat / Nat.pow 2 63 = 1
  let field : Nat := bits.toNat / Nat.pow 2 52 % Nat.pow 2 11
  let fraction : Nat := bits.toNat % Nat.pow 2 52
  if field = 2047 then if fraction = 0 then .infinite negative else .notANumber
  else if field = 0 then .finite negative fraction (-1074)
  else .finite negative (Nat.pow 2 52 + fraction) ((field : Int) - 1075)

def ofFloat (value : Float) : Binary := ofBits value.toBits

def integer? : Binary → Option Int
  | .finite negative mantissa (.ofNat exponent) =>
      let magnitude : Int := (mantissa * Nat.pow 2 exponent : Nat)
      some (if negative then -magnitude else magnitude)
  | .finite negative mantissa (.negSucc exponent) =>
      if mantissa % Nat.pow 2 (exponent + 1) = 0 then
        let magnitude : Int := (mantissa / Nat.pow 2 (exponent + 1) : Nat)
        some (if negative then -magnitude else magnitude)
      else none
  | _ => none

end Binary

end RowStream.Decimal
