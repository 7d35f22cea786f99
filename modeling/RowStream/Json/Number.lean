import RowStream.Bytes

/-!
# Number literals and the numbers they denote

A literal is first read as what was written: a sign, digits, a fraction and an exponent.
Only a literal that is needed as a value is turned into a `Number`: a 64-bit integer when it
is written as one and fits, otherwise a double.

A double is read through a 64-bit significand.  Digits are taken while they fit; those that do
not are dropped, and a dropped digit in front of the point counts as a power of ten.  The
significand is then scaled by one power of ten, and by further steps of `10^308` when the
literal is smaller than that.  A literal too large for a double denotes no number.
-/

set_option autoImplicit false

namespace RowStream.Json

structure NumberLiteral where
  negative : Bool
  whole : List Nat
  fraction : List Nat
  exponent : Option Int
  deriving DecidableEq, Repr

def digitValue? (byte : UInt8) : Option Nat :=
  if 0x30 ≤ byte && byte ≤ 0x39 then some (byte.toNat - 0x30) else none

def splitDigits (bytes : Bytes) : List Nat × Bytes :=
  ((bytes.takeWhile (digitValue? · |>.isSome)).filterMap digitValue?,
    bytes.dropWhile (digitValue? · |>.isSome))

def ofDigits (digits : List Nat) : Nat := digits.foldl (fun value digit => 10 * value + digit) 0

namespace NumberLiteral

def readExponent? (bytes : Bytes) : Option Int :=
  let (negative, unsigned) :=
    match bytes with
    | 0x2b :: rest => (false, rest)
    | 0x2d :: rest => (true, rest)
    | rest => (false, rest)
  match splitDigits unsigned with
  | (digits, []) =>
      if digits.isEmpty then none
      else if negative then some (-(ofDigits digits : Int)) else some (ofDigits digits)
  | _ => none

/-- The end of a literal: nothing, or an exponent. -/
def readTail? (negative : Bool) (whole fraction : List Nat) : Bytes → Option NumberLiteral
  | [] => some { negative, whole, fraction, exponent := none }
  | mark :: rest =>
      if mark = 0x65 ∨ mark = 0x45 then
        (readExponent? rest).map fun exponent =>
          { negative, whole, fraction, exponent := some exponent }
      else none

/-- Reads a whole literal: no leading zeros, no lone point, no sign but a minus. -/
def read? (bytes : Bytes) : Option NumberLiteral :=
  let (negative, unsigned) :=
    match bytes with
    | 0x2d :: rest => (true, rest)
    | rest => (false, rest)
  let (whole, rest) := splitDigits unsigned
  if whole.isEmpty || (whole.length ≠ 1 && whole.head? = some 0) then none
  else
    match rest with
    | 0x2e :: behindPoint =>
        let (fraction, rest) := splitDigits behindPoint
        if fraction.isEmpty then none else readTail? negative whole fraction rest
    | rest => readTail? negative whole [] rest

def isWhole (literal : NumberLiteral) : Bool :=
  literal.fraction.isEmpty && literal.exponent.isNone

end NumberLiteral

inductive Number where
  | natural (value : UInt64)
  | negative (value : Int64)
  | double (value : Float)

namespace Number

/-- Extends a significand by further digits while it stays below `2^64`; the digits from the
first that does not fit are left over. -/
def significand : Nat → List Nat → Nat × List Nat
  | value, [] => (value, [])
  | value, digit :: rest =>
      if 10 * value + digit < Nat.pow 2 64 then significand (10 * value + digit) rest
      else (value, digit :: rest)

def powerOfTen (exponent : Nat) : Float := Float.ofScientific 1 false exponent

def dividePower (value : Float) (exponent : Nat) : Float :=
  if exponent ≤ 308 then value / powerOfTen exponent
  else if value == 0 then value
  else dividePower (value / powerOfTen 308) (exponent - 308)
termination_by exponent

/-- Scales by a power of ten; nothing when the result is too large for a double. -/
def scale? (value : Float) : Int → Option Float
  | .ofNat exponent =>
      if exponent ≤ 308 then
        let scaled := value * powerOfTen exponent
        if scaled.isInf then none else some scaled
      else if value == 0 then some value else none
  | .negSucc exponent => some (dividePower value (exponent + 1))

def readDouble? (literal : NumberLiteral) : Option Float :=
  let (value, dropped) := significand 0 literal.whole
  let (value, unread) := significand value literal.fraction
  let shift : Int := dropped.length - (literal.fraction.length - unread.length)
  (scale? value.toUInt64.toFloat (shift + literal.exponent.getD 0)).map fun magnitude =>
    if literal.negative then -magnitude else magnitude

/-- The number that a literal denotes.  An integer that fits 64 bits stays an integer, but a
negative zero is a double. -/
def ofLiteral? (literal : NumberLiteral) : Option Number :=
  let (value, dropped) := significand 0 literal.whole
  let double := (readDouble? literal).map .double
  if !literal.isWhole || !dropped.isEmpty then double
  else if !literal.negative then some (.natural (UInt64.ofNat value))
  else if 0 < value && value ≤ Nat.pow 2 63 then some (.negative (Int64.ofInt (-value)))
  else double

end Number

end RowStream.Json
