import Mathlib.Algebra.Order.Field.Power
import Mathlib.Data.Rat.Lemmas
import Mathlib.Tactic.Linarith
import Mathlib.Tactic.NormNum
import Mathlib.Tactic.Positivity
import RowStream.Proofs.Doubles

/-!
# The normal form of a cell

A cell does not always survive as it is when it is written and read again: JSON has no word for an
infinite double, and a double that is a whole number is read as an integer.  `Cell.norm` says what
it becomes, in terms of the rational number that a double stands for.  No cell that was read is
changed by it (`norm_of_ofJson?`).
-/

set_option autoImplicit false

namespace RowStream

namespace Decimal.Binary

def signed (negative : Bool) (magnitude : Nat) : Int :=
  if negative then -(magnitude : Int) else magnitude

def value? : Binary → Option ℚ
  | .finite negative mantissa exponent =>
      some ((signed negative mantissa : ℚ) * 2 ^ exponent)
  | _ => none

theorem value?_of_finite {binary : Binary} {negative : Bool} {mantissa : Nat} {exponent : Int}
    (finite : binary = .finite negative mantissa exponent) :
    binary.value? = some ((signed negative mantissa : ℚ) * 2 ^ exponent) := by
  rw [finite, value?]

theorem natAbs_signed (negative : Bool) (magnitude : Nat) :
    (signed negative magnitude).natAbs = magnitude := by
  cases negative <;> simp [signed]

theorem signed_mul (negative : Bool) (magnitude factor : Nat) :
    signed negative (magnitude * factor) = signed negative magnitude * factor := by
  cases negative <;> simp [signed]

theorem abs_value (negative : Bool) (mantissa : Nat) (exponent : Int) :
    |(signed negative mantissa : ℚ) * 2 ^ exponent| = mantissa * 2 ^ exponent := by
  have power_pos : (0 : ℚ) < 2 ^ exponent := zpow_pos two_pos exponent
  rw [abs_mul, abs_of_pos power_pos, ← Int.cast_abs, Int.abs_eq_natAbs, natAbs_signed]
  rfl

theorem whole_power_iff (number whole : Int) (exponent : Nat) :
    number * 2 ^ exponent = whole ↔ (number : ℚ) * 2 ^ (exponent : Int) = whole := by
  rw [zpow_natCast]
  exact_mod_cast Iff.rfl

theorem negative_power_iff (number whole : Int) (exponent : Nat) :
    number = whole * 2 ^ (exponent + 1) ↔ (number : ℚ) * 2 ^ Int.negSucc exponent = whole := by
  rw [zpow_negSucc, ← div_eq_mul_inv, div_eq_iff (by positivity)]
  exact_mod_cast Iff.rfl

theorem integer?_eq_some_iff (binary : Binary) (whole : Int) :
    binary.integer? = some whole ↔ binary.value? = some (whole : ℚ) := by
  cases binary with
  | notANumber => simp [integer?, value?]
  | infinite negative => simp [integer?, value?]
  | finite negative mantissa exponent =>
      cases exponent with
      | ofNat exponent =>
          rw [value?, Option.some.injEq, Int.ofNat_eq_natCast, ← whole_power_iff]
          change some (signed negative (mantissa * 2 ^ exponent)) = some whole ↔ _
          rw [signed_mul, Option.some.injEq, Nat.cast_pow, Nat.cast_ofNat]
      | negSucc exponent =>
          rw [value?, Option.some.injEq, ← negative_power_iff]
          change (if mantissa % 2 ^ (exponent + 1) = 0 then
            some (signed negative (mantissa / 2 ^ (exponent + 1))) else none) = some whole ↔ _
          by_cases divides : 2 ^ (exponent + 1) ∣ mantissa
          · obtain ⟨quotient, rfl⟩ := divides
            have unit_pos := Nat.two_pow_pos (exponent + 1)
            rw [if_pos (Nat.mul_mod_right _ _), Nat.mul_div_cancel_left quotient unit_pos, mul_comm,
              signed_mul, Option.some.injEq, Nat.cast_pow, Nat.cast_ofNat,
              mul_left_inj' (by positivity)]
          · rw [if_neg fun rest => divides (Nat.dvd_of_mod_eq_zero rest)]
            refine iff_of_false (by simp) ?_
            intro scaled
            have multiple := congrArg Int.natAbs scaled
            rw [natAbs_signed, Int.natAbs_mul, Int.natAbs_pow] at multiple
            exact divides (Dvd.intro_left whole.natAbs multiple.symm)

end Decimal.Binary

namespace Cell

open Decimal (Binary)

/-- What a cell becomes when it is written and read again. -/
def norm : Cell → Cell
  | .float value =>
      match (Binary.ofFloat value).value? with
      | none => .null
      | some number =>
          if number.den = 1 ∧ |number| ≤ 2 ^ 53 then .integer (Int64.ofInt number.num)
          else .float value
  | cell => cell

theorem norm_of_undenoted {value : Float} (undenoted : (Binary.ofFloat value).value? = none) :
    norm (.float value) = .null := by
  simp only [norm, undenoted]

theorem norm_of_whole {value : Float} {number : ℚ}
    (denoted : (Binary.ofFloat value).value? = some number)
    (whole : number.den = 1 ∧ |number| ≤ 2 ^ 53) :
    norm (.float value) = .integer (Int64.ofInt number.num) := by
  simp only [norm, denoted, if_pos whole]

theorem norm_of_other {value : Float} {number : ℚ}
    (denoted : (Binary.ofFloat value).value? = some number)
    (other : ¬ (number.den = 1 ∧ |number| ≤ 2 ^ 53)) : norm (.float value) = .float value := by
  simp only [norm, denoted, if_neg other]

theorem norm_norm (cell : Cell) : cell.norm.norm = cell.norm := by
  cases cell with
  | float value =>
      cases denoted : (Binary.ofFloat value).value? with
      | none =>
          rw [norm_of_undenoted denoted]
          rfl
      | some number =>
          by_cases whole : number.den = 1 ∧ |number| ≤ 2 ^ 53
          · rw [norm_of_whole denoted whole]
            rfl
          · rw [norm_of_other denoted whole, norm_of_other denoted whole]
  | text value => rfl
  | integer value => rfl
  | boolean value => rfl
  | null => rfl

theorem ofFloat_eq_norm {value : Float} {number : ℚ}
    (denoted : (Binary.ofFloat value).value? = some number) :
    ofFloat value = norm (.float value) := by
  have integer_iff := Binary.integer?_eq_some_iff (Binary.ofFloat value)
  rw [denoted] at integer_iff
  rw [ofFloat]
  cases integer : (Binary.ofFloat value).integer? with
  | none =>
      have notWhole : number.den ≠ 1 := by
        intro whole
        have same := (integer_iff number.num).mpr
          (congrArg some (Rat.coe_int_num_of_den_eq_one whole).symm)
        rw [integer] at same
        cases same
      rw [norm_of_other denoted fun whole => notWhole whole.1]
  | some whole =>
      obtain rfl := Option.some.inj ((integer_iff whole).mp integer)
      have bound_iff : |(whole : ℚ)| ≤ 2 ^ 53 ↔ whole.natAbs ≤ exactBound := by
        have cast_eq : |(whole : ℚ)| = (whole.natAbs : ℚ) := by
          rw [Nat.cast_natAbs, Int.cast_abs]
        rw [cast_eq]
        exact_mod_cast Iff.rfl
      by_cases exact : whole.natAbs ≤ exactBound
      · rw [norm_of_whole denoted ⟨rfl, bound_iff.mpr exact⟩]
        simp only [if_pos exact, Rat.num_intCast]
      · rw [norm_of_other denoted fun whole => exact (bound_iff.mp whole.2)]
        simp only [if_neg exact]

theorem norm_toFloat {value : UInt64} (large : 2 ^ 63 ≤ value.toNat) :
    norm (.float value.toFloat) = .float value.toFloat := by
  obtain ⟨negative, mantissa, exponent, finite, wide, above⟩ := Decimal.ofFloat_toFloat large
  have size : (2 : ℚ) ^ 63 ≤ mantissa * 2 ^ exponent := by
    have mantissa_le : (2 : ℚ) ^ 52 ≤ mantissa := by exact_mod_cast wide
    have power_le : (2 : ℚ) ^ (11 : ℤ) ≤ 2 ^ exponent :=
      zpow_le_zpow_right₀ (by norm_num) above
    calc (2 : ℚ) ^ 63 = (2 : ℚ) ^ 52 * (2 : ℚ) ^ (11 : ℤ) := by norm_num
      _ ≤ (mantissa : ℚ) * (2 : ℚ) ^ exponent :=
        mul_le_mul mantissa_le power_le (by positivity) (by positivity)
  refine norm_of_other (Binary.value?_of_finite finite) fun whole => ?_
  have bounded := whole.2
  rw [Binary.abs_value] at bounded
  norm_num at size bounded
  linarith

/-- What was read is not changed when it is written and read again. -/
theorem norm_of_ofJson? {json : Json} {cell : Cell} (read : ofJson? json = some cell) :
    cell.norm = cell := by
  cases json with
  | null =>
      cases read
      rfl
  | boolean value =>
      cases read
      rfl
  | string raw =>
      obtain ⟨text, _, rfl⟩ := Option.map_eq_some_iff.mp read
      rfl
  | array items =>
      cases read
      rfl
  | object members =>
      rw [ofJson?] at read
      split at read
      · cases read
        rfl
      · cases read
  | number literal =>
      obtain ⟨number, denotes, rfl⟩ := Option.map_eq_some_iff.mp read
      cases number with
      | natural value =>
          rw [ofNumber]
          split
          · rfl
          · rename_i large
            exact norm_toFloat (Nat.le_of_not_lt large)
      | negative value => rfl
      | double value =>
          obtain ⟨negative, mantissa, exponent, finite⟩ :=
            Decimal.finite_of_readDouble? (Decimal.readDouble?_of_double denotes)
          have denoted := Binary.value?_of_finite finite
          rw [ofNumber, ofFloat_eq_norm denoted, norm_norm]

end Cell

end RowStream
