import RowStream.Proofs.Nesting

/-!
# Whole numbers in cells

An integer that is written as one becomes an integer cell, whatever its sign and size.  With a
fraction or an exponent it is read as a double first, and a double is an integer cell only up to
`2 ^ 53` (`Cell.reads_integral`): what lies above may be one of several integers.
-/

set_option autoImplicit false

namespace RowStream

open Decimal (Binary)
open Json (NumberLiteral Spelling)
open Json.Number (readDouble?)

namespace Decimal

/-! ## Nearest doubles -/

def Representable (number : ℚ) : Prop :=
  ∃ negative mantissa exponent, mantissa < 2 ^ 53 ∧ -1074 ≤ exponent ∧ exponent ≤ 971 ∧
    number = (Binary.signed negative mantissa : ℚ) * 2 ^ (exponent : Int)

/-- No number that a double stands for is nearer than the one that this double stands for. -/
def Nearest (double : Float) (number : ℚ) : Prop :=
  ∃ own, (Binary.ofFloat double).value? = some own ∧
    ∀ other, Representable other → |own - number| ≤ |other - number|

theorem nearest_of_value? {double : Float} {number : ℚ}
    (denoted : (Binary.ofFloat double).value? = some number) : Nearest double number := by
  refine ⟨number, denoted, fun other _ => ?_⟩
  rw [sub_self, abs_zero]
  exact abs_nonneg _

theorem exists_nearest_of_integer? {literal : NumberLiteral} {whole : Int}
    (integer : ((readDouble? literal).bind fun double => (Binary.ofFloat double).integer?) =
      some whole) : ∃ double, readDouble? literal = some double ∧ Nearest double whole := by
  obtain ⟨double, read, integer_eq⟩ := Option.bind_eq_some_iff.mp integer
  exact ⟨double, read, nearest_of_value? ((Binary.integer?_eq_some_iff _ _).mp integer_eq)⟩

theorem exists_signed (whole : Int) : ∃ negative, Binary.signed negative whole.natAbs = whole := by
  by_cases negative : whole < 0
  · refine ⟨true, ?_⟩
    simp only [Binary.signed, if_true]
    omega
  · refine ⟨false, ?_⟩
    simp only [Binary.signed, Bool.false_eq_true, if_false]
    omega

theorem representable_of_even (half : Int) (narrow : half.natAbs < 2 ^ 53) :
    Representable (half * 2) := by
  obtain ⟨negative, signed_eq⟩ := exists_signed half
  exact ⟨negative, half.natAbs, 1, narrow, by decide, by decide, by rw [signed_eq, zpow_one]⟩

theorem representable_of_small {whole : Int} (small : whole.natAbs ≤ 2 ^ 53) :
    Representable whole := by
  by_cases narrow : whole.natAbs < 2 ^ 53
  · obtain ⟨negative, signed_eq⟩ := exists_signed whole
    exact ⟨negative, whole.natAbs, 0, narrow, by decide, by decide,
      by rw [signed_eq, zpow_zero, mul_one]⟩
  · obtain ⟨half, rfl⟩ : ∃ half, whole = half * 2 := ⟨whole / 2, by omega⟩
    have even := representable_of_even half (by omega)
    exact_mod_cast even

theorem Nearest.value?_of_small {double : Float} {whole : Int} (nearest : Nearest double whole)
    (small : whole.natAbs ≤ 2 ^ 53) : (Binary.ofFloat double).value? = some (whole : ℚ) := by
  obtain ⟨own, own_eq, least⟩ := nearest
  have distance := least whole (representable_of_small small)
  rw [sub_self, abs_zero] at distance
  have same : own = whole := sub_eq_zero.mp (abs_eq_zero.mp (le_antisymm distance (abs_nonneg _)))
  rw [own_eq, same]

/-- The double that is nearest to a large integer is large: between the integer and `2 ^ 53` there
is another double. -/
theorem Nearest.exists_large {double : Float} {whole : Int} (nearest : Nearest double whole)
    (large : 2 ^ 53 + 1 < whole.natAbs) :
    ∃ own, (Binary.ofFloat double).value? = some own ∧ 2 ^ 53 < |own| := by
  obtain ⟨own, own_eq, least⟩ := nearest
  refine ⟨own, own_eq, ?_⟩
  by_contra small
  have near : -(2 ^ 53) ≤ own ∧ own ≤ 2 ^ 53 := abs_le.mp (not_lt.mp small)
  by_cases negative : whole < 0
  · have next : whole ≤ -(2 ^ 53 + 2) := by omega
    have next_le : (whole : ℚ) ≤ -(2 ^ 53 + 2) := by exact_mod_cast next
    have distance := least _ (representable_of_even (-(2 ^ 52 + 1)) (by decide))
    push_cast at distance
    rw [abs_of_nonneg (by linarith), abs_of_nonneg (by linarith)] at distance
    linarith
  · have next : 2 ^ 53 + 2 ≤ whole := by omega
    have next_le : (2 ^ 53 + 2 : ℚ) ≤ whole := by exact_mod_cast next
    have distance := least _ (representable_of_even (2 ^ 52 + 1) (by decide))
    push_cast at distance
    rw [abs_of_nonpos (by linarith), abs_of_nonpos (by linarith)] at distance
    linarith

end Decimal

namespace Json

/-! ## Integers as they are written -/

theorem NumberLiteral.magnitude_of_isWhole {literal : NumberLiteral} (isWhole : literal.isWhole) :
    literal.magnitude = ofDigits literal.whole := by
  have parts : literal.fraction = [] ∧ literal.exponent = none := by
    simpa [NumberLiteral.isWhole] using isWhole
  simp [NumberLiteral.magnitude, parts.1, parts.2]

theorem NumberLiteral.value_of_isWhole {literal : NumberLiteral} (isWhole : literal.isWhole)
    {whole : Int} (denotes : literal.value = whole) :
    whole = Binary.signed literal.negative (ofDigits literal.whole) := by
  rw [NumberLiteral.value, literal.magnitude_of_isWhole isWhole] at denotes
  unfold Binary.signed
  split
  · rename_i negative
    rw [if_pos negative] at denotes
    exact_mod_cast denotes.symm
  · rename_i positive
    rw [if_neg positive] at denotes
    exact_mod_cast denotes.symm

end Json

namespace Cell

theorem ofFloat_negative_zero : ∃ zero,
    Json.Number.scale? (0 : Nat).toUInt64.toFloat 0 = some zero ∧ ofFloat (-zero) = .integer 0 := by
  have isZero : ((Json.Number.scale? (0 : Nat).toUInt64.toFloat 0).bind fun zero =>
      (Binary.ofFloat (-zero)).integer?) = some 0 := by
    decide +kernel
  obtain ⟨zero, scaled, integer⟩ := Option.bind_eq_some_iff.mp isZero
  refine ⟨zero, scaled, ?_⟩
  simp only [ofFloat, integer]
  rfl

theorem exists_readDouble?_zero {literal : NumberLiteral} (isWhole : literal.isWhole)
    (negative : literal.negative = true) (zero : Json.ofDigits literal.whole = 0) :
    ∃ double, readDouble? literal = some double ∧ ofFloat double = .integer 0 := by
  have parts : literal.fraction = [] ∧ literal.exponent = none := by
    simpa [NumberLiteral.isWhole] using isWhole
  have fits : Json.ofDigits literal.whole < Nat.pow 2 64 := by
    rw [zero]
    decide
  have taken : Json.Number.significand 0 literal.whole = (Json.ofDigits literal.whole, []) :=
    Json.Number.significand_of_fits fits
  obtain ⟨magnitude, scaled, integer⟩ := ofFloat_negative_zero
  refine ⟨-magnitude, ?_, integer⟩
  rw [zero] at taken
  simp only [readDouble?, taken, parts.1, parts.2, negative, Json.Number.significand, if_true]
  exact congrArg (Option.map (-·)) scaled

theorem ofJson?_of_isWhole {literal : NumberLiteral} (isWhole : literal.isWhole) {whole : Int}
    (denotes : literal.value = whole) (least : -2 ^ 63 ≤ whole) (most : whole < 2 ^ 63) :
    ofJson? (.number literal) = some (.integer (Int64.ofInt whole)) := by
  have whole_eq := literal.value_of_isWhole isWhole denotes
  have natAbs_eq := Binary.natAbs_signed literal.negative (Json.ofDigits literal.whole)
  have fits : Json.ofDigits literal.whole < Nat.pow 2 64 := by
    change Json.ofDigits literal.whole < 2 ^ 64
    omega
  have denoted := Json.Number.ofLiteral?_whole isWhole fits
  cases sign : literal.negative with
  | false =>
      rw [sign] at whole_eq denoted
      change whole = (Json.ofDigits literal.whole : Int) at whole_eq
      have toNat_eq : (UInt64.ofNat (Json.ofDigits literal.whole)).toNat =
          Json.ofDigits literal.whole := UInt64.toNat_ofNat_of_lt' fits
      have small : Json.ofDigits literal.whole < Nat.pow 2 63 := by
        change Json.ofDigits literal.whole < 2 ^ 63
        omega
      rw [Bool.not_false, if_pos rfl] at denoted
      rw [ofJson?, denoted, Option.map_some, ofNumber, toNat_eq, if_pos small, whole_eq]
  | true =>
      rw [sign] at whole_eq denoted
      change whole = -(Json.ofDigits literal.whole : Int) at whole_eq
      rw [Bool.not_true, if_neg Bool.false_ne_true] at denoted
      by_cases zero : Json.ofDigits literal.whole = 0
      · obtain ⟨double, read, integer⟩ := exists_readDouble?_zero isWhole sign zero
        rw [zero, read] at denoted
        rw [ofJson?, denoted, whole_eq, zero]
        exact congrArg some integer
      · have bounds : (decide (0 < Json.ofDigits literal.whole) &&
            decide (Json.ofDigits literal.whole ≤ Nat.pow 2 63)) = true := by
          have upper : Json.ofDigits literal.whole ≤ 2 ^ 63 := by omega
          exact Bool.and_eq_true_iff.mpr
            ⟨decide_eq_true (Nat.pos_of_ne_zero zero), decide_eq_true upper⟩
        rw [if_pos bounds] at denoted
        rw [ofJson?, denoted, Option.map_some, ofNumber, whole_eq]

theorem ofJson?_of_nearest {literal : NumberLiteral} (notWhole : literal.isWhole = false)
    {double : Float} (read : readDouble? literal = some double) {whole : Int}
    (nearest : Decimal.Nearest double whole) :
    (whole.natAbs ≤ 2 ^ 53 →
      ofJson? (.number literal) = some (.integer (Int64.ofInt whole))) ∧
      (2 ^ 53 + 1 < whole.natAbs → ofJson? (.number literal) = some (.float double)) := by
  have asDouble : ofJson? (.number literal) = some (ofFloat double) := by
    have denotes : Json.Number.ofLiteral? literal = some (.double double) := by
      simp [Json.Number.ofLiteral?, notWhole, read]
    rw [ofJson?, denotes, Option.map_some, ofNumber]
  refine ⟨fun small => ?_, fun large => ?_⟩
  · have denoted := nearest.value?_of_small small
    have bounded : (whole : ℚ).den = 1 ∧ |(whole : ℚ)| ≤ 2 ^ 53 := by
      refine ⟨Rat.den_intCast whole, ?_⟩
      have small_int : |whole| ≤ 2 ^ 53 := by
        rw [Int.abs_eq_natAbs]
        omega
      exact_mod_cast small_int
    rw [asDouble, ofFloat_eq_norm denoted, norm_of_whole denoted bounded, Rat.num_intCast]
  · obtain ⟨own, denoted, beyond⟩ := nearest.exists_large large
    rw [asDouble, ofFloat_eq_norm denoted,
      norm_of_other denoted fun bounded => absurd bounded.2 (not_le.mpr beyond)]

/-- A literal with an integer value is an integer cell if it is written as one or its value is at
most `2 ^ 53`; above that, and with a double in between, it is a double. -/
theorem reads_integral {literal : NumberLiteral} {bytes : Bytes}
    (spelling : Spelling (.number literal) bytes) {whole : Int} (denotes : literal.value = whole)
    (least : -2 ^ 63 ≤ whole) (most : whole < 2 ^ 63)
    (nearest : literal.isWhole = false →
      ∃ double, readDouble? literal = some double ∧ Decimal.Nearest double whole) :
    (literal.isWhole ∨ whole.natAbs ≤ 2 ^ 53 → ∃ stored : Int64,
      (Json.parse? bytes).bind ofJson? = some (.integer stored) ∧ stored.toInt = whole) ∧
    (literal.isWhole = false → 2 ^ 53 + 1 < whole.natAbs → ∃ double,
      (Json.parse? bytes).bind ofJson? = some (.float double) ∧ Decimal.Nearest double whole) := by
  have stored := Int64.toInt_ofInt_of_le least most
  rw [Json.parse?_spelling spelling, Option.bind_some]
  constructor
  · intro exact
    refine ⟨Int64.ofInt whole, ?_, stored⟩
    cases isWhole : literal.isWhole with
    | true => exact ofJson?_of_isWhole isWhole denotes least most
    | false =>
        obtain ⟨double, read, isNearest⟩ := nearest isWhole
        have small := exact.resolve_left (by rw [isWhole]; decide)
        exact (ofJson?_of_nearest isWhole read isNearest).1 small
  · intro notWhole large
    obtain ⟨double, read, isNearest⟩ := nearest notWhole
    exact ⟨double, (ofJson?_of_nearest notWhole read isNearest).2 large, isNearest⟩

theorem reads_integral_both :
    (∃ stored : Int64, (Json.parse? (Bytes.ofText " 4.2e1")).bind ofJson? =
      some (.integer stored) ∧ stored.toInt = 42) ∧
    ∃ double, (Json.parse? (Bytes.ofText "1e18")).bind ofJson? = some (.float double) ∧
      Decimal.Nearest double (10 ^ 18 : Int) := by
  let small : NumberLiteral :=
    { negative := false, whole := [4], fraction := [2], exponent := some (Json.ofDigits [1]) }
  let large : NumberLiteral :=
    { negative := false, whole := [1], fraction := [], exponent := some (Json.ofDigits [1, 8]) }
  have isSmall : Json.NumberSpelling small (Bytes.ofText "4.2e1") :=
    { wholeBelow := by decide, fractionBelow := by decide, nonempty := by decide
      leading := by decide
      spelled := ⟨_, .positive (Or.inl rfl) (Or.inl rfl) (by decide) (by decide), rfl⟩ }
  have isLarge : Json.NumberSpelling large (Bytes.ofText "1e18") :=
    Json.numberSpelling_scientific (by decide) (by decide) (by decide) (by decide)
  have blank : Json.Blank [0x20] := by
    intro byte member
    rw [List.mem_singleton.mp member]
    decide
  have nothing : Json.Blank [] := fun byte member => absurd member List.not_mem_nil
  have smallValue : small.value = (42 : Int) := by
    norm_num [small, NumberLiteral.value, NumberLiteral.magnitude, Json.ofDigits]
  have largeValue : large.value = (10 ^ 18 : Int) := by
    norm_num [large, NumberLiteral.value, NumberLiteral.magnitude, Json.ofDigits]
  have smallNearest : ∃ double, readDouble? small = some double ∧
      Decimal.Nearest double (42 : Int) :=
    Decimal.exists_nearest_of_integer? (by decide +kernel)
  have largeNearest : ∃ double, readDouble? large = some double ∧
      Decimal.Nearest double (10 ^ 18 : Int) :=
    Decimal.exists_nearest_of_integer? (by decide +kernel)
  constructor
  · exact (reads_integral (.padded blank nothing (.number isSmall)) smallValue (by decide)
      (by decide) fun _ => smallNearest).1 (Or.inr (by decide))
  · exact (reads_integral (.number isLarge) largeValue (by decide) (by decide)
      fun _ => largeNearest).2 rfl (by decide)

/-- A literal may spell an integer of 64 bits and be read as exactly that integer, and still be a
double in its cell. -/
theorem not_reads_integral_large :
    ∃ (literal : NumberLiteral) (double : Float),
      Spelling (.number literal) (Bytes.ofText "1e18") ∧ literal.value = (10 ^ 18 : Int) ∧
        readDouble? literal = some double ∧ Decimal.Nearest double (10 ^ 18 : Int) ∧
        ∀ stored : Int64,
          (Json.parse? (Bytes.ofText "1e18")).bind ofJson? ≠ some (.integer stored) := by
  let literal : NumberLiteral :=
    { negative := false, whole := [1], fraction := [], exponent := some (Json.ofDigits [1, 8]) }
  have spelling : Spelling (.number literal) (Bytes.ofText "1e18") :=
    .number (Json.numberSpelling_scientific (by decide) (by decide) (by decide) (by decide))
  have value_eq : literal.value = (10 ^ 18 : Int) := by
    norm_num [literal, NumberLiteral.value, NumberLiteral.magnitude, Json.ofDigits]
  obtain ⟨double, read, nearest⟩ : ∃ double, readDouble? literal = some double ∧
      Decimal.Nearest double (10 ^ 18 : Int) :=
    Decimal.exists_nearest_of_integer? (by decide +kernel)
  refine ⟨literal, double, spelling, value_eq, read, nearest, fun stored isInteger => ?_⟩
  rw [Json.parse?_spelling spelling, Option.bind_some,
    (ofJson?_of_nearest rfl read nearest).2 (by decide)] at isInteger
  cases isInteger

end Cell

end RowStream
