import Mathlib.Tactic.Ring
import RowStream.Proofs.Rounding

/-!
# The doubles that literals denote

A double that a literal denotes is finite (`finite_of_readDouble?`): a product that leaves the
range is refused, and an integer below `2^64` stays small when it is divided by powers of ten.  An
integer from `2^63` on is denoted by a double that is as large (`ofFloat_toFloat`).
-/

set_option autoImplicit false

namespace RowStream.Decimal

open Float.Model (UnpackedFloat Format totalExponent)
open Float.Model.UnpackedFloat

/-! ## Products and quotients -/

theorem within_mul {first second : Int} {left right : UnpackedFloat} (within : Within first left)
    (others : Within second right) : ∃ bound, Within bound (mul Format.binary64 left right) := by
  obtain ⟨sign, rfl⟩ | ⟨sign, mantissa, exponent, positive, rfl, _⟩ := within.cases
  · obtain ⟨other, rfl⟩ | ⟨other, factor, scale, factorPositive, rfl, _⟩ := others.cases
    · exact ⟨0, trivial⟩
    · exact ⟨0, trivial⟩
  · obtain ⟨other, rfl⟩ | ⟨other, factor, scale, factorPositive, rfl, _⟩ := others.cases
    · exact ⟨0, trivial⟩
    · have log_nonneg := Int.natCast_nonneg (mantissa * factor).log2
      exact ⟨max ((mantissa * factor).log2 + (exponent + scale)) (-1074) + 1,
        within_round _ _ _ _ (by omega) (by omega) (by omega)⟩

theorem log2_quotient_le {mantissa divisor : Nat} (count : Nat) (narrow : mantissa < 2 ^ 53)
    (wide : 2 ^ 52 ≤ divisor) : (mantissa <<< count / divisor).log2 ≤ count := by
  have small : mantissa <<< count / divisor < 2 ^ (count + 1) := by
    rw [Nat.div_lt_iff_lt_mul (by omega), Nat.shiftLeft_eq]
    calc mantissa * 2 ^ count < 2 ^ 53 * 2 ^ count :=
          Nat.mul_lt_mul_of_pos_right narrow (Nat.two_pow_pos count)
      _ = 2 ^ (count + 1) * 2 ^ 52 := by ring
      _ ≤ 2 ^ (count + 1) * divisor := Nat.mul_le_mul_left _ wide
  by_cases zero : mantissa <<< count / divisor = 0
  · rw [zero]
    exact Nat.zero_le count
  · have log_lt := (Nat.log2_lt zero).mpr small
    omega

theorem within_div {bound low high quotient : Int} {left right : UnpackedFloat}
    (within : Within bound left) (full : Full low high right) (fits : bound - low - 52 < quotient)
    (least : -1074 < quotient) : Within quotient (div Format.binary64 left right) := by
  obtain ⟨other, divisor, scale, divisorPositive, rfl, wide, divisorNarrow, above, _⟩ :=
    full.exists_finite
  obtain ⟨sign, rfl⟩ | ⟨sign, mantissa, exponent, positive, rfl, narrow, below⟩ := within.cases
  · trivial
  · have log_lt : mantissa.log2 < 53 := (Nat.log2_lt (by omega)).mpr narrow
    have divisorLog : divisor.log2 = 52 := (Nat.log2_eq_iff (by omega)).mpr ⟨wide, divisorNarrow⟩
    -- the dividend is moved to the left until the quotient has bits enough
    obtain ⟨target, target_eq⟩ : ∃ target, target = min (exponent - scale)
      (Format.binary64.targetExponent
        (totalExponent mantissa exponent - totalExponent divisor scale)) := ⟨_, rfl⟩
    have target_le : target ≤ exponent - scale ∧ target ≤ max (bound - low - 53) (-1074) := by
      change target = min _ (max (mantissa.log2 + 1 + exponent -
        (divisor.log2 + 1 + scale) - 53) (-1074)) at target_eq
      omega
    obtain ⟨count, count_eq⟩ : ∃ count, count = (exponent - scale - target).toNat := ⟨_, rfl⟩
    have digits := log2_quotient_le count narrow wide
    have parts_eq : divCore Format.binary64 mantissa exponent divisor scale =
        (mantissa <<< count / divisor, target,
          accuracyOfFraction (mantissa <<< count % divisor) divisor) := by
      simp only [divCore, count_eq, target_eq]
    let parts := divCore Format.binary64 mantissa exponent divisor scale
    change Within quotient
      (roundWithAccuracy Format.binary64 (sign / other) parts.1 parts.2.1 parts.2.2)
    simp only [parts, parts_eq]
    exact within_round _ _ _ _ (by omega) (by omega) least

theorem within_neg {bound : Int} {number : UnpackedFloat} (within : Within bound number) :
    Within bound number.neg := by
  obtain ⟨sign, rfl⟩ | ⟨sign, mantissa, exponent, positive, rfl, narrow, below⟩ := within.cases
  · trivial
  · exact ⟨narrow, below⟩

/-! ## Integers and powers of ten -/

/-- A positive integer is moved to the left until it has 53 bits, and then rounded. -/
theorem ofNat_eq_round {number : Nat} (positive : 0 < number) (count : Nat)
    (count_eq : count = 52 - number.log2) :
    Float.Model.UnpackedFloat.ofNat Format.binary64 number =
      roundWithAccuracy Format.binary64 .positive (number <<< count) ((0 : Int) - count)
        .exact := by
  have target_eq : (0 - Format.binary64.targetExponent (totalExponent number 0)).toNat = count := by
    change ((0 : Int) - max ((number.log2 : Int) + 1 + 0 - 53) (-1074)).toNat = _
    omega
  have compare_eq : compare (number : Int) 0 = .gt := by
    rw [Int.compare_eq_gt]
    omega
  simp only [Float.Model.UnpackedFloat.ofNat, ofInt, Float.Model.UnpackedFloat.normalize,
    compare_eq, Float.Model.UnpackedFloat.round, decreaseExponent, target_eq,
    Int.toNat_natCast]

theorem log2_shiftLeft {number : Nat} (positive : 0 < number) (count : Nat) :
    (number <<< count).log2 = number.log2 + count := by
  have nonzero : number ≠ 0 := by omega
  rw [Nat.log2_eq_iff (by simp [Nat.shiftLeft_eq, nonzero]), Nat.shiftLeft_eq]
  refine ⟨?_, ?_⟩
  · rw [Nat.pow_add]
    exact Nat.mul_le_mul_right _ (Nat.log2_self_le nonzero)
  · rw [Nat.add_right_comm, Nat.pow_add]
    exact Nat.mul_lt_mul_of_pos_right Nat.lt_log2_self (Nat.two_pow_pos count)

theorem unpack_toFloat {number : UInt64} (positive : 0 < number.toNat) {count : Nat}
    (count_eq : count = 52 - number.toNat.log2) :
    number.toFloat.toModel.unpack =
        roundWithAccuracy Format.binary64 .positive (number.toNat <<< count) ((0 : Int) - count)
          .exact ∧
      Full (number.toNat.log2 - 52) (number.toNat.log2 - 51) number.toFloat.toModel.unpack := by
  have small : number.toNat.log2 < 64 := (Nat.log2_lt (by omega)).mpr number.toNat_lt
  have shifted := log2_shiftLeft positive count
  have full := full_round .positive (0 - count) .exact
    (show 52 ≤ (number.toNat <<< count).log2 by omega) (by omega)
  have round_eq := unpack_pack full (by omega) (by omega)
  rw [← ofNat_eq_round positive count count_eq] at round_eq full ⊢
  change (Float.Model.pack (Float.Model.UnpackedFloat.ofNat Format.binary64 number.toNat)).unpack =
      _ ∧ Full _ _ (Float.Model.pack
        (Float.Model.UnpackedFloat.ofNat Format.binary64 number.toNat)).unpack
  rw [round_eq]
  exact ⟨rfl, full.mono (by omega) (by omega)⟩

theorem full_toFloat {number : UInt64} (positive : 0 < number.toNat) :
    Full (number.toNat.log2 - 52) (number.toNat.log2 - 51) number.toFloat.toModel.unpack :=
  (unpack_toFloat positive rfl).2

theorem within_toFloat (number : UInt64) : Within 12 number.toFloat.toModel.unpack := by
  by_cases zero : number.toNat = 0
  · change Within 12 (Float.Model.pack
      (Float.Model.UnpackedFloat.ofNat Format.binary64 number.toNat)).unpack
    rw [zero]
    exact within_unpack_pack trivial (by decide) (by decide)
  · have small : number.toNat.log2 < 64 := (Nat.log2_lt zero).mpr number.toNat_lt
    exact (full_toFloat (Nat.pos_of_ne_zero zero)).within.mono (by omega)

open Json.Number (powerOfTen dividePower scale? readDouble?)

/-- Division is repeated by a power that is at least two. -/
theorem full_largestPower {exponent : Nat} (largest : exponent = 308) :
    Full (-51) 971 (powerOfTen exponent).toModel.unpack := by
  rw [largest]
  decide +kernel

theorem powerOfTen_eq_round {exponent : Nat} (untabled : 22 < exponent) (small : exponent ≤ 308) :
    (powerOfTen exponent).toModel = Float.Model.pack (roundWithAccuracy Format.binary64 .positive
      (1 <<< 53 * 10 ^ exponent) (-53) .exact) := by
  have notTabled : ¬ (1 < 2 ^ 53 ∧ exponent ≤ 22) := by omega
  have notHuge : ¬ (exponent : Int) > 2 ^ 11 := by omega
  have notTiny : ¬ (exponent : Int) < -(2 ^ 11 + (1 : Nat).log2) := by omega
  rw [powerOfTen, Float.ofScientific, dif_neg notTabled]
  change Float.Model.pack (ofScientific Format.binary64 1 exponent) = _
  rw [ofScientific, dif_neg (by decide), if_neg notHuge, if_neg notTiny,
    if_pos (Int.natCast_nonneg exponent)]
  rfl

theorem unpack_powerOfTen {exponent : Nat} (untabled : 22 < exponent) (small : exponent < 308) :
    (powerOfTen exponent).toModel.unpack = roundWithAccuracy Format.binary64 .positive
        (1 <<< 53 * 10 ^ exponent) (-53) .exact ∧
      Full (-52) 971 (powerOfTen exponent).toModel.unpack := by
  have round_eq := powerOfTen_eq_round untabled (Nat.le_of_lt small)
  -- under a name, so that the power is not evaluated
  generalize digits_eq : 1 <<< 53 * 10 ^ exponent = digits at round_eq ⊢
  have power_pos : 0 < 10 ^ exponent := Nat.pow_pos (by decide)
  have powers_lt : ∀ exponent < 308, 10 ^ exponent < 2 ^ 1020 := by decide +kernel
  have power_lt := powers_lt exponent small
  have nonzero : digits ≠ 0 := by omega
  have log_lt : digits.log2 < 1073 := by
    rw [Nat.log2_lt nonzero]
    omega
  have le_log : 53 ≤ digits.log2 := by
    rw [Nat.le_log2 nonzero]
    omega
  have full := full_round .positive (-53) .exact (by omega)
    (show -1074 ≤ (digits.log2 : Int) + -53 - 52 by omega)
  rw [round_eq, unpack_pack full (by omega) (by omega)]
  exact ⟨rfl, full.mono (by omega) (by omega)⟩

theorem full_powerOfTen {exponent : Nat} (small : exponent ≤ 308) :
    Full (-52) 971 (powerOfTen exponent).toModel.unpack := by
  by_cases tabled : exponent ≤ 22
  · have checked : ∀ exponent < 23, Full (-52) 971 (powerOfTen exponent).toModel.unpack := by
      decide +kernel
    exact checked exponent (by omega)
  by_cases largest : exponent = 308
  · exact (full_largestPower largest).mono (by decide) (by decide)
  exact (unpack_powerOfTen (by omega) (by omega)).2

/-! ## Literals -/

theorem within_dividePower {bound : Int} (exponent : Nat) {value : Float}
    (within : Within bound value.toModel.unpack) (least : -1074 < bound) (most : bound < 971) :
    Within (bound + 1) (dividePower value exponent).toModel.unpack := by
  induction exponent using Nat.strong_induction_on generalizing value with
  | h exponent inductionHypothesis =>
      rw [dividePower]
      split
      · rename_i small
        have divided := within_div within (full_powerOfTen small)
          (show bound - -52 - 52 < bound + 1 by omega) (by omega)
        exact within_unpack_pack divided (by omega) (by omega)
      · split
        · exact within.mono (by omega)
        · -- under a name, so that the power is not evaluated
          obtain ⟨largest, largest_eq⟩ : ∃ largest, largest = 308 := ⟨_, rfl⟩
          have divided := within_div within (full_largestPower largest_eq)
            (show bound - -51 - 52 < bound by omega) least
          have smaller := within_unpack_pack divided (by omega) (by omega)
          rw [← largest_eq]
          exact inductionHypothesis (exponent - largest) (by omega) smaller

theorem within_scale? {number : UInt64} {shift : Int} {scaled : Float}
    (scaled_eq : scale? number.toFloat shift = some scaled) :
    Within 971 scaled.toModel.unpack := by
  have within := within_toFloat number
  cases shift with
  | ofNat exponent =>
      rw [scale?] at scaled_eq
      split at scaled_eq
      · rename_i small
        dsimp only at scaled_eq
        split at scaled_eq
        · cases scaled_eq
        · rename_i finite
          cases scaled_eq
          obtain ⟨bound, product⟩ := within_mul within (full_powerOfTen small).within
          exact (isInf_or_within product).resolve_left finite
      · split at scaled_eq
        · cases scaled_eq
          exact within.mono (by decide)
        · cases scaled_eq
  | negSucc exponent =>
      cases scaled_eq
      exact (within_dividePower (exponent + 1) within (by decide) (by decide)).mono (by decide)

theorem readDouble?_of_double {literal : Json.NumberLiteral} {value : Float}
    (denotes : Json.Number.ofLiteral? literal = some (.double value)) :
    readDouble? literal = some value := by
  have asDouble : (readDouble? literal).map .double = some (Json.Number.double value) →
      readDouble? literal = some value := by
    intro mapped
    obtain ⟨double, double_eq, same⟩ := Option.map_eq_some_iff.mp mapped
    cases same
    exact double_eq
  simp only [Json.Number.ofLiteral?] at denotes
  split at denotes
  · exact asDouble denotes
  · split at denotes
    · cases denotes
    · split at denotes
      · cases denotes
      · exact asDouble denotes

/-- A literal denotes no infinity, and nothing that is no number. -/
theorem finite_of_readDouble? {literal : Json.NumberLiteral} {value : Float}
    (denotes : readDouble? literal = some value) :
    ∃ negative mantissa exponent, Binary.ofFloat value = .finite negative mantissa exponent := by
  obtain ⟨scaled, scaled_eq, signed⟩ := Option.map_eq_some_iff.mp denotes
  have within : Within 971 value.toModel.unpack := by
    have magnitude := within_scale? scaled_eq
    rw [← signed]
    split
    · exact within_unpack_pack (within_neg magnitude) (by decide) (Int.le_refl _)
    · exact magnitude
  obtain ⟨sign, zero⟩ | ⟨sign, mantissa, exponent, positive, number, _⟩ := within.cases
  · rw [ofFloat_eq_ofUnpacked, zero]
    exact ⟨_, _, _, rfl⟩
  · rw [ofFloat_eq_ofUnpacked, number]
    exact ⟨_, _, _, rfl⟩

theorem ofFloat_toFloat {number : UInt64} (large : 2 ^ 63 ≤ number.toNat) :
    ∃ negative mantissa exponent,
      Binary.ofFloat number.toFloat = .finite negative mantissa exponent ∧
        2 ^ 52 ≤ mantissa ∧ 11 ≤ exponent := by
  have log_eq := (Nat.log2_eq_iff (by omega)).mpr ⟨large, number.toNat_lt⟩
  obtain ⟨sign, mantissa, exponent, positive, number, wide, _, above, _⟩ :=
    (full_toFloat (show 0 < number.toNat by omega)).exists_finite
  rw [ofFloat_eq_ofUnpacked, number]
  exact ⟨_, _, _, rfl, wide, by omega⟩

end RowStream.Decimal
