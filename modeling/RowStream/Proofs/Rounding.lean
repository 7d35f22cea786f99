import Mathlib.Algebra.Order.Ring.Int
import RowStream.Cell

/-!
# Doubles as they are calculated with

A calculation with doubles unpacks them, rounds its result to 53 bits and packs it into 64 bits
again.  `Within` bounds the weight of the last bit of a number from above, `Full` says that all 53
bits of it are taken and bounds that weight from both sides.  Rounding moves it by one place at
most (`within_round`, `full_round`), and neither is lost when the number is packed
(`within_unpack_pack`, `unpack_pack`).
-/

set_option autoImplicit false

namespace RowStream.Decimal

open Float.Model (UnpackedFloat Format totalExponent)
open Float.Model.UnpackedFloat

/-! ## The fields of a double -/

def ofFields (sign : Sign) (field : BitVec 11) (fraction : BitVec 52) : UnpackedFloat :=
  if field = -1#11 then if fraction = 0#52 then .infinity sign else .notANumber
  else if field = 0#11 then
    if nonzero : fraction.toNat = 0 then .zero sign
    else .finite sign fraction.toNat (-1074) (Nat.pos_of_ne_zero nonzero)
  else .finite sign (2 ^ 52 + fraction.toNat) (field.toNat - 1075) (by omega)

theorem eq_zero_iff_toNat {width : Nat} (bits : BitVec width) :
    bits = BitVec.ofNat width 0 ↔ bits.toNat = 0 := by
  rw [← BitVec.toNat_inj, BitVec.toNat_ofNat, Nat.zero_mod]

theorem finite_congr {sign : Sign} {mantissa other : Nat} {exponent power : Int}
    {positive : 0 < mantissa} {otherPositive : 0 < other} (mantissa_eq : mantissa = other)
    (exponent_eq : exponent = power) :
    UnpackedFloat.finite sign mantissa exponent positive =
      .finite sign other power otherPositive := by
  subst mantissa_eq exponent_eq
  rfl

theorem unpack_eq_ofFields (bits : BitVec Format.binary64.numBits) :
    unpack Format.binary64 bits =
      ofFields (Sign.ofBitVec (unpackSign bits)) (unpackExponent bits) (unpackMantissa bits) := by
  have leading_eq (fraction : BitVec 52) : (1#1 ++ fraction).toNat = 2 ^ 52 + fraction.toNat := by
    change 2 ^ 52 ||| fraction.toNat = _
    rw [Nat.or_comm, Nat.or_two_pow_eq_add_of_lt fraction.isLt, Nat.add_comm]
  have zero_iff := eq_zero_iff_toNat (unpackMantissa bits)
  by_cases infinite : unpackExponent bits = -1#11
  · exact (if_pos infinite).trans (if_pos infinite).symm
  refine (if_neg infinite).trans (Eq.trans ?_ (if_neg infinite).symm)
  by_cases least : unpackExponent bits = 0#11
  · refine (if_pos least).trans (Eq.trans ?_ (if_pos least).symm)
    by_cases zero : unpackMantissa bits = 0#52
    · rw [dif_pos (zero_iff.mp zero)]
      exact dif_pos zero
    · have noFraction := fun none => zero (zero_iff.mpr none)
      rw [dif_neg noFraction]
      refine (dif_neg zero).trans ?_
      exact finite_congr rfl (by rw [least]; rfl)
  · refine (if_neg least).trans (Eq.trans ?_ (if_neg least).symm)
    exact finite_congr (leading_eq _) rfl

theorem unpackSign_packComponents (sign : Sign) (field : BitVec 11) (fraction : BitVec 52) :
    Sign.ofBitVec (unpackSign (packComponents Format.binary64 sign field fraction)) = sign := by
  have bit_eq :
      unpackSign (packComponents Format.binary64 sign field fraction) = sign.toBitVec := by
    change (sign.toBitVec ++ field ++ fraction).extractLsb' 63 1 = _
    rw [BitVec.extractLsb'_append_eq_of_le (by decide),
      BitVec.extractLsb'_append_eq_of_le (by decide)]
    exact BitVec.extractLsb'_eq_self
  rw [bit_eq]
  cases sign <;> rfl

theorem unpack_packComponents (sign : Sign) (field : BitVec 11) (fraction : BitVec 52) :
    unpack Format.binary64 (packComponents Format.binary64 sign field fraction) =
      ofFields sign field fraction := by
  rw [unpack_eq_ofFields, unpackSign_packComponents, unpackExponent_packComponents,
    unpackMantissa_packComponents]

def isNegative : Sign → Bool
  | .negative => true
  | .positive => false

def Binary.ofUnpacked : UnpackedFloat → Binary
  | .notANumber => .notANumber
  | .infinity sign => .infinite (isNegative sign)
  | .zero sign => .finite (isNegative sign) 0 (-1074)
  | .finite sign mantissa exponent _ => .finite (isNegative sign) mantissa exponent

theorem ofUnpacked_ofFields (sign : Sign) (field : BitVec 11) (fraction : BitVec 52) :
    Binary.ofUnpacked (ofFields sign field fraction) =
      if field.toNat = 2047 then
        if fraction.toNat = 0 then .infinite (isNegative sign) else .notANumber
      else if field.toNat = 0 then .finite (isNegative sign) fraction.toNat (-1074)
      else .finite (isNegative sign) (2 ^ 52 + fraction.toNat) (field.toNat - 1075) := by
  have full_iff : field = -1#11 ↔ field.toNat = 2047 := by
    rw [← BitVec.toNat_inj]
    rfl
  rw [ofFields]
  by_cases infinite : field.toNat = 2047
  · rw [if_pos infinite, if_pos (full_iff.mpr infinite)]
    by_cases zero : fraction.toNat = 0
    · rw [if_pos zero, if_pos ((eq_zero_iff_toNat fraction).mpr zero)]
      rfl
    · rw [if_neg zero, if_neg (mt (eq_zero_iff_toNat fraction).mp zero)]
      rfl
  rw [if_neg infinite, if_neg (mt full_iff.mp infinite)]
  by_cases least : field.toNat = 0
  · rw [if_pos least, if_pos ((eq_zero_iff_toNat field).mpr least)]
    by_cases zero : fraction.toNat = 0
    · rw [dif_pos zero, zero]
      rfl
    · rw [dif_neg zero]
      rfl
  · rw [if_neg least, if_neg (mt (eq_zero_iff_toNat field).mp least)]
    rfl

theorem ofFloat_eq_ofUnpacked (value : Float) :
    Binary.ofFloat value = Binary.ofUnpacked value.toModel.unpack := by
  obtain ⟨bits, shape⟩ : ∃ bits : BitVec Format.binary64.numBits,
      value.toModel.toBits.toBitVec = bits := ⟨_, rfl⟩
  have field_eq : (unpackExponent bits).toNat =
      bits.toNat / 2 ^ 52 % 2 ^ 11 := by
    change (bits.toNat >>> 52) % 2 ^ 11 = _
    rw [Nat.shiftRight_eq_div_pow]
  have fraction_eq : (unpackMantissa bits).toNat =
      bits.toNat % 2 ^ 52 := by
    change (bits.toNat >>> 0) % 2 ^ 52 = _
    rw [Nat.shiftRight_zero]
  have sign_eq : isNegative (Sign.ofBitVec (unpackSign bits)) =
      decide (bits.toNat / 2 ^ 63 = 1) := by
    have bit_eq : (unpackSign bits).toNat = bits.toNat / 2 ^ 63 := by
      change (bits.toNat >>> 63) % 2 ^ 1 = _
      rw [Nat.shiftRight_eq_div_pow]
      have below : bits.toNat < 2 ^ 64 := bits.isLt
      omega
    rw [← bit_eq]
    generalize unpackSign bits = bit
    revert bit
    decide
  change Binary.ofBits value.toModel.toBits =
    Binary.ofUnpacked (unpack Format.binary64 value.toModel.toBits.toBitVec)
  rw [Binary.ofBits, ← UInt64.toNat_toBitVec, shape, unpack_eq_ofFields, ofUnpacked_ofFields,
    field_eq, fraction_eq, sign_eq]
  rfl

/-! ## Packing -/

/-- A number of at most 53 bits, the last of which counts at most `2 ^ bound`. -/
def Within (bound : Int) : UnpackedFloat → Prop
  | .zero _ => True
  | .finite _ mantissa exponent _ => mantissa < 2 ^ 53 ∧ exponent ≤ bound
  | _ => False

/-- A number of exactly 53 bits, the last of which counts from `2 ^ low` to `2 ^ high`. -/
def Full (low high : Int) : UnpackedFloat → Prop
  | .finite _ mantissa exponent _ =>
      2 ^ 52 ≤ mantissa ∧ mantissa < 2 ^ 53 ∧ low ≤ exponent ∧ exponent ≤ high
  | _ => False

instance (low high : Int) : DecidablePred (Full low high)
  | .finite _ mantissa exponent _ =>
      inferInstanceAs (Decidable
        (2 ^ 52 ≤ mantissa ∧ mantissa < 2 ^ 53 ∧ low ≤ exponent ∧ exponent ≤ high))
  | .zero _ | .infinity _ | .notANumber => inferInstanceAs (Decidable False)

theorem Within.cases {bound : Int} {number : UnpackedFloat} (within : Within bound number) :
    (∃ sign, number = .zero sign) ∨ ∃ sign mantissa exponent positive,
      number = .finite sign mantissa exponent positive ∧ mantissa < 2 ^ 53 ∧ exponent ≤ bound := by
  cases number with
  | zero sign => exact Or.inl ⟨sign, rfl⟩
  | finite sign mantissa exponent positive =>
      exact Or.inr ⟨sign, mantissa, exponent, positive, rfl, within⟩
  | infinity sign => exact within.elim
  | notANumber => exact within.elim

theorem Full.exists_finite {low high : Int} {number : UnpackedFloat}
    (full : Full low high number) : ∃ sign mantissa exponent positive,
      number = .finite sign mantissa exponent positive ∧
        2 ^ 52 ≤ mantissa ∧ mantissa < 2 ^ 53 ∧ low ≤ exponent ∧ exponent ≤ high := by
  cases number with
  | finite sign mantissa exponent positive =>
      exact ⟨sign, mantissa, exponent, positive, rfl, full⟩
  | zero sign => exact full.elim
  | infinity sign => exact full.elim
  | notANumber => exact full.elim

theorem Within.mono {low high : Int} {number : UnpackedFloat} (within : Within low number)
    (le : low ≤ high) : Within high number := by
  obtain ⟨sign, rfl⟩ | ⟨sign, mantissa, exponent, positive, rfl, narrow, below⟩ := within.cases
  · trivial
  · exact ⟨narrow, below.trans le⟩

theorem Full.mono {low high : Int} {number : UnpackedFloat} (full : Full low high number)
    {lower higher : Int} (least : lower ≤ low) (most : high ≤ higher) :
    Full lower higher number := by
  obtain ⟨sign, mantissa, exponent, positive, rfl, wide, narrow, above, below⟩ :=
    full.exists_finite
  exact ⟨wide, narrow, least.trans above, below.trans most⟩

theorem Full.within {low high : Int} {number : UnpackedFloat} (full : Full low high number) :
    Within high number := by
  obtain ⟨sign, mantissa, exponent, positive, rfl, wide, narrow, above, below⟩ :=
    full.exists_finite
  exact ⟨narrow, below⟩

theorem within_ofFields {bound : Int} {field : BitVec 11} (sign : Sign) (fraction : BitVec 52)
    (finite : field.toNat < 2047) (below : (field.toNat : Int) ≤ bound + 1075)
    (least : -1074 ≤ bound) : Within bound (ofFields sign field fraction) := by
  have small := fraction.isLt
  have notInfinite : field ≠ -1#11 := by
    rintro rfl
    exact absurd finite (by decide)
  rw [ofFields, if_neg notInfinite]
  by_cases lowest : field = 0#11
  · rw [if_pos lowest]
    by_cases zero : fraction.toNat = 0
    · rw [dif_pos zero]
      trivial
    · rw [dif_neg zero]
      exact ⟨by omega, least⟩
  · rw [if_neg lowest]
    exact ⟨by omega, by omega⟩

/-- The stored bits of a number: a field of ones when it is too large, of zeros when its leading
bit is missing. -/
theorem pack_binary64 (sign : Sign) {mantissa : Nat} (exponent : Int) (positive : 0 < mantissa) :
    pack Format.binary64 (.finite sign mantissa exponent positive) =
      if 2048 ≤ (exponent + 1075).toNat + 1 then packComponents Format.binary64 sign (-1#11) 0#52
      else packComponents Format.binary64 sign
        (if mantissa.log2 = 52 then BitVec.ofNat 11 (exponent + 1075).toNat else 0#11)
        (BitVec.ofNat 52 mantissa) := by
  have biased_eq : (exponent + 1023 + 52).toNat = (exponent + 1075).toNat := by omega
  change (if 2048 ≤ (exponent + 1023 + 52).toNat + 1 then
      packComponents Format.binary64 sign (-1#11) 0#52
    else if mantissa.log2 + 1 = 53 then
      packComponents Format.binary64 sign (BitVec.ofNat 11 (exponent + 1023 + 52).toNat)
        (BitVec.ofNat 52 mantissa)
    else packComponents Format.binary64 sign 0#11 (BitVec.ofNat 52 mantissa)) = _
  rw [biased_eq]
  by_cases normal : mantissa.log2 = 52
  · rw [if_pos normal, if_pos (show mantissa.log2 + 1 = 53 by omega)]
  · rw [if_neg normal, if_neg (show ¬ mantissa.log2 + 1 = 53 by omega)]

theorem toNat_field {exponent : Int} (most : exponent ≤ 971) :
    (BitVec.ofNat 11 (exponent + 1075).toNat).toNat = (exponent + 1075).toNat := by
  rw [BitVec.toNat_ofNat]
  omega

theorem pack_finite (sign : Sign) {mantissa : Nat} {exponent : Int} (positive : 0 < mantissa)
    (most : exponent ≤ 971) :
    pack Format.binary64 (.finite sign mantissa exponent positive) =
      packComponents Format.binary64 sign
        (if mantissa.log2 = 52 then BitVec.ofNat 11 (exponent + 1075).toNat else 0#11)
        (BitVec.ofNat 52 mantissa) := by
  rw [pack_binary64, if_neg (by omega)]

theorem unpack_pack {low high : Int} {number : UnpackedFloat} (full : Full low high number)
    (least : -1074 ≤ low) (most : high ≤ 971) : (Float.Model.pack number).unpack = number := by
  obtain ⟨sign, mantissa, exponent, positive, rfl, wide, narrow, above, below⟩ :=
    full.exists_finite
  have log_eq := (Nat.log2_eq_iff (by omega)).mpr ⟨wide, narrow⟩
  have fraction_eq : (BitVec.ofNat 52 mantissa).toNat = mantissa - 2 ^ 52 := by
    rw [BitVec.toNat_ofNat]
    omega
  have field_eq := toNat_field (below.trans most)
  have notInfinite : BitVec.ofNat 11 (exponent + 1075).toNat ≠ -1#11 := by
    intro same
    rw [same] at field_eq
    change 2047 = _ at field_eq
    omega
  have notLeast : BitVec.ofNat 11 (exponent + 1075).toNat ≠ 0#11 := by
    intro same
    rw [same] at field_eq
    change 0 = _ at field_eq
    omega
  change unpack Format.binary64 (pack Format.binary64 _) = _
  rw [pack_finite sign positive (by omega), if_pos log_eq, unpack_packComponents, ofFields,
    if_neg notInfinite, if_neg notLeast]
  exact finite_congr (by omega) (by omega)

/-- A number of at most 53 bits does not get larger, as long as it stays in the range. -/
theorem within_unpack_pack {bound : Int} {number : UnpackedFloat} (within : Within bound number)
    (least : -1074 ≤ bound) (most : bound ≤ 971) :
    Within bound (Float.Model.pack number).unpack := by
  change Within bound (unpack Format.binary64 (pack Format.binary64 number))
  obtain ⟨sign, rfl⟩ | ⟨sign, mantissa, exponent, positive, rfl, narrow, below⟩ := within.cases
  · change Within bound (unpack Format.binary64 (packComponents Format.binary64 sign 0#11 0#52))
    rw [unpack_packComponents]
    trivial
  · rw [pack_finite sign positive (by omega), unpack_packComponents]
    split
    · have field_eq := toNat_field (below.trans most)
      exact within_ofFields sign _ (by omega) (by omega) least
    · exact within_ofFields sign _ (by decide) (by change (0 : Int) ≤ _; omega) least

theorem isInf_or_within {bound : Int} {number : UnpackedFloat} (within : Within bound number) :
    (Float.Model.pack number).unpack.isInf ∨ Within 971 (Float.Model.pack number).unpack := by
  obtain ⟨sign, rfl⟩ | ⟨sign, mantissa, exponent, positive, rfl, narrow, _⟩ := within.cases
  · exact Or.inr (within_unpack_pack trivial (by decide) (Int.le_refl _))
  · by_cases inRange : exponent ≤ 971
    · exact Or.inr (within_unpack_pack ⟨narrow, inRange⟩ (by decide) (Int.le_refl _))
    · left
      change (unpack Format.binary64 (pack Format.binary64 _)).isInf
      rw [pack_binary64, if_pos (by omega), unpack_packComponents]
      rfl

/-! ## Rounding -/

/-- How many bits of a mantissa are dropped. -/
def excess (mantissa : Nat) (exponent : Int) : Nat :=
  (max (mantissa.log2 + exponent - 52) (-1074) - exponent).toNat

theorem div_excess_lt (mantissa : Nat) (exponent : Int) :
    mantissa / 2 ^ excess mantissa exponent < 2 ^ 53 := by
  have enough : mantissa.log2 + 1 ≤ 53 + excess mantissa exponent := by
    unfold excess
    omega
  have power_le := Nat.pow_le_pow_right (show 0 < 2 by decide) enough
  rw [Nat.div_lt_iff_lt_mul (Nat.two_pow_pos _), ← Nat.pow_add]
  exact Nat.lt_of_lt_of_le Nat.lt_log2_self power_le

theorem excess_of_wide {mantissa : Nat} (exponent : Int) (wide : 52 ≤ mantissa.log2)
    (least : -1074 ≤ mantissa.log2 + exponent - 52) :
    excess mantissa exponent = mantissa.log2 - 52 := by
  unfold excess
  omega

theorem le_div_excess {mantissa : Nat} (exponent : Int) (wide : 52 ≤ mantissa.log2)
    (least : -1074 ≤ mantissa.log2 + exponent - 52) :
    2 ^ 52 ≤ mantissa / 2 ^ excess mantissa exponent := by
  have nonzero : mantissa ≠ 0 := by
    rintro rfl
    exact absurd wide (by decide)
  have log_eq : 52 + (mantissa.log2 - 52) = mantissa.log2 := by omega
  rw [excess_of_wide exponent wide least, Nat.le_div_iff_mul_le (Nat.two_pow_pos _),
    ← Nat.pow_add, log_eq]
  exact Nat.log2_self_le nonzero

theorem mantissa_shiftRight (extended : ExtendedMantissa) (count : Nat) :
    (extended >>> count).mantissa = extended.mantissa / 2 ^ count := by
  induction count with
  | zero =>
      rw [Nat.pow_zero, Nat.div_one]
      rfl
  | succ count inductionHypothesis =>
      change (extended >>> count).mantissa / 2 = _
      rw [inductionHypothesis, Nat.div_div_eq_div_mul, Nat.pow_succ]

theorem roundedMantissa_bounds (extended : ExtendedMantissa) :
    extended.mantissa ≤ extended.roundedMantissa ∧
      extended.roundedMantissa ≤ extended.mantissa + 1 := by
  obtain ⟨mantissa, roundBit, stickyBit⟩ := extended
  cases roundBit with
  | false => cases stickyBit <;> exact ⟨Nat.le_refl _, Nat.le_succ _⟩
  | true =>
      cases stickyBit with
      | false =>
          change mantissa ≤ mantissa + mantissa % 2 ∧ mantissa + mantissa % 2 ≤ mantissa + 1
          omega
      | true => exact ⟨Nat.le_succ _, Nat.le_refl _⟩

theorem shift_spec (mantissa : Nat) (exponent : Int) (accuracy : Accuracy) :
    (shiftToTargetExponent Format.binary64 mantissa exponent accuracy).1.mantissa =
        mantissa / 2 ^ excess mantissa exponent ∧
      (shiftToTargetExponent Format.binary64 mantissa exponent accuracy).2 =
        exponent + excess mantissa exponent := by
  have amount_eq : (Format.binary64.targetExponent (totalExponent mantissa exponent) -
      exponent).toNat = excess mantissa exponent := by
    change (max (mantissa.log2 + 1 + exponent - 53) (-1074) - exponent).toNat = _
    unfold excess
    congr 2
    omega
  have start_eq : (ExtendedMantissa.ofMantissaAndAccuracy mantissa accuracy).mantissa =
      mantissa := by
    cases accuracy with
    | exact => rfl
    | inexact order => cases order <;> rfl
  simp only [shiftToTargetExponent, shiftToExponent, amount_eq, mantissa_shiftRight, start_eq,
    and_self]

/-- Rounding drops the bits that do not fit and may carry, after which one more bit may have to
go. -/
theorem exists_round (sign : Sign) (mantissa : Nat) (exponent : Int) (accuracy : Accuracy) :
    ∃ rounded kept last, mantissa / 2 ^ excess mantissa exponent ≤ rounded ∧
      rounded ≤ mantissa / 2 ^ excess mantissa exponent + 1 ∧
      last = exponent + excess mantissa exponent ∧ kept = rounded / 2 ^ excess rounded last ∧
      roundWithAccuracy Format.binary64 sign mantissa exponent accuracy =
        if nonzero : kept = 0 then .zero sign
        else .finite sign kept (last + excess rounded last) (Nat.pos_of_ne_zero nonzero) := by
  obtain ⟨mantissa_eq, exponent_eq⟩ := shift_spec mantissa exponent accuracy
  obtain ⟨atLeast, atMost⟩ := roundedMantissa_bounds
    (shiftToTargetExponent Format.binary64 mantissa exponent accuracy).1
  rw [mantissa_eq] at atLeast atMost
  obtain ⟨kept_eq, last_eq⟩ := shift_spec
    (shiftToTargetExponent Format.binary64 mantissa exponent accuracy).1.roundedMantissa
    (shiftToTargetExponent Format.binary64 mantissa exponent accuracy).2 .exact
  refine ⟨_, _, _, atLeast, atMost, exponent_eq, kept_eq, ?_⟩
  rw [← last_eq]
  rfl

theorem within_round {bound : Int} (sign : Sign) (mantissa : Nat) (exponent : Int)
    (accuracy : Accuracy) (above : exponent < bound) (fits : mantissa.log2 + exponent - 52 < bound)
    (least : -1074 < bound) :
    Within bound (roundWithAccuracy Format.binary64 sign mantissa exponent accuracy) := by
  obtain ⟨rounded, kept, last, _, atMost, last_eq, kept_eq, round_eq⟩ :=
    exists_round sign mantissa exponent accuracy
  have small := div_excess_lt mantissa exponent
  have log_le : rounded.log2 ≤ 53 := by
    have below : rounded < 2 ^ 54 := by omega
    by_cases zero : rounded = 0
    · rw [zero]
      decide
    · have log_lt := (Nat.log2_lt zero).mpr below
      omega
  have carry_le : last + excess rounded last ≤ bound := by
    rw [last_eq]
    unfold excess
    omega
  rw [round_eq]
  by_cases zero : kept = 0
  · rw [dif_pos zero]
    trivial
  · rw [dif_neg zero]
    exact ⟨kept_eq ▸ div_excess_lt rounded last, carry_le⟩

theorem full_round {mantissa : Nat} (sign : Sign) (exponent : Int) (accuracy : Accuracy)
    (wide : 52 ≤ mantissa.log2) (least : -1074 ≤ mantissa.log2 + exponent - 52) :
    Full (mantissa.log2 + exponent - 52) (mantissa.log2 + exponent - 51)
      (roundWithAccuracy Format.binary64 sign mantissa exponent accuracy) := by
  obtain ⟨rounded, kept, last, atLeast, atMost, last_eq, kept_eq, round_eq⟩ :=
    exists_round sign mantissa exponent accuracy
  have small := div_excess_lt mantissa exponent
  have large := le_div_excess exponent wide least
  rw [excess_of_wide exponent wide least] at last_eq
  have nonzero : rounded ≠ 0 := by omega
  have roundedWide : 52 ≤ rounded.log2 := (Nat.le_log2 nonzero).mpr (by omega)
  have log_lt : rounded.log2 < 54 := (Nat.log2_lt nonzero).mpr (by omega)
  have keptLarge := le_div_excess last roundedWide (by omega)
  have keptSmall := div_excess_lt rounded last
  rw [← kept_eq] at keptLarge keptSmall
  have carry_eq := excess_of_wide last roundedWide (by omega)
  rw [round_eq, dif_neg (by omega)]
  exact ⟨keptLarge, keptSmall, by omega, by omega⟩

end RowStream.Decimal
