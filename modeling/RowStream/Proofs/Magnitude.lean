import Mathlib.Tactic.Ring
import RowStream.Proofs.Literals
import RowStream.Proofs.Norming

/-!
# The size of a literal and the range of doubles

A literal spells a rational number (`NumberLiteral.value`).  What is read of it is a significand
below `2^64` and a power of ten, and together they come to no more than the literal
(`exists_scaled`).  Each of the two is rounded to a double that is larger by one part in `2^52` at
most (`UpTo`), so that their product stays finite as long as the literal keeps clear of the largest
double by a few units of its last bit (`isSome_readDouble?`).
-/

set_option autoImplicit false

namespace RowStream

namespace Json

/-! ## Digits -/

theorem foldl_digits (digits : List Nat) (value : Nat) :
    digits.foldl (fun value digit => 10 * value + digit) value =
      value * 10 ^ digits.length + ofDigits digits := by
  induction digits generalizing value with
  | nil => simp [ofDigits]
  | cons digit rest inductionHypothesis =>
      have expanded : ofDigits (digit :: rest) = digit * 10 ^ rest.length + ofDigits rest := by
        rw [ofDigits, List.foldl_cons, inductionHypothesis]
        ring
      rw [List.foldl_cons, inductionHypothesis, expanded, List.length_cons]
      ring

theorem ofDigits_append (first second : List Nat) :
    ofDigits (first ++ second) = ofDigits first * 10 ^ second.length + ofDigits second := by
  rw [ofDigits, List.foldl_append, foldl_digits second]
  rfl

theorem significand_spec (digits : List Nat) {value : Nat} (small : value < 2 ^ 64)
    {number : Nat} {rest : List Nat} (taken : Number.significand value digits = (number, rest)) :
    number < 2 ^ 64 ∧ (∃ front, digits = front ++ rest ∧
      number = value * 10 ^ front.length + ofDigits front) ∧
      ∀ digit ∈ rest.head?, 2 ^ 64 ≤ 10 * number + digit := by
  induction digits generalizing value with
  | nil =>
      cases taken
      refine ⟨small, ⟨[], rfl, by simp [ofDigits]⟩, ?_⟩
      intro digit member
      cases member
  | cons digit later inductionHypothesis =>
      rw [Number.significand] at taken
      split at taken
      · rename_i fits
        obtain ⟨below, ⟨front, front_eq, number_eq⟩, next⟩ := inductionHypothesis fits taken
        refine ⟨below, ⟨digit :: front, by rw [front_eq]; rfl, ?_⟩, next⟩
        have expanded := foldl_digits (digit :: front) value
        rw [List.foldl_cons, foldl_digits, ← number_eq] at expanded
        exact expanded
      · rename_i full
        cases taken
        refine ⟨small, ⟨[], rfl, by simp [ofDigits]⟩, ?_⟩
        intro other member
        cases member
        exact Nat.le_of_not_lt full

theorem le_of_dropped {first digit : Nat} (overflows : 2 ^ 64 ≤ 10 * first + digit)
    (others : List Nat) :
    2 ^ 64 * 10 ^ others.length ≤
      first * 10 ^ (digit :: others).length + ofDigits (digit :: others) := by
  have dropped_eq : ofDigits (digit :: others) = digit * 10 ^ others.length + ofDigits others := by
    rw [ofDigits, List.foldl_cons, foldl_digits, Nat.mul_zero, Nat.zero_add]
  calc 2 ^ 64 * 10 ^ others.length ≤ (10 * first + digit) * 10 ^ others.length :=
        Nat.mul_le_mul_right _ overflows
    _ = first * 10 ^ (digit :: others).length + digit * 10 ^ others.length := by
        rw [List.length_cons]
        ring
    _ ≤ _ := by omega

/-- Of the digits behind the point none is taken, or the number is small for the place that the
first of them has. -/
theorem le_of_taken {first number : Nat} (small : number < 2 ^ 64) {behind : List Nat}
    (number_eq : number = first * 10 ^ behind.length + ofDigits behind) {digit : Nat}
    (overflows : 2 ^ 64 ≤ 10 * first + digit) (others : List Nat) (left : Nat) :
    number * 10 ^ ((digit :: others).length + left) ≤
      (first * 10 ^ (digit :: others).length + ofDigits (digit :: others)) *
        10 ^ (behind.length + left) := by
  cases behind with
  | nil =>
      have none_taken : number = first := by simpa [ofDigits] using number_eq
      rw [none_taken, List.length_nil, Nat.zero_add, Nat.pow_add, ← Nat.mul_assoc]
      exact Nat.mul_le_mul_right _ (Nat.le_add_right _ _)
  | cons taken more =>
      have power_le : 10 ^ ((digit :: others).length + left) ≤
          10 ^ others.length * 10 ^ ((taken :: more).length + left) := by
        rw [← Nat.pow_add]
        refine Nat.pow_le_pow_right (by decide) ?_
        simp only [List.length_cons]
        omega
      calc number * 10 ^ ((digit :: others).length + left)
          ≤ 2 ^ 64 * (10 ^ others.length * 10 ^ ((taken :: more).length + left)) :=
            Nat.mul_le_mul (Nat.le_of_lt small) power_le
        _ = 2 ^ 64 * 10 ^ others.length * 10 ^ ((taken :: more).length + left) := by ring
        _ ≤ _ := Nat.mul_le_mul_right _ (le_of_dropped overflows others)

/-- What is taken of the digits in front of the point and behind it comes to no more than all of
them, when a dropped digit counts as a power of ten. -/
theorem significand_le {whole fraction dropped unread : List Nat} {first number : Nat}
    (takenWhole : Number.significand 0 whole = (first, dropped))
    (takenFraction : Number.significand first fraction = (number, unread)) :
    number * 10 ^ (dropped.length + unread.length) ≤ ofDigits (whole ++ fraction) := by
  obtain ⟨firstSmall, ⟨front, rfl, first_eq⟩, next⟩ :=
    significand_spec whole (by decide) takenWhole
  obtain ⟨numberSmall, ⟨behind, rfl, number_eq⟩, -⟩ :=
    significand_spec fraction firstSmall takenFraction
  rw [Nat.zero_mul, Nat.zero_add] at first_eq
  rw [ofDigits_append (front ++ dropped), List.length_append, ofDigits_append front, ← first_eq]
  cases dropped with
  | nil =>
      have nothing : ofDigits ([] : List Nat) = 0 := rfl
      rw [ofDigits_append behind, number_eq, List.length_nil, Nat.zero_add, Nat.pow_zero,
        Nat.mul_one, nothing, Nat.add_zero, Nat.pow_add, ← Nat.mul_assoc, Nat.add_mul]
      omega
  | cons digit others =>
      exact (le_of_taken numberSmall number_eq (next digit rfl) others unread.length).trans
        (Nat.le_add_right _ _)

namespace NumberLiteral

def magnitude (literal : NumberLiteral) : ℚ :=
  ofDigits (literal.whole ++ literal.fraction) *
    10 ^ (literal.exponent.getD 0 - literal.fraction.length)

def value (literal : NumberLiteral) : ℚ :=
  if literal.negative then -literal.magnitude else literal.magnitude

theorem exists_scaled (literal : NumberLiteral) : ∃ (number : UInt64) (power : Int),
    (number.toNat : ℚ) * 10 ^ power ≤ literal.magnitude ∧
      (Number.readDouble? literal).isSome = (Number.scale? number.toFloat power).isSome := by
  obtain ⟨first, dropped, takenWhole⟩ : ∃ first dropped,
    Number.significand 0 literal.whole = (first, dropped) := ⟨_, _, rfl⟩
  obtain ⟨number, unread, takenFraction⟩ : ∃ number unread,
    Number.significand first literal.fraction = (number, unread) := ⟨_, _, rfl⟩
  have firstSmall := (significand_spec _ (by decide) takenWhole).1
  have numberSmall := (significand_spec _ firstSmall takenFraction).1
  refine ⟨number.toUInt64, dropped.length - (literal.fraction.length - unread.length) +
    literal.exponent.getD 0, ?_, ?_⟩
  · have power_eq : (dropped.length - (literal.fraction.length - unread.length) +
        literal.exponent.getD 0 : Int) =
        (dropped.length + unread.length : Nat) +
          (literal.exponent.getD 0 - literal.fraction.length) := by
      push_cast
      ring
    have taken_le : ((number * 10 ^ (dropped.length + unread.length) : Nat) : ℚ) ≤
        ofDigits (literal.whole ++ literal.fraction) := by
      exact_mod_cast significand_le takenWhole takenFraction
    have toNat_eq : number.toUInt64.toNat = number := UInt64.toNat_ofNat_of_lt' numberSmall
    rw [power_eq, toNat_eq, zpow_add₀ (by norm_num), zpow_natCast, ← mul_assoc, magnitude]
    push_cast at taken_le
    exact mul_le_mul_of_nonneg_right taken_le (by positivity)
  · simp only [Number.readDouble?, takenWhole, takenFraction, Option.isSome_map]

end NumberLiteral

end Json

namespace Decimal

open Float.Model (UnpackedFloat Format)
open Float.Model.UnpackedFloat
open Json.Number (powerOfTen scale? readDouble?)

/-! ## Rounded integers -/

/-- Zero, or a number with all its bits that exceeds an integer by one part in `2 ^ 52` at most. -/
def UpTo (number : Nat) : UnpackedFloat → Prop
  | .zero _ => True
  | .finite _ mantissa exponent _ => 2 ^ 52 ≤ mantissa ∧ -52 ≤ exponent ∧
      mantissa * 2 ^ (exponent + 52).toNat ≤ number * (2 ^ 52 + 1)
  | _ => False

instance (number : Nat) : DecidablePred (UpTo number)
  | .zero _ => inferInstanceAs (Decidable True)
  | .finite _ mantissa exponent _ => inferInstanceAs (Decidable
      (2 ^ 52 ≤ mantissa ∧ -52 ≤ exponent ∧
        mantissa * 2 ^ (exponent + 52).toNat ≤ number * (2 ^ 52 + 1)))
  | .infinity _ | .notANumber => inferInstanceAs (Decidable False)

theorem upTo_round {number count : Nat} (sign : Sign) (accuracy : Accuracy)
    (positive : 0 < number) (wide : 52 ≤ (number * 2 ^ count).log2) :
    UpTo number
      (roundWithAccuracy Format.binary64 sign (number * 2 ^ count) (0 - count) accuracy) := by
  have count_le : count ≤ (number * 2 ^ count).log2 := by
    rw [Nat.le_log2 (by positivity)]
    exact Nat.le_mul_of_pos_left _ positive
  have full := full_round sign (0 - count) accuracy wide (by omega)
  have excess_eq := excess_of_wide (0 - count) wide (by omega)
  have large := le_div_excess (0 - count) wide (by omega)
  obtain ⟨rounded, kept, last, -, atMost, last_eq, kept_eq, round_eq⟩ :=
    exists_round sign (number * 2 ^ count) (0 - count) accuracy
  by_cases zero : kept = 0
  · rw [round_eq, dif_pos zero]
    trivial
  rw [round_eq, dif_neg zero] at full ⊢
  obtain ⟨keptLarge, -, above, -⟩ := full
  refine ⟨keptLarge, by omega, ?_⟩
  have shift_eq : (last + excess rounded last + 52).toNat + count =
      excess rounded last + (excess (number * 2 ^ count) (0 - count) + 52) := by omega
  generalize excess (number * 2 ^ count) (0 - count) = dropped at atMost large shift_eq
  generalize excess rounded last = carried at kept_eq shift_eq
  have kept_le : kept * 2 ^ carried ≤ rounded := by
    rw [kept_eq]
    exact Nat.div_mul_le_self _ _
  have floor_le : number * 2 ^ count / 2 ^ dropped * 2 ^ dropped ≤ number * 2 ^ count :=
    Nat.div_mul_le_self _ _
  generalize number * 2 ^ count / 2 ^ dropped = floor at atMost large floor_le
  refine Nat.le_of_mul_le_mul_right ?_ (Nat.two_pow_pos count)
  calc kept * 2 ^ (last + carried + 52).toNat * 2 ^ count
      = kept * 2 ^ carried * (2 ^ dropped * 2 ^ 52) := by
        rw [Nat.mul_assoc, ← Nat.pow_add, shift_eq, Nat.pow_add, Nat.pow_add]
        ring
    _ ≤ (floor + 1) * (2 ^ dropped * 2 ^ 52) :=
        Nat.mul_le_mul_right _ (kept_le.trans atMost)
    _ = (floor + 1) * 2 ^ 52 * 2 ^ dropped := by ring
    _ ≤ floor * (2 ^ 52 + 1) * 2 ^ dropped := Nat.mul_le_mul_right _ (by omega)
    _ = floor * 2 ^ dropped * (2 ^ 52 + 1) := by ring
    _ ≤ number * 2 ^ count * (2 ^ 52 + 1) := Nat.mul_le_mul_right _ floor_le
    _ = number * (2 ^ 52 + 1) * 2 ^ count := by ring

theorem upTo_toFloat (number : UInt64) : UpTo number.toNat number.toFloat.toModel.unpack := by
  by_cases zero : number.toNat = 0
  · obtain rfl : number = 0 := UInt64.toNat_inj.mp zero
    decide +kernel
  · have positive := Nat.pos_of_ne_zero zero
    obtain ⟨count, count_eq⟩ : ∃ count, count = 52 - number.toNat.log2 := ⟨_, rfl⟩
    have shifted := log2_shiftLeft positive count
    rw [(unpack_toFloat positive count_eq).1, Nat.shiftLeft_eq]
    rw [Nat.shiftLeft_eq] at shifted
    exact upTo_round .positive .exact positive (by omega)

theorem upTo_powerOfTen {exponent : Nat} (small : exponent ≤ 308) :
    UpTo (10 ^ exponent) (powerOfTen exponent).toModel.unpack := by
  by_cases tabled : exponent ≤ 22
  · have checked : ∀ exponent < 23, UpTo (10 ^ exponent) (powerOfTen exponent).toModel.unpack := by
      decide +kernel
    exact checked exponent (by omega)
  by_cases largest : exponent = 308
  · rw [largest]
    decide +kernel
  · have round_eq := (unpack_powerOfTen (by omega) (show exponent < 308 by omega)).1
    have power_pos : 0 < 10 ^ exponent := Nat.pow_pos (by decide)
    have digits_eq : 1 <<< 53 * 10 ^ exponent = 10 ^ exponent * 2 ^ 53 := by
      rw [Nat.shiftLeft_eq, Nat.one_mul, Nat.mul_comm]
    have wide : 52 ≤ (10 ^ exponent * 2 ^ 53).log2 := by
      generalize 10 ^ exponent = power at power_pos
      rw [Nat.le_log2 (by omega)]
      omega
    rw [round_eq, digits_eq]
    exact upTo_round .positive .exact power_pos wide

/-! ## Products in range -/

/-- The largest double without some units of its last bit. -/
@[irreducible]
def clearance : Nat := 2 ^ 1024 - 2 ^ 974

theorem cast_clearance : (clearance : ℚ) = 2 ^ 1024 - 2 ^ 974 := by
  have cast_sub : ∀ first second : Nat, second ≤ first →
      ((2 ^ first - 2 ^ second : Nat) : ℚ) = 2 ^ first - 2 ^ second := by
    intro first second le
    rw [Nat.cast_sub (Nat.pow_le_pow_right (by decide) le), Nat.cast_pow, Nat.cast_pow,
      Nat.cast_ofNat]
  unfold clearance
  exact cast_sub 1024 974 (by decide)

theorem clearance_mul_lt : clearance * (2 ^ 52 + 1) ^ 2 < (2 ^ 53 - 1) * 2 ^ 1075 := by
  decide +kernel

theorem clearance_lt {power : Nat} (huge : 308 < power) : clearance < 10 ^ power := by
  obtain ⟨least, least_eq⟩ : ∃ least, least = 309 := ⟨_, rfl⟩
  have least_lt : clearance < 10 ^ least := by
    rw [least_eq]
    decide +kernel
  exact least_lt.trans_le (Nat.pow_le_pow_right (by decide) (by omega))

theorem within_round_of_lt {mantissa : Nat} {exponent : Int} (sign : Sign) (accuracy : Accuracy)
    (wide : 52 ≤ mantissa.log2) (least : -104 ≤ exponent)
    (fits : mantissa * 2 ^ (exponent + 104).toNat < (2 ^ 53 - 1) * 2 ^ 1075) :
    Within 971 (roundWithAccuracy Format.binary64 sign mantissa exponent accuracy) := by
  have nonzero : mantissa ≠ 0 := by
    rintro rfl
    exact absurd wide (by decide)
  have log_lt : mantissa.log2 + (exponent + 104).toNat < 1128 := by
    refine (Nat.pow_lt_pow_iff_right (show 1 < 2 by decide)).mp ?_
    calc 2 ^ (mantissa.log2 + (exponent + 104).toNat)
        = 2 ^ mantissa.log2 * 2 ^ (exponent + 104).toNat := Nat.pow_add _ _ _
      _ ≤ mantissa * 2 ^ (exponent + 104).toNat :=
          Nat.mul_le_mul_right _ (Nat.log2_self_le nonzero)
      _ < (2 ^ 53 - 1) * 2 ^ 1075 := fits
      _ ≤ 2 ^ 1128 := by decide +kernel
  by_cases below : mantissa.log2 + exponent ≤ 1022
  · exact within_round _ _ _ _ (by omega) (by omega) (by decide)
  -- in the highest binade no carry is left to make the last bit heavier
  obtain ⟨rounded, kept, last, -, atMost, last_eq, kept_eq, round_eq⟩ :=
    exists_round sign mantissa exponent accuracy
  have excess_eq := excess_of_wide exponent wide (by omega)
  rw [excess_eq] at atMost last_eq
  have floor_lt : mantissa / 2 ^ (mantissa.log2 - 52) < 2 ^ 53 - 1 := by
    rw [Nat.div_lt_iff_lt_mul (Nat.two_pow_pos _)]
    refine Nat.lt_of_mul_lt_mul_right (Nat.lt_of_lt_of_eq fits ?_)
    have power_eq : mantissa.log2 - 52 + (exponent + 104).toNat = 1075 := by omega
    rw [Nat.mul_assoc, ← Nat.pow_add, power_eq]
  have log_rounded : rounded.log2 ≤ 52 := by
    by_cases zero : rounded = 0
    · rw [zero]
      decide
    · have rounded_lt := (Nat.log2_lt zero).mpr (show rounded < 2 ^ 53 by omega)
      omega
  have last_bound : last + excess rounded last ≤ 971 := by
    unfold excess
    omega
  rw [round_eq]
  by_cases zero : kept = 0
  · rw [dif_pos zero]
    trivial
  · rw [dif_neg zero]
    exact ⟨kept_eq ▸ div_excess_lt rounded last, last_bound⟩

theorem within_product {first second : Nat} {left right : UnpackedFloat} (upTo : UpTo first left)
    (others : UpTo second right) (fits : first * second ≤ clearance) :
    Within 971 (mul Format.binary64 left right) := by
  cases left with
  | notANumber => exact upTo.elim
  | infinity sign => exact upTo.elim
  | zero sign =>
      cases right with
      | notANumber => exact others.elim
      | infinity other => exact others.elim
      | zero other => trivial
      | finite other factor scale positive => trivial
  | finite sign mantissa exponent positive =>
      cases right with
      | notANumber => exact others.elim
      | infinity other => exact others.elim
      | zero other => trivial
      | finite other factor scale factorPositive =>
          obtain ⟨wide, above, mantissa_le⟩ := upTo
          obtain ⟨factorWide, scaleAbove, factor_le⟩ := others
          have productWide : 52 ≤ (mantissa * factor).log2 := by
            rw [Nat.le_log2 (Nat.mul_pos positive factorPositive).ne']
            exact wide.trans (Nat.le_mul_of_pos_right _ factorPositive)
          refine within_round_of_lt _ _ productWide (by omega) ?_
          have power_eq : (exponent + scale + 104).toNat =
              (exponent + 52).toNat + (scale + 52).toNat := by omega
          calc mantissa * factor * 2 ^ (exponent + scale + 104).toNat
              = mantissa * 2 ^ (exponent + 52).toNat * (factor * 2 ^ (scale + 52).toNat) := by
                rw [power_eq, Nat.pow_add]
                ring
            _ ≤ first * (2 ^ 52 + 1) * (second * (2 ^ 52 + 1)) :=
                Nat.mul_le_mul mantissa_le factor_le
            _ = first * second * (2 ^ 52 + 1) ^ 2 := by ring
            _ ≤ clearance * (2 ^ 52 + 1) ^ 2 := Nat.mul_le_mul_right _ fits
            _ < (2 ^ 53 - 1) * 2 ^ 1075 := clearance_mul_lt

/-! ## Literals in range -/

theorem isSome_scale? {number : UInt64} {power : Int}
    (clear : (number.toNat : ℚ) * 10 ^ power ≤ clearance) :
    (scale? number.toFloat power).isSome := by
  cases power with
  | negSucc power => rfl
  | ofNat power =>
      have fits : number.toNat * 10 ^ power ≤ clearance := by
        rw [Int.ofNat_eq_natCast, zpow_natCast] at clear
        exact_mod_cast clear
      rw [scale?]
      split
      · rename_i small
        have product := within_product (upTo_toFloat number) (upTo_powerOfTen small) fits
        have packed := within_unpack_pack product (by decide) (Int.le_refl _)
        have finite : ¬ (number.toFloat * powerOfTen power).isInf = true := by
          intro infinite
          change (Float.Model.pack (mul Format.binary64 number.toFloat.toModel.unpack
            (powerOfTen power).toModel.unpack)).unpack.isInf = true at infinite
          obtain ⟨sign, zero⟩ | ⟨sign, mantissa, exponent, positive, finite, -⟩ := packed.cases
          · rw [zero] at infinite
            cases infinite
          · rw [finite] at infinite
            cases infinite
        dsimp only
        rw [if_neg finite]
        rfl
      · rename_i huge
        by_cases zero : number.toNat = 0
        · obtain rfl : number = 0 := UInt64.toNat_inj.mp zero
          have isZero : ((0 : UInt64).toFloat == 0) = true := by decide +kernel
          rw [if_pos isZero]
          rfl
        · have tooLarge : clearance < number.toNat * 10 ^ power := by
            calc clearance < 10 ^ power := clearance_lt (Nat.lt_of_not_le huge)
              _ ≤ number.toNat * 10 ^ power :=
                  Nat.le_mul_of_pos_left _ (Nat.pos_of_ne_zero zero)
          exact absurd fits (Nat.not_le.mpr tooLarge)

/-- A literal that keeps clear of the largest double denotes a double. -/
theorem isSome_readDouble? {literal : Json.NumberLiteral}
    (clear : literal.magnitude ≤ 2 ^ 1024 - 2 ^ 974) : (readDouble? literal).isSome := by
  obtain ⟨number, power, scaled_le, read_eq⟩ := literal.exists_scaled
  rw [← cast_clearance] at clear
  rw [read_eq]
  exact isSome_scale? (scaled_le.trans clear)

end Decimal

end RowStream
