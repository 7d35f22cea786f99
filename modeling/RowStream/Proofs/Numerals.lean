import RowStream.Decimal.Natural

/-!
# Which texts are natural numbers

A numeral is decimal digits, at least one, behind one plus sign or none.  `readNatural` reads
exactly the numerals with a value below its bound (`readNatural_eq_ok_iff`).  It gives up at the
first digit that leads out of range, and no digit behind that one leads back, because the value of
digits never falls (`le_ofDigitChars`).
-/

set_option autoImplicit false

namespace RowStream

def Numeral (chars : List Char) (value : Nat) : Prop :=
  ∃ sign digits, chars = sign ++ digits ∧ (sign = [] ∨ sign = ['+']) ∧ digits ≠ [] ∧
    (∀ digit ∈ digits, digit.isDigit) ∧ Nat.ofDigitChars 10 digits 0 = value

theorem le_ofDigitChars (digits : List Char) (value : Nat) :
    value ≤ Nat.ofDigitChars 10 digits value := by
  induction digits generalizing value with
  | nil => simp
  | cons digit rest inductionHypothesis =>
      rw [Nat.ofDigitChars_cons]
      have later := inductionHypothesis (10 * value + (digit.toNat - '0'.toNat))
      omega

theorem readDigits_eq_ok_iff (bound : Nat) (digits : List Char) {value result : Nat}
    (below : value < bound) :
    readDigits bound value digits = .ok result ↔
      (∀ digit ∈ digits, digit.isDigit) ∧ Nat.ofDigitChars 10 digits value = result ∧
        result < bound := by
  induction digits generalizing value with
  | nil =>
      simp only [readDigits, Except.ok.injEq, List.not_mem_nil, false_implies, implies_true,
        Nat.ofDigitChars_nil, true_and]
      constructor
      · rintro rfl
        exact ⟨rfl, below⟩
      · exact And.left
  | cons digit rest inductionHypothesis =>
      rw [readDigits, Nat.ofDigitChars_cons, List.forall_mem_cons]
      by_cases isDigit : digit.isDigit
      · simp only [isDigit, Bool.not_true, Bool.false_eq_true, if_false, true_and]
        by_cases overflows : bound ≤ 10 * value + (digit.toNat - '0'.toNat)
        · rw [if_pos overflows]
          have atLeast := le_ofDigitChars rest (10 * value + (digit.toNat - '0'.toNat))
          constructor
          · intro read
            cases read
          · rintro ⟨_, result_eq, inRange⟩
            omega
        · rw [if_neg overflows]
          exact inductionHypothesis (Nat.lt_of_not_le overflows)
      · simp [isDigit]

theorem Numeral.of_digits {digits : List Char} (notEmpty : digits ≠ [])
    (allDigits : ∀ digit ∈ digits, digit.isDigit) :
    Numeral digits (Nat.ofDigitChars 10 digits 0) :=
  ⟨[], digits, rfl, Or.inl rfl, notEmpty, allDigits, rfl⟩

/-- A text is read as the numeral that it is, if its value is below the bound, and not otherwise. -/
theorem readNatural_eq_ok_iff {bound : Nat} (positive : 0 < bound) (text : String) (value : Nat) :
    readNatural bound text = .ok value ↔ Numeral text.toList value ∧ value < bound := by
  unfold readNatural
  generalize text.toList = chars
  constructor
  · intro read
    split at read
    · cases read
    · cases read
    · rename_i digits notAlone
      obtain ⟨allDigits, value_eq, below⟩ := (readDigits_eq_ok_iff bound digits positive).mp read
      refine ⟨⟨['+'], digits, rfl, Or.inr rfl, ?_, allDigits, value_eq⟩, below⟩
      rintro rfl
      exact notAlone rfl
    · rename_i notEmpty _ _
      obtain ⟨allDigits, value_eq, below⟩ := (readDigits_eq_ok_iff bound chars positive).mp read
      rw [← value_eq]
      exact ⟨.of_digits notEmpty allDigits, value_eq ▸ below⟩
  · rintro ⟨⟨sign, digits, rfl, signs, notEmpty, allDigits, value_eq⟩, below⟩
    have read := (readDigits_eq_ok_iff bound digits positive).mpr ⟨allDigits, value_eq, below⟩
    obtain ⟨first, rest, rfl⟩ := List.exists_cons_of_ne_nil notEmpty
    rcases signs with rfl | rfl
    · have notPlus : first ≠ '+' := by
        rintro rfl
        exact absurd (allDigits '+' (by simp)) (by decide)
      simpa [notPlus] using read
    · exact read

end RowStream
