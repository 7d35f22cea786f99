import Mathlib.Data.List.TakeWhile
import Mathlib.Tactic.IntervalCases
import RowStream.Cell
import RowStream.Proofs.Scanning

/-!
# Written numbers read back

An integer is written with its decimal digits, which are read as the same integer as long as it
fits 64 bits.  A finite double is always written with a point or an exponent, so it is never read
as an integer.
-/

set_option autoImplicit false

namespace RowStream.Json

open Scanner (isNumeric)

/-! ## Number tokens -/

theorem mem_of_isNumeric {byte : UInt8} (numeric : isNumeric byte) :
    byte ∈ ([0x30, 0x31, 0x32, 0x33, 0x34, 0x35, 0x36, 0x37, 0x38, 0x39, 0x2b, 0x2d, 0x2e, 0x45,
      0x65] : Bytes) := by
  simp only [isNumeric, Bool.or_eq_true, Bool.and_eq_true, decide_eq_true_eq, beq_iff_eq] at numeric
  rcases numeric with ((((⟨atLeast, atMost⟩ | rfl) | rfl) | rfl) | rfl) | rfl
  · have low : 48 ≤ byte.toNat := atLeast
    have high : byte.toNat ≤ 57 := atMost
    have byte_eq : byte = UInt8.ofNat byte.toNat := byte.ofNat_toNat.symm
    rw [byte_eq]
    interval_cases byte.toNat <;> decide
  all_goals decide

theorem run_numeric {bytes : Bytes} (numeric : ∀ byte ∈ bytes, isNumeric byte) (read : Bytes)
    (found : List Token) :
    Scanner.run ⟨.number read, found⟩ bytes = some ⟨.number (bytes.reverse ++ read), found⟩ := by
  induction bytes generalizing read with
  | nil => rfl
  | cons byte rest inductionHypothesis =>
      have stepped : Scanner.step ⟨.number read, found⟩ byte =
          some ⟨.number (byte :: read), found⟩ := if_pos (numeric byte List.mem_cons_self)
      have later := inductionHypothesis
        (fun other member => numeric other (List.mem_cons_of_mem byte member)) (byte :: read)
      rw [Scanner.run, List.foldlM_cons, stepped]
      change Scanner.run ⟨.number (byte :: read), found⟩ rest = _
      rw [later]
      simp

/-- What can be read as a literal is one token. -/
theorem writes_number {bytes : Bytes} {literal : NumberLiteral}
    (numeric : ∀ byte ∈ bytes, isNumeric byte) (read : NumberLiteral.read? bytes = some literal) :
    Writes bytes (.number literal) := by
  have printable : Printable bytes := by
    intro byte member
    have among := mem_of_isNumeric (numeric byte member)
    simp only [List.mem_cons, List.not_mem_nil, or_false] at among
    rcases among with rfl | rfl | rfl | rfl | rfl | rfl | rfl | rfl | rfl | rfl | rfl | rfl | rfl |
      rfl | rfl <;> decide
  have spells : Spells bytes [.number literal] := by
    intro found
    refine ⟨_, ?_, Scanner.stands_number found read⟩
    cases bytes with
    | nil => cases read
    | cons byte rest =>
        have begun : Scanner.step ⟨.between, found⟩ byte = some ⟨.number [byte], found⟩ := by
          have among := mem_of_isNumeric (numeric byte List.mem_cons_self)
          simp only [List.mem_cons, List.not_mem_nil, or_false] at among
          rcases among with rfl | rfl | rfl | rfl | rfl | rfl | rfl | rfl | rfl | rfl | rfl | rfl |
            rfl | rfl | rfl <;> rfl
        have later := run_numeric
          (fun other member => numeric other (List.mem_cons_of_mem byte member)) [byte] found
        rw [Scanner.run, List.foldlM_cons, begun]
        change Scanner.run ⟨.number [byte], found⟩ rest = _
        rw [later]
        simp
  exact writes_token printable spells fun _ => rfl

/-! ## Digits -/

def digitByte (digit : Nat) : UInt8 := UInt8.ofNat (0x30 + digit)

theorem digitByte_spec {digit : Nat} (below : digit < 10) :
    digitValue? (digitByte digit) = some digit ∧ isNumeric (digitByte digit) ∧
      String.utf8EncodeChar digit.digitChar = [digitByte digit] ∧ digitByte digit ≠ 0x2d := by
  interval_cases digit <;> exact ⟨rfl, rfl, rfl, by decide⟩

/-- The digits of a number are written in order, with no zero in front. -/
theorem exists_digits (number : Nat) : ∃ digits : List Nat,
    Bytes.ofText (toString number) = digits.map digitByte ∧ (∀ digit ∈ digits, digit < 10) ∧
      ofDigits digits = number ∧ digits ≠ [] ∧ (digits.head? = some 0 → digits = [0]) := by
  have text_eq : Bytes.ofText (toString number) =
      (Nat.toDigits 10 number).flatMap String.utf8EncodeChar := Bytes.ofText_ofList _
  rw [text_eq]
  induction number using Nat.strongRecOn with
  | _ number inductionHypothesis =>
      by_cases small : number < 10
      · refine ⟨[number], ?_, by simpa using small, by simp [ofDigits], by simp, by simp⟩
        rw [Nat.toDigits_of_lt_base small, List.flatMap_singleton, (digitByte_spec small).2.2.1]
        rfl
      · obtain ⟨digits, written, below, value, nonempty, leading⟩ :=
          inductionHypothesis (number / 10) (by omega) (Bytes.ofText_ofList _)
        have last : number % 10 < 10 := Nat.mod_lt _ (by decide)
        refine ⟨digits ++ [number % 10], ?_, ?_, ?_, by simp, ?_⟩
        · rw [Nat.toDigits_of_base_le (by decide) (by omega), List.flatMap_append, written,
            List.flatMap_singleton, (digitByte_spec last).2.2.1, List.map_append]
          rfl
        · intro digit member
          rcases List.mem_append.mp member with earlier | isLast
          · exact below digit earlier
          · rw [List.mem_singleton.mp isLast]
            exact last
        · have appended : ofDigits (digits ++ [number % 10]) =
              10 * ofDigits digits + number % 10 := by
            simp [ofDigits]
          rw [appended, value]
          omega
        · intro isZero
          have first_eq : (digits ++ [number % 10]).head? = digits.head? := by
            cases digits with
            | nil => exact absurd rfl nonempty
            | cons first others => rfl
          have alone := leading (first_eq ▸ isZero)
          rw [alone] at value
          simp [ofDigits] at value
          omega

theorem splitDigits_append {digits : List Nat} (below : ∀ digit ∈ digits, digit < 10) {rest : Bytes}
    (parted : ∀ byte ∈ rest.head?, digitValue? byte = none) :
    splitDigits (digits.map digitByte ++ rest) = (digits, rest) := by
  induction digits with
  | nil =>
      cases rest with
      | nil => rfl
      | cons byte later =>
          have noDigit := parted byte rfl
          simp only [splitDigits, List.map_nil, List.nil_append]
          rw [List.takeWhile_cons_of_neg (by simp [noDigit]),
            List.dropWhile_cons_of_neg (by simp [noDigit])]
          rfl
  | cons digit others inductionHypothesis =>
      have value := (digitByte_spec (below digit List.mem_cons_self)).1
      have later := inductionHypothesis fun other member =>
        below other (List.mem_cons_of_mem digit member)
      simp only [splitDigits, Prod.mk.injEq] at later ⊢
      obtain ⟨taken, dropped⟩ := later
      rw [List.map_cons, List.cons_append, List.takeWhile_cons_of_pos (by simp [value]),
        List.dropWhile_cons_of_pos (by simp [value]), List.filterMap_cons_some value, taken,
        dropped]
      exact ⟨rfl, rfl⟩

theorem splitDigits_digits {digits : List Nat} (below : ∀ digit ∈ digits, digit < 10) :
    splitDigits (digits.map digitByte) = (digits, []) := by
  have noneLeft : ∀ byte ∈ ([] : Bytes).head?, digitValue? byte = none := by
    intro byte member
    cases member
  simpa using splitDigits_append below noneLeft

namespace NumberLiteral

def readUnsigned? (negative : Bool) (unsigned : Bytes) : Option NumberLiteral :=
  let (whole, rest) := splitDigits unsigned
  if whole.isEmpty || (whole.length ≠ 1 && whole.head? = some 0) then none
  else
    match rest with
    | 0x2e :: behindPoint =>
        let (fraction, rest) := splitDigits behindPoint
        if fraction.isEmpty then none else readTail? negative whole fraction rest
    | rest => readTail? negative whole [] rest

theorem read?_minus (unsigned : Bytes) : read? (0x2d :: unsigned) = readUnsigned? true unsigned :=
  rfl

theorem read?_unsigned {bytes : Bytes} (noMinus : bytes.head? ≠ some 0x2d) :
    read? bytes = readUnsigned? false bytes := by
  unfold read?
  split
  rename_i negative unsigned sign_eq
  split at sign_eq
  · exact absurd rfl noMinus
  · cases sign_eq
    rfl

theorem readUnsigned?_digits {digits : List Nat} (negative : Bool)
    (below : ∀ digit ∈ digits, digit < 10) (nonempty : digits ≠ [])
    (leading : digits.head? = some 0 → digits = [0]) :
    readUnsigned? negative (digits.map digitByte) =
      some { negative, whole := digits, fraction := [], exponent := none } := by
  have accepted : (digits.isEmpty || (digits.length ≠ 1 && digits.head? = some 0)) = false := by
    cases zero : decide (digits.head? = some 0) with
    | false => simp [nonempty]
    | true => simp [leading (of_decide_eq_true zero)]
  simp only [readUnsigned?, splitDigits_digits below, accepted]
  rfl

end NumberLiteral

/-! ## Integers -/

namespace Number

theorem le_foldl_digits (digits : List Nat) (value : Nat) :
    value ≤ digits.foldl (fun value digit => 10 * value + digit) value := by
  induction digits generalizing value with
  | nil => exact Nat.le_refl _
  | cons digit rest inductionHypothesis =>
      have later := inductionHypothesis (10 * value + digit)
      rw [List.foldl_cons]
      omega

theorem significand_of_fits {digits : List Nat} {value : Nat}
    (fits : digits.foldl (fun value digit => 10 * value + digit) value < Nat.pow 2 64) :
    significand value digits =
      (digits.foldl (fun value digit => 10 * value + digit) value, []) := by
  induction digits generalizing value with
  | nil => rfl
  | cons digit rest inductionHypothesis =>
      rw [List.foldl_cons] at fits ⊢
      have taken := le_foldl_digits rest (10 * value + digit)
      rw [significand, if_pos (by omega), inductionHypothesis fits]

/-- An integer that is written as one and fits 64 bits stays one, but for a negative zero. -/
theorem ofLiteral?_whole {literal : NumberLiteral} (isWhole : literal.isWhole)
    (fits : ofDigits literal.whole < Nat.pow 2 64) :
    ofLiteral? literal =
      if !literal.negative then some (.natural (UInt64.ofNat (ofDigits literal.whole)))
      else if 0 < ofDigits literal.whole && ofDigits literal.whole ≤ Nat.pow 2 63 then
        some (.negative (Int64.ofInt (-ofDigits literal.whole)))
      else (readDouble? literal).map .double := by
  have taken : significand 0 literal.whole = (ofDigits literal.whole, []) :=
    significand_of_fits fits
  rw [ofLiteral?, taken]
  simp only [isWhole, List.isEmpty_nil, Bool.not_true, Bool.or_self, Bool.false_eq_true, if_false]

end Number

/-- A number below `2^64` is written as the literal that denotes it. -/
theorem writes_natural {number : Nat} (fits : number < Nat.pow 2 64) :
    ∃ literal, Writes (Bytes.ofText (toString number)) (.number literal) ∧
      Number.ofLiteral? literal = some (.natural (UInt64.ofNat number)) := by
  obtain ⟨digits, written, below, value, nonempty, leading⟩ := exists_digits number
  have noMinus : (digits.map digitByte).head? ≠ some 0x2d := by
    intro minus
    obtain ⟨digit, isFirst, same⟩ :
        ∃ digit, digits.head? = some digit ∧ digitByte digit = 0x2d := by
      simpa using minus
    exact (digitByte_spec (below digit (List.mem_of_mem_head? isFirst))).2.2.2 same
  have numeric : ∀ byte ∈ digits.map digitByte, isNumeric byte := by
    intro byte member
    obtain ⟨digit, isDigit, rfl⟩ := List.mem_map.mp member
    exact (digitByte_spec (below digit isDigit)).2.1
  have read := NumberLiteral.readUnsigned?_digits false below nonempty leading
  rw [← NumberLiteral.read?_unsigned noMinus] at read
  refine ⟨_, written ▸ writes_number numeric read, ?_⟩
  rw [← value] at fits ⊢
  rw [Number.ofLiteral?_whole rfl fits]
  rfl

theorem writes_negative {number : Nat} (positive : 0 < number) (fits : number ≤ Nat.pow 2 63) :
    ∃ literal, Writes (Bytes.ofText ("-" ++ toString number)) (.number literal) ∧
      Number.ofLiteral? literal = some (.negative (Int64.ofInt (-number))) := by
  obtain ⟨digits, written, below, value, nonempty, leading⟩ := exists_digits number
  have numeric : ∀ byte ∈ (0x2d : UInt8) :: digits.map digitByte, isNumeric byte := by
    intro byte member
    rcases List.mem_cons.mp member with rfl | isDigit
    · decide
    · obtain ⟨digit, among, rfl⟩ := List.mem_map.mp isDigit
      exact (digitByte_spec (below digit among)).2.1
  have read := NumberLiteral.readUnsigned?_digits true below nonempty leading
  rw [← NumberLiteral.read?_minus] at read
  have bytes_eq : Bytes.ofText ("-" ++ toString number) = 0x2d :: digits.map digitByte := by
    rw [Bytes.ofText_append, written]
    rfl
  refine ⟨_, bytes_eq ▸ writes_number numeric read, ?_⟩
  have small : number < Nat.pow 2 64 := Nat.lt_of_le_of_lt fits (by decide)
  rw [← value] at positive fits small ⊢
  rw [Number.ofLiteral?_whole rfl small]
  simp [positive, fits]

/-! ## Doubles -/

namespace NumberLiteral

theorem isWhole_readTail? {negative : Bool} {whole fraction : List Nat} {bytes : Bytes}
    {literal : NumberLiteral} (read : readTail? negative whole fraction bytes = some literal)
    (isWhole : literal.isWhole) : fraction = [] ∧ bytes = [] := by
  cases bytes with
  | nil =>
      cases read
      simpa [NumberLiteral.isWhole] using isWhole
  | cons mark rest =>
      rw [readTail?] at read
      split at read
      · obtain ⟨exponent, _, rfl⟩ := Option.map_eq_some_iff.mp read
        simp [NumberLiteral.isWhole] at isWhole
      · cases read

theorem digits_of_isWhole {negative : Bool} {unsigned : Bytes} {literal : NumberLiteral}
    (read : readUnsigned? negative unsigned = some literal) (isWhole : literal.isWhole) :
    ∀ byte ∈ unsigned, (digitValue? byte).isSome := by
  have nothingLeft : (splitDigits unsigned).2 = [] := by
    simp only [readUnsigned?] at read
    split at read
    · cases read
    · split at read
      · split at read
        · cases read
        · rename_i nonempty
          obtain ⟨noFraction, _⟩ := isWhole_readTail? read isWhole
          exact absurd (List.isEmpty_iff.mpr noFraction) nonempty
      · exact (isWhole_readTail? read isWhole).2
  exact List.dropWhile_eq_nil_iff.mp nothingLeft

theorem isWhole_eq_false {bytes : Bytes} {literal : NumberLiteral}
    (read : read? bytes = some literal) (marked : 0x2e ∈ bytes ∨ 0x65 ∈ bytes) :
    literal.isWhole = false := by
  by_contra isWhole
  rw [Bool.not_eq_false] at isWhole
  have digits : ∀ byte ∈ bytes, byte = 0x2d ∨ (digitValue? byte).isSome := by
    intro byte member
    by_cases minus : bytes.head? = some 0x2d
    · obtain ⟨unsigned, rfl⟩ := List.head?_eq_some_iff.mp minus
      rcases List.mem_cons.mp member with rfl | behind
      · exact Or.inl rfl
      · exact Or.inr (digits_of_isWhole ((read?_minus unsigned) ▸ read) isWhole byte behind)
    · rw [read?_unsigned minus] at read
      exact Or.inr (digits_of_isWhole read isWhole byte member)
  rcases marked with point | letter
  · exact absurd (digits _ point) (by decide)
  · exact absurd (digits _ letter) (by decide)

end NumberLiteral

def Numeric (chars : List Char) : Prop :=
  ∀ byte ∈ chars.flatMap String.utf8EncodeChar, isNumeric byte

theorem numeric_of_all {chars : List Char}
    (checked : (chars.flatMap String.utf8EncodeChar).all isNumeric) : Numeric chars :=
  List.all_eq_true.mp checked

theorem Numeric.of_subset {chars others : List Char} (numeric : Numeric others)
    (subset : chars ⊆ others) : Numeric chars := by
  intro byte member
  obtain ⟨char, isChar, inChar⟩ := List.mem_flatMap.mp member
  exact numeric byte (List.mem_flatMap.mpr ⟨char, subset isChar, inChar⟩)

theorem Numeric.append {first second : List Char} (numeric : Numeric first)
    (others : Numeric second) : Numeric (first ++ second) := by
  intro byte member
  rw [List.flatMap_append, List.mem_append] at member
  exact member.elim (numeric byte) (others byte)

theorem Numeric.cons {char : Char} (first : Numeric [char]) {chars : List Char}
    (numeric : Numeric chars) : Numeric (char :: chars) := first.append numeric

theorem numeric_natural (number : Nat) : Numeric (toString number).toList := by
  obtain ⟨digits, written, below, _⟩ := exists_digits number
  have bytes_eq : (toString number).toList.flatMap String.utf8EncodeChar =
      digits.map digitByte := by
    rw [← written, Bytes.ofText_eq]
  intro byte member
  rw [bytes_eq] at member
  obtain ⟨digit, isDigit, rfl⟩ := List.mem_map.mp member
  exact (digitByte_spec (below digit isDigit)).2.1

theorem numeric_zero : Numeric ['0'] := numeric_of_all rfl

theorem numeric_point : Numeric ['.'] := numeric_of_all rfl

theorem numeric_zeros (count : Nat) : Numeric (Decimal.Layout.zeros count) :=
  numeric_zero.of_subset fun char member => by
    rw [List.eq_of_mem_replicate member]
    exact List.mem_singleton_self _

structure Fractional (chars : List Char) : Prop where
  numeric : Numeric chars
  marked : '.' ∈ chars ∨ 'e' ∈ chars

theorem fractional_positional {digits : List Char} (numeric : Numeric digits) (exponent : Int) :
    Fractional (Decimal.Layout.positional ".0" digits exponent) := by
  cases exponent with
  | ofNat exponent =>
      have ending : Numeric ".0".toList := numeric_of_all rfl
      exact ⟨(numeric.append (numeric_zeros exponent)).append ending,
        Or.inl (List.mem_append_right _ (by decide))⟩
  | negSucc exponent =>
      simp only [Decimal.Layout.positional]
      split
      · refine ⟨?_, Or.inl (List.mem_append_right _ List.mem_cons_self)⟩
        exact (numeric.of_subset (List.take_subset _ _)).append
          (numeric_point.cons (numeric.of_subset (List.drop_subset _ _)))
      · refine ⟨?_, Or.inl (List.mem_cons_of_mem _ List.mem_cons_self)⟩
        exact numeric_zero.cons (numeric_point.cons ((numeric_zeros _).append numeric))

theorem fractional_scientific {digits : List Char} (numeric : Numeric digits) (leading : Int) :
    Fractional (Decimal.Layout.scientific digits leading) := by
  have letter : Numeric ['e'] := numeric_of_all rfl
  have plus : Numeric ['+'] := numeric_of_all rfl
  have minus : Numeric ['-'] := numeric_of_all rfl
  refine ⟨?_, Or.inr (List.mem_append_right _ List.mem_cons_self)⟩
  refine Numeric.append ?_ (letter.cons ?_)
  · split
    · rename_i first next rest
      have firstNumeric : Numeric [first] := numeric.of_subset (by simp)
      exact firstNumeric.cons (numeric_point.cons (numeric.of_subset (List.subset_cons_self _ _)))
    · exact numeric
  · cases leading with
    | ofNat exponent => exact plus.cons (numeric_natural exponent)
    | negSucc exponent => exact minus.cons (numeric_natural (exponent + 1))

theorem fractional_magnitude (mantissa : Nat) (exponent : Int) :
    Fractional (Cell.jsonLayout.magnitude mantissa exponent) := by
  unfold Decimal.Layout.magnitude
  split
  · exact ⟨numeric_of_all rfl, Or.inl (by decide)⟩
  · simp only []
    split
    · exact fractional_positional (numeric_natural _) _
    · exact fractional_scientific (numeric_natural _) _

theorem exists_fractional_write {value : Float} {negative : Bool} {mantissa : Nat} {exponent : Int}
    (finite : Decimal.Binary.ofFloat value = .finite negative mantissa exponent) :
    ∃ chars, Cell.jsonLayout.write value = String.ofList chars ∧ Fractional chars := by
  have magnitude := fractional_magnitude mantissa exponent
  have minus : Numeric ['-'] := numeric_of_all rfl
  simp only [Decimal.Layout.write, finite]
  cases negative with
  | false => exact ⟨_, rfl, magnitude⟩
  | true =>
      exact ⟨_, rfl, minus.cons magnitude.numeric,
        magnitude.marked.imp (List.mem_cons_of_mem _) (List.mem_cons_of_mem _)⟩

/-- The JSON text of a double is read as the double itself. -/
def ReadsBack (value : Float) : Prop :=
  (NumberLiteral.read? (Bytes.ofText (Cell.jsonLayout.write value))).bind Number.readDouble? =
    some value

/-- A finite double is written as a literal that denotes it, if its text reads back. -/
theorem writes_double {value : Float} {negative : Bool} {mantissa : Nat} {exponent : Int}
    (finite : Decimal.Binary.ofFloat value = .finite negative mantissa exponent)
    (readsBack : ReadsBack value) :
    ∃ literal, Writes (Bytes.ofText (Cell.jsonLayout.write value)) (.number literal) ∧
      Number.ofLiteral? literal = some (.double value) := by
  obtain ⟨chars, text_eq, numeric, marked⟩ := exists_fractional_write finite
  obtain ⟨literal, read, denotes⟩ := Option.bind_eq_some_iff.mp readsBack
  rw [text_eq, Bytes.ofText_ofList] at read ⊢
  have markedBytes : 0x2e ∈ chars.flatMap String.utf8EncodeChar ∨
      0x65 ∈ chars.flatMap String.utf8EncodeChar := by
    rcases marked with point | letter
    · exact Or.inl (List.mem_flatMap.mpr ⟨'.', point, by decide⟩)
    · exact Or.inr (List.mem_flatMap.mpr ⟨'e', letter, by decide⟩)
  have notWhole := NumberLiteral.isWhole_eq_false read markedBytes
  refine ⟨literal, writes_number numeric read, ?_⟩
  simp only [Number.ofLiteral?, notWhole, Bool.not_false, Bool.true_or, if_true, denotes]
  rfl

end RowStream.Json
