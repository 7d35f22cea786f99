import RowStream.Proofs.Literals
import RowStream.Proofs.Quoting

/-!
# The grammar of JSON

`Json.Spelling` says which bytes spell a value, with white space wherever it may stand, whatever the
strings hold and however deep values are nested.  It is written down without the scanner, and what
it derives is read as the value that it spells (`parse?_spelling`).
-/

set_option autoImplicit false

namespace RowStream.Json

open Scanner (hexValue? isNumeric)

/-! ## Numbers -/

/-- What may stand at the end of a number: nothing, or a letter, perhaps a sign, and digits. -/
inductive ExponentSpelling : Option Int → Bytes → Prop where
  | absent : ExponentSpelling none []
  | positive {mark : UInt8} {sign : Bytes} {digits : List Nat} (isMark : mark = 0x65 ∨ mark = 0x45)
      (isSign : sign = [] ∨ sign = [0x2b]) (below : ∀ digit ∈ digits, digit < 10)
      (nonempty : digits ≠ []) :
      ExponentSpelling (some (ofDigits digits)) (mark :: (sign ++ digits.map digitByte))
  | negative {mark : UInt8} {digits : List Nat} (isMark : mark = 0x65 ∨ mark = 0x45)
      (below : ∀ digit ∈ digits, digit < 10) (nonempty : digits ≠ []) :
      ExponentSpelling (some (-(ofDigits digits : Int))) (mark :: 0x2d :: digits.map digitByte)

def fractionBytes (digits : List Nat) : Bytes :=
  if digits = [] then [] else 0x2e :: digits.map digitByte

structure NumberSpelling (literal : NumberLiteral) (bytes : Bytes) : Prop where
  wholeBelow : ∀ digit ∈ literal.whole, digit < 10
  fractionBelow : ∀ digit ∈ literal.fraction, digit < 10
  nonempty : literal.whole ≠ []
  leading : literal.whole.head? = some 0 → literal.whole = [0]
  spelled : ∃ exponent, ExponentSpelling literal.exponent exponent ∧
    bytes = (if literal.negative then [0x2d] else []) ++
      (literal.whole.map digitByte ++ (fractionBytes literal.fraction ++ exponent))

theorem exists_head_digits {digits : List Nat} (below : ∀ digit ∈ digits, digit < 10)
    (nonempty : digits ≠ []) :
    ∃ digit later, digit < 10 ∧ digits.map digitByte = digitByte digit :: later := by
  cases digits with
  | nil => exact absurd rfl nonempty
  | cons digit others => exact ⟨digit, _, below digit List.mem_cons_self, rfl⟩

theorem isNumeric_digits {digits : List Nat} (below : ∀ digit ∈ digits, digit < 10) :
    ∀ byte ∈ digits.map digitByte, isNumeric byte := by
  intro byte member
  obtain ⟨digit, isDigit, rfl⟩ := List.mem_map.mp member
  exact (digitByte_spec (below digit isDigit)).2.1

namespace ExponentSpelling

variable {exponent : Option Int} {bytes : Bytes}

theorem readTail?_eq (spelling : ExponentSpelling exponent bytes) (negative : Bool)
    (whole fraction : List Nat) :
    NumberLiteral.readTail? negative whole fraction bytes =
      some { negative, whole, fraction, exponent } := by
  cases spelling with
  | absent => rfl
  | @positive mark sign digits isMark isSign below nonempty =>
      have plus_eq : NumberLiteral.readExponent? (sign ++ digits.map digitByte) =
          NumberLiteral.readExponent? (0x2b :: digits.map digitByte) := by
        rcases isSign with rfl | rfl
        · obtain ⟨digit, later, small, shape⟩ := exists_head_digits below nonempty
          rw [List.nil_append, shape]
          interval_cases digit <;> rfl
        · rfl
      have read : NumberLiteral.readExponent? (0x2b :: digits.map digitByte) =
          some (ofDigits digits : Int) := by
        simp [NumberLiteral.readExponent?, splitDigits_digits below, nonempty]
      rw [NumberLiteral.readTail?, if_pos isMark, plus_eq, read]
      rfl
  | @negative mark digits isMark below nonempty =>
      have read : NumberLiteral.readExponent? (0x2d :: digits.map digitByte) =
          some (-(ofDigits digits : Int)) := by
        simp [NumberLiteral.readExponent?, splitDigits_digits below, nonempty]
      rw [NumberLiteral.readTail?, if_pos isMark, read]
      rfl

theorem numeric (spelling : ExponentSpelling exponent bytes) :
    ∀ byte ∈ bytes, isNumeric byte := by
  intro byte member
  cases spelling with
  | absent => cases member
  | @positive mark sign digits isMark isSign below nonempty =>
      rcases List.mem_cons.mp member with rfl | behind
      · rcases isMark with rfl | rfl <;> decide
      · rcases List.mem_append.mp behind with inSign | isDigit
        · rcases isSign with rfl | rfl
          · cases inSign
          · obtain rfl := List.mem_singleton.mp inSign
            decide
        · exact isNumeric_digits below byte isDigit
  | @negative mark digits isMark below nonempty =>
      rcases List.mem_cons.mp member with rfl | behind
      · rcases isMark with rfl | rfl <;> decide
      · rcases List.mem_cons.mp behind with rfl | isDigit
        · decide
        · exact isNumeric_digits below byte isDigit

theorem parted (spelling : ExponentSpelling exponent bytes) :
    ∀ byte ∈ bytes.head?, digitValue? byte = none ∧ byte ≠ 0x2e := by
  intro byte member
  cases spelling with
  | absent => cases member
  | @positive mark sign digits isMark isSign below nonempty =>
      cases member
      rcases isMark with rfl | rfl <;> decide
  | @negative mark digits isMark below nonempty =>
      cases member
      rcases isMark with rfl | rfl <;> decide

end ExponentSpelling

namespace NumberSpelling

variable {literal : NumberLiteral} {bytes : Bytes}

theorem readUnsigned?_eq (spelling : NumberSpelling literal bytes) {exponent : Bytes}
    (behind : ExponentSpelling literal.exponent exponent) :
    NumberLiteral.readUnsigned? literal.negative
      (literal.whole.map digitByte ++ (fractionBytes literal.fraction ++ exponent)) =
        some literal := by
  have accepted :
      (literal.whole.isEmpty || (literal.whole.length ≠ 1 && literal.whole.head? = some 0)) =
        false := by
    cases zero : decide (literal.whole.head? = some 0) with
    | false => simp [spelling.nonempty]
    | true => simp [spelling.leading (of_decide_eq_true zero)]
  by_cases noFraction : literal.fraction = []
  · have split := splitDigits_append spelling.wholeBelow fun byte member =>
      (behind.parted byte member).1
    have tail_eq := behind.readTail?_eq literal.negative literal.whole []
    rw [noFraction, fractionBytes, if_pos rfl, List.nil_append]
    simp only [NumberLiteral.readUnsigned?, split, accepted, Bool.false_eq_true, if_false]
    split
    · rename_i point
      exact absurd rfl (behind.parted 0x2e rfl).2
    · rw [tail_eq, ← noFraction]
  · have point : ∀ byte ∈ (0x2e :: (literal.fraction.map digitByte ++ exponent)).head?,
        digitValue? byte = none := by
      intro byte member
      cases member
      rfl
    have split := splitDigits_append spelling.wholeBelow point
    have splitFraction := splitDigits_append spelling.fractionBelow fun byte member =>
      (behind.parted byte member).1
    have tail_eq := behind.readTail?_eq literal.negative literal.whole literal.fraction
    rw [fractionBytes, if_neg noFraction, List.cons_append]
    simp only [NumberLiteral.readUnsigned?, split, accepted, Bool.false_eq_true, if_false,
      splitFraction, List.isEmpty_iff, noFraction, tail_eq]

theorem read?_eq (spelling : NumberSpelling literal bytes) :
    NumberLiteral.read? bytes = some literal := by
  obtain ⟨exponent, behind, rfl⟩ := spelling.spelled
  have unsigned := spelling.readUnsigned?_eq behind
  obtain ⟨digit, later, small, shape⟩ :=
    exists_head_digits spelling.wholeBelow spelling.nonempty
  cases sign : literal.negative with
  | true =>
      rw [sign] at unsigned
      exact unsigned
  | false =>
      have noMinus : (literal.whole.map digitByte ++
          (fractionBytes literal.fraction ++ exponent)).head? ≠ some 0x2d := by
        rw [shape]
        intro minus
        exact (digitByte_spec small).2.2.2 (Option.some.inj minus)
      rw [sign] at unsigned
      exact (NumberLiteral.read?_unsigned noMinus).trans unsigned

theorem renders (spelling : NumberSpelling literal bytes) : Renders bytes (.number literal) := by
  refine (writes_number ?_ spelling.read?_eq).spelled
  obtain ⟨exponent, behind, rfl⟩ := spelling.spelled
  intro byte member
  rcases List.mem_append.mp member with inSign | unsigned
  · split at inSign
    · obtain rfl := List.mem_singleton.mp inSign
      decide
    · cases inSign
  · rcases List.mem_append.mp unsigned with inWhole | rest
    · exact isNumeric_digits spelling.wholeBelow byte inWhole
    · rcases List.mem_append.mp rest with inFraction | inExponent
      · rw [fractionBytes] at inFraction
        split at inFraction
        · cases inFraction
        · rcases List.mem_cons.mp inFraction with rfl | isDigit
          · decide
          · exact isNumeric_digits spelling.fractionBelow byte isDigit
      · exact behind.numeric byte inExponent

end NumberSpelling

theorem numberSpelling_scientific {whole power : List Nat} (below : ∀ digit ∈ whole, digit < 10)
    (powerBelow : ∀ digit ∈ power, digit < 10) (nonempty : whole ≠ [] ∧ power ≠ [])
    (leading : whole.head? = some 0 → whole = [0]) :
    NumberSpelling
      { negative := false, whole, fraction := [], exponent := some (ofDigits power : Int) }
      (whole.map digitByte ++ 0x65 :: power.map digitByte) where
  wholeBelow := below
  fractionBelow _ member := absurd member List.not_mem_nil
  nonempty := nonempty.1
  leading := leading
  spelled := ⟨_, .positive (Or.inl rfl) (Or.inl rfl) powerBelow nonempty.2, rfl⟩

/-! ## Strings -/

inductive HexDigit : Nat → UInt8 → Prop where
  | decimal {value : Nat} (below : value < 10) : HexDigit value (UInt8.ofNat (0x30 + value))
  | lower {value : Nat} (above : 10 ≤ value) (below : value < 16) :
      HexDigit value (UInt8.ofNat (0x57 + value))
  | upper {value : Nat} (above : 10 ≤ value) (below : value < 16) :
      HexDigit value (UInt8.ofNat (0x37 + value))

def escapeLetters : List (UInt8 × UInt8) :=
  [(0x22, 0x22), (0x5c, 0x5c), (0x2f, 0x2f), (0x62, 0x08), (0x66, 0x0c), (0x6e, 0x0a),
    (0x72, 0x0d), (0x74, 0x09)]

inductive PieceSpelling : Piece → Bytes → Prop where
  | plain {byte : UInt8} (isPlain : IsPlain byte) : PieceSpelling (.byte byte) [byte]
  | letter {letter value : UInt8} (listed : (letter, value) ∈ escapeLetters) :
      PieceSpelling (.byte value) [0x5c, letter]
  | unit {first second third last : Nat} {high upper lower low : UInt8}
      (isHigh : HexDigit first high) (isUpper : HexDigit second upper)
      (isLower : HexDigit third lower) (isLow : HexDigit last low) :
      PieceSpelling (.unit (4096 * first + 256 * second + 16 * third + last))
        [0x5c, 0x75, high, upper, lower, low]

/-- What stands between the quotes, whether it spells a text or not. -/
inductive RawSpelling : RawText → Bytes → Prop where
  | nil : RawSpelling [] []
  | cons {piece : Piece} {first : Bytes} {raw : RawText} {rest : Bytes}
      (spelling : PieceSpelling piece first) (later : RawSpelling raw rest) :
      RawSpelling (piece :: raw) (first ++ rest)

def quoted (inside : Bytes) : Bytes := [0x22] ++ (inside ++ [0x22])

theorem HexDigit.hexValue?_eq {value : Nat} {byte : UInt8} (digit : HexDigit value byte) :
    hexValue? byte = some value := by
  cases digit with
  | decimal below => interval_cases value <;> rfl
  | lower above below => interval_cases value <;> rfl
  | upper above below => interval_cases value <;> rfl

theorem PieceSpelling.run_eq {piece : Piece} {bytes : Bytes} (spelling : PieceSpelling piece bytes)
    (read : RawText) (found : List Token) :
    Scanner.run ⟨.string read, found⟩ bytes = some ⟨.string (piece :: read), found⟩ := by
  cases spelling with
  | plain isPlain =>
      refine run_plain (fun byte member => ?_) read found
      obtain rfl := List.mem_singleton.mp member
      exact isPlain
  | letter listed =>
      simp only [escapeLetters, List.mem_cons, Prod.mk.injEq, List.not_mem_nil, or_false] at listed
      rcases listed with ⟨rfl, rfl⟩ | ⟨rfl, rfl⟩ | ⟨rfl, rfl⟩ | ⟨rfl, rfl⟩ | ⟨rfl, rfl⟩ |
        ⟨rfl, rfl⟩ | ⟨rfl, rfl⟩ | ⟨rfl, rfl⟩ <;> rfl
  | @unit first second third last high upper lower low isHigh isUpper isLower isLow =>
      have begun : Scanner.run ⟨.string read, found⟩ [0x5c, 0x75] =
          some ⟨.codeUnit 4 0 read, found⟩ := rfl
      have together : 16 * (16 * (16 * (16 * 0 + first) + second) + third) + last =
          4096 * first + 256 * second + 16 * third + last := by omega
      have parts : [0x5c, 0x75, high, upper, lower, low] =
          [0x5c, 0x75] ++ [high, upper, lower, low] := rfl
      rw [parts, Scanner.run_append, begun]
      simp [Scanner.run, Scanner.step, isHigh.hexValue?_eq, isUpper.hexValue?_eq,
        isLower.hexValue?_eq, isLow.hexValue?_eq]
      omega

theorem RawSpelling.run_eq {raw : RawText} {bytes : Bytes} (spelling : RawSpelling raw bytes)
    (read : RawText) (found : List Token) :
    Scanner.run ⟨.string read, found⟩ bytes = some ⟨.string (raw.reverse ++ read), found⟩ := by
  induction spelling generalizing read with
  | nil => rfl
  | cons spelling later inductionHypothesis =>
      rw [Scanner.run_append, spelling.run_eq, Option.bind_some, inductionHypothesis,
        List.reverse_cons, List.append_assoc]
      rfl

theorem RawSpelling.closes {raw : RawText} {inside : Bytes} (spelling : RawSpelling raw inside) :
    Closes (quoted inside) [.string raw] :=
  closes_string spelling.run_eq

/-! ## White space -/

def Blank (bytes : Bytes) : Prop := ∀ byte ∈ bytes, byte ∈ ([0x20, 0x09, 0x0a, 0x0d] : Bytes)

theorem begin?_blank {byte : UInt8} (blank : byte ∈ ([0x20, 0x09, 0x0a, 0x0d] : Bytes))
    (found : List Token) :
    Scanner.begin? found byte = some ⟨.between, found⟩ ∧ isNumeric byte = false := by
  simp only [List.mem_cons, List.not_mem_nil, or_false] at blank
  rcases blank with rfl | rfl | rfl | rfl <;> exact ⟨rfl, rfl⟩

theorem Blank.closes {bytes : Bytes} (blank : Blank bytes) : Closes bytes [] := by
  intro found
  induction bytes with
  | nil => rfl
  | cons byte rest inductionHypothesis =>
      have stepped : Scanner.step ⟨.between, found⟩ byte = some ⟨.between, found⟩ :=
        (begin?_blank (blank byte List.mem_cons_self) found).1
      rw [Scanner.run, List.foldlM_cons, stepped]
      exact inductionHypothesis fun other member => blank other (List.mem_cons_of_mem byte member)

/-- White space on both sides of some tokens makes no difference. -/
theorem Spells.padded {bytes : Bytes} {tokens : List Token} (spells : Spells bytes tokens)
    {before behind : Bytes} (blankBefore : Blank before) (blankBehind : Blank behind) :
    Spells (before ++ (bytes ++ behind)) tokens := by
  refine blankBefore.closes.append_spells ?_
  cases behind with
  | nil =>
      rw [List.append_nil]
      exact spells
  | cons byte rest =>
      have other := (begin?_blank (blankBehind byte List.mem_cons_self) []).2
      have closes := spells.append_closes blankBehind.closes (parted_cons other rest)
      rw [List.append_nil] at closes
      exact closes.spells

theorem Closes.padded {bytes : Bytes} {tokens : List Token} (closes : Closes bytes tokens)
    {before behind : Bytes} (blankBefore : Blank before) (blankBehind : Blank behind) :
    Closes (before ++ (bytes ++ behind)) tokens := by
  have padded := blankBefore.closes.append (closes.append blankBehind.closes)
  rw [List.append_nil] at padded
  exact padded

/-! ## Values -/

structure MemberText where
  before : Bytes
  name : Bytes
  raw : RawText
  behind : Bytes
  value : Bytes
  json : Json

namespace MemberText

def bytes (member : MemberText) : Bytes :=
  (member.before ++ (quoted member.name ++ member.behind)) ++ ([0x3a] ++ member.value)

structure Named (member : MemberText) : Prop where
  blankBefore : Blank member.before
  blankBehind : Blank member.behind
  spelled : RawSpelling member.raw member.name

end MemberText

/-- The bytes spell the value. -/
inductive Spelling : Json → Bytes → Prop where
  | null : Spelling .null (Bytes.ofText "null")
  | boolean (value : Bool) :
      Spelling (.boolean value) (Bytes.ofText (if value then "true" else "false"))
  | number {literal : NumberLiteral} {bytes : Bytes} (spelled : NumberSpelling literal bytes) :
      Spelling (.number literal) bytes
  | string {raw : RawText} {inside : Bytes} (spelled : RawSpelling raw inside) :
      Spelling (.string raw) (quoted inside)
  | emptyArray {inside : Bytes} (blank : Blank inside) :
      Spelling (.array []) ([0x5b] ++ (inside ++ [0x5d]))
  | array {items : List (Bytes × Json)} (spelled : ∀ item ∈ items, Spelling item.2 item.1) :
      Spelling (.array (items.map Prod.snd))
        ([0x5b] ++ ([0x2c].intercalate (items.map Prod.fst) ++ [0x5d]))
  | emptyObject {inside : Bytes} (blank : Blank inside) :
      Spelling (.object []) ([0x7b] ++ (inside ++ [0x7d]))
  | object {members : List MemberText} (named : ∀ member ∈ members, member.Named)
      (spelled : ∀ member ∈ members, Spelling member.json member.value) :
      Spelling (.object (members.map fun member => (member.raw, member.json)))
        ([0x7b] ++ ([0x2c].intercalate (members.map MemberText.bytes) ++ [0x7d]))
  | padded {json : Json} {before bytes behind : Bytes} (blankBefore : Blank before)
      (blankBehind : Blank behind) (spelled : Spelling json bytes) :
      Spelling json (before ++ (bytes ++ behind))

theorem Brackets.sequence_eq {α : Type} (brackets : Brackets α) (items : List Bytes) :
    brackets.sequence items =
      [brackets.openByte] ++ ([0x2c].intercalate items ++ [brackets.closeByte]) := by
  have joined : ∀ (first : Bytes) (rest : List Bytes),
      [0x2c].intercalate (first :: rest) = first ++ rest.flatMap (0x2c :: ·) := by
    intro first rest
    induction rest generalizing first with
    | nil => simp
    | cons next others inductionHypothesis =>
        rw [List.intercalate_cons_cons, inductionHypothesis]
        simp
  cases items with
  | nil => rfl
  | cons first rest => simp [sequence, tail, joined]

theorem Spelling.renders {json : Json} {bytes : Bytes} (spelling : Spelling json bytes) :
    Renders bytes json := by
  induction spelling with
  | null => exact renders_null
  | boolean value => exact renders_boolean value
  | number spelled => exact spelled.renders
  | string spelled => exact renders_token spelled.closes.spells fun _ => rfl
  | emptyArray blank => exact Brackets.array.renders_empty blank.closes
  | @array items spelled inductionHypothesis =>
      have sequence := Brackets.array.renders_sequence fun item member =>
        (inductionHypothesis item member).element
      rw [Brackets.sequence_eq] at sequence
      exact sequence
  | emptyObject blank => exact Brackets.object.renders_empty blank.closes
  | @object members named spelled inductionHypothesis =>
      have pairs : ∀ pair ∈ members.map fun member => (member.bytes, (member.raw, member.json)),
          Brackets.object.Renders pair.1 pair.2 := by
        intro pair isPair
        obtain ⟨member, isMember, rfl⟩ := List.mem_map.mp isPair
        have isNamed := named member isMember
        exact (inductionHypothesis member isMember).member
          (isNamed.spelled.closes.padded isNamed.blankBefore isNamed.blankBehind)
      have sequence := Brackets.object.renders_sequence pairs
      rw [List.map_map, List.map_map, Brackets.sequence_eq] at sequence
      exact sequence
  | padded blankBefore blankBehind spelled inductionHypothesis =>
      obtain ⟨tokens, spells, builds⟩ := inductionHypothesis
      exact ⟨tokens, spells.padded blankBefore blankBehind, builds⟩

/-- Bytes that spell a value are read as the value. -/
theorem parse?_spelling {json : Json} {bytes : Bytes} (spelling : Spelling json bytes) :
    parse? bytes = some json :=
  spelling.renders.parse_eq

end RowStream.Json
