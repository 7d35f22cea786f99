import RowStream.Proofs.Grammar
import RowStream.Proofs.Magnitude
import RowStream.Record

/-!
# Rows of values

A row is an array, and every value in it becomes a cell that depends on nothing else
(`Row.reads_spelling`).  A value that is nested in a cell is passed over, so that nothing in it can
fail: not its strings, which may spell no text, and not its numbers, which may be too large.
-/

set_option autoImplicit false

namespace RowStream

open Json (NumberLiteral Spelling TextSpelling)

/-- A double can hold the number: it keeps clear of the largest one by a few units of its last bit,
or no infinity comes up where it is calculated. -/
def Json.NumberLiteral.InRange (literal : NumberLiteral) : Prop :=
  literal.magnitude ≤ 2 ^ 1024 - 2 ^ 974 ∨ (Json.Number.readDouble? literal).isSome

theorem Json.Number.exists_ofLiteral? {literal : NumberLiteral} (inRange : literal.InRange) :
    ∃ number, ofLiteral? literal = some number := by
  have asDouble : ∃ number, (readDouble? literal).map Number.double = some number := by
    have readable : (readDouble? literal).isSome := inRange.elim Decimal.isSome_readDouble? id
    obtain ⟨value, value_eq⟩ := Option.isSome_iff_exists.mp readable
    exact ⟨.double value, by rw [value_eq]; rfl⟩
  simp only [ofLiteral?]
  split
  · exact asDouble
  · split
    · exact ⟨_, rfl⟩
    · split
      · exact ⟨_, rfl⟩
      · exact asDouble

namespace Cell

/-- What a cell needs of a value: a text where text is wanted, and a number that a double holds.
Nothing is asked of what is nested. -/
def Admits : Json → Prop
  | .number literal => literal.InRange
  | .string raw => ∃ chars, TextSpelling chars raw
  | .object members => ∀ member ∈ members, ∃ chars, TextSpelling chars member.1
  | .null | .boolean _ | .array _ => True

/-- The cell that a value becomes. -/
inductive Shows : Json → Cell → Prop where
  | null : Shows .null .null
  | boolean (value : Bool) : Shows (.boolean value) (.boolean value)
  | integer (literal : NumberLiteral) (value : Int64) : Shows (.number literal) (.integer value)
  | float (literal : NumberLiteral) (value : Float) : Shows (.number literal) (.float value)
  | text {chars : List Char} {raw : Json.RawText} (spelling : TextSpelling chars raw) :
      Shows (.string raw) (.text (String.ofList chars))
  | array (items : List Json) : Shows (.array items) (.text "")
  | object (members : List (Json.RawText × Json)) : Shows (.object members) (.text "")

theorem shows_ofFloat (literal : NumberLiteral) (value : Float) :
    Shows (.number literal) (ofFloat value) := by
  unfold ofFloat
  split
  · split
    · exact .integer literal _
    · exact .float literal value
  · exact .float literal value

theorem shows_ofNumber (literal : NumberLiteral) (number : Json.Number) :
    Shows (.number literal) (ofNumber number) := by
  cases number with
  | natural value =>
      rw [ofNumber]
      split
      · exact .integer literal _
      · exact .float literal _
  | negative value => exact .integer literal value
  | double value => exact shows_ofFloat literal value

theorem exists_shows {json : Json} (admits : Admits json) :
    ∃ cell, ofJson? json = some cell ∧ Shows json cell := by
  cases json with
  | null => exact ⟨.null, rfl, .null⟩
  | boolean value => exact ⟨.boolean value, rfl, .boolean value⟩
  | number literal =>
      obtain ⟨number, denotes⟩ := Json.Number.exists_ofLiteral? admits
      refine ⟨ofNumber number, ?_, shows_ofNumber literal number⟩
      rw [ofJson?, denotes, Option.map_some]
  | string raw =>
      obtain ⟨chars, spelling⟩ := admits
      refine ⟨.text (String.ofList chars), ?_, .text spelling⟩
      rw [ofJson?, Json.RawText.toText?_spelling spelling, Option.map_some]
  | array items => exact ⟨.text "", rfl, .array items⟩
  | object members =>
      have named : members.all (·.1.toText?.isSome) = true := by
        rw [List.all_eq_true]
        intro member isMember
        obtain ⟨chars, spelling⟩ := admits member isMember
        rw [Json.RawText.toText?_spelling spelling]
        rfl
      exact ⟨.text "", if_pos named, .object members⟩

end Cell

namespace Row

theorem exists_cells {values : List Json} (admits : ∀ value ∈ values, Cell.Admits value) :
    ∃ row, values.mapM Cell.ofJson? = some row ∧ values.map Cell.ofJson? = row.map some ∧
      List.Forall₂ Cell.Shows values row := by
  induction values with
  | nil => exact ⟨[], rfl, rfl, .nil⟩
  | cons value rest inductionHypothesis =>
      obtain ⟨cell, read, shows_⟩ := Cell.exists_shows (admits value List.mem_cons_self)
      obtain ⟨row, rest_eq, each, shown⟩ :=
        inductionHypothesis fun other member => admits other (List.mem_cons_of_mem value member)
      refine ⟨cell :: row, ?_, ?_, .cons shows_ shown⟩
      · rw [List.mapM_cons, read, rest_eq]
        rfl
      · rw [List.map_cons, List.map_cons, read, each]

/-- However its values are written and nested, a row is read cell by cell. -/
theorem reads_spelling {values : List Json} {bytes : Bytes}
    (spelling : Spelling (.array values) bytes) (admits : ∀ value ∈ values, Cell.Admits value) :
    ∃ row, (Json.parse? bytes).bind Row.ofJson? = some row ∧
      values.map Cell.ofJson? = row.map some ∧ List.Forall₂ Cell.Shows values row := by
  obtain ⟨row, read, each, shown⟩ := exists_cells admits
  refine ⟨row, ?_, each, shown⟩
  rw [Json.parse?_spelling spelling]
  exact read

theorem reads_spelling_behind :
    let text := Bytes.ofText "[[\"]\\ud800\",1e999]\n,\t\"]\\u0062\" ,7]"
    ∃ values, Spelling (.array values) text ∧ (∀ value ∈ values, Cell.Admits value) ∧
      (Json.parse? text).bind Row.ofJson? = some [.text "", .text "]b", .integer 7] := by
  intro text
  let large : NumberLiteral :=
    { negative := false, whole := [1], fraction := [], exponent := some (Json.ofDigits [9, 9, 9]) }
  let seven : NumberLiteral :=
    { negative := false, whole := [7], fraction := [], exponent := none }
  let lone : Json := .string [.byte 0x5d, .unit 0xd800]
  let plain : Json := .string [.byte 0x5d, .unit 0x62]
  have isLarge : Spelling (.number large) (Bytes.ofText "1e999") :=
    .number (Json.numberSpelling_scientific (by decide) (by decide) (by decide) (by decide))
  have isSeven : Spelling (.number seven) (Bytes.ofText "7") :=
    .number
      { wholeBelow := by decide, fractionBelow := by decide, nonempty := by decide
        leading := by decide, spelled := ⟨[], .absent, rfl⟩ }
  have bracket : Json.PieceSpelling (.byte 0x5d) [0x5d] :=
    .plain ⟨by decide, by decide, by decide⟩
  have zero : Json.HexDigit 0 0x30 := .decimal (by decide)
  have two : Json.HexDigit 2 0x32 := .decimal (by decide)
  have six : Json.HexDigit 6 0x36 := .decimal (by decide)
  have eight : Json.HexDigit 8 0x38 := .decimal (by decide)
  have thirteen : Json.HexDigit 13 0x64 := .lower (by decide) (by decide)
  have isLone : Spelling lone (Bytes.ofText "\"]\\ud800\"") :=
    .string (.cons bracket (.cons (.unit thirteen eight zero zero) .nil))
  have isPlain : Spelling plain (Bytes.ofText "\"]\\u0062\"") :=
    .string (.cons bracket (.cons (.unit zero zero six two) .nil))
  have nested : Spelling (.array [lone, .number large]) (Bytes.ofText "[\"]\\ud800\",1e999]") := by
    have spelled : ∀ item ∈ [(Bytes.ofText "\"]\\ud800\"", lone),
        (Bytes.ofText "1e999", .number large)], Spelling item.2 item.1 := by
      simp only [List.forall_mem_cons, List.not_mem_nil, false_implies, implies_true, and_true]
      exact ⟨isLone, isLarge⟩
    exact .array spelled
  have blank : ∀ byte ∈ ([0x20, 0x09, 0x0a, 0x0d] : Bytes), Json.Blank [byte] := by
    intro byte member other isOther
    rw [List.mem_singleton.mp isOther]
    exact member
  have nothing : Json.Blank [] := fun byte member => absurd member List.not_mem_nil
  have spelling : Spelling (.array [.array [lone, .number large], plain, .number seven]) text := by
    have spelled : ∀ item ∈ [(Bytes.ofText "[\"]\\ud800\",1e999]\n",
        Json.array [lone, .number large]), (Bytes.ofText "\t\"]\\u0062\" ", plain),
        (Bytes.ofText "7", .number seven)], Spelling item.2 item.1 := by
      simp only [List.forall_mem_cons, List.not_mem_nil, false_implies, implies_true, and_true]
      exact ⟨.padded nothing (blank 0x0a (by decide)) nested,
        .padded (blank 0x09 (by decide)) (blank 0x20 (by decide)) isPlain, isSeven⟩
    exact .array spelled
  have inRange : seven.InRange := by
    have magnitude_eq : seven.magnitude = (7 : Nat) := by
      simp [seven, NumberLiteral.magnitude, Json.ofDigits]
    have clear : 7 ≤ Decimal.clearance := by decide +kernel
    rw [NumberLiteral.InRange, ← Decimal.cast_clearance, magnitude_eq]
    exact Or.inl (Nat.cast_le.mpr clear)
  have admits : ∀ value ∈ [.array [lone, .number large], plain, .number seven],
      Cell.Admits value := by
    simp only [List.forall_mem_cons, List.not_mem_nil, false_implies, implies_true, and_true]
    exact ⟨trivial, ⟨[']', 'b'], .cons (.bytes ']') (.cons (.unit (by decide)) .nil)⟩, inRange⟩
  obtain ⟨row, read, each, -⟩ := reads_spelling spelling admits
  have row_eq : row = [.text "", .text "]b", .integer 7] :=
    List.map_injective_iff.mpr (Option.some_injective Cell) each.symm
  exact ⟨_, spelling, admits, row_eq ▸ read⟩

/-- A literal that is no larger than the largest double may still be refused: its significand and
its power of ten are both rounded upwards. -/
theorem not_reads_largest :
    let text := Bytes.ofText "[1797693134862315708e290]"
    ∃ literal, Spelling (.array [.number literal]) text ∧
      literal.magnitude ≤ (2 ^ 53 - 1) * 2 ^ 971 ∧ (Json.parse? text).bind Row.ofJson? = none := by
  intro text
  let literal : NumberLiteral :=
    { negative := false, whole := [1, 7, 9, 7, 6, 9, 3, 1, 3, 4, 8, 6, 2, 3, 1, 5, 7, 0, 8]
      fraction := [], exponent := some (Json.ofDigits [2, 9, 0]) }
  have isNumber : Spelling (.number literal) (Bytes.ofText "1797693134862315708e290") :=
    .number (Json.numberSpelling_scientific (by decide) (by decide) (by decide) (by decide))
  have spelling : Spelling (.array [.number literal]) text := by
    have spelled : ∀ item ∈ [(Bytes.ofText "1797693134862315708e290", Json.number literal)],
        Spelling item.2 item.1 := by
      simp only [List.forall_mem_cons, List.not_mem_nil, false_implies, implies_true, and_true]
      exact isNumber
    exact .array spelled
  have cast_le : ∀ number power first second : Nat,
      number * 10 ^ power ≤ (2 ^ first - 1) * 2 ^ second →
        (number : ℚ) * 10 ^ (power : Int) ≤ (2 ^ first - 1) * 2 ^ second := by
    intro number power first second le
    have casted : ((number * 10 ^ power : Nat) : ℚ) ≤ ((2 ^ first - 1) * 2 ^ second : Nat) :=
      Nat.cast_le.mpr le
    push_cast [Nat.one_le_two_pow] at casted
    rw [zpow_natCast]
    exact casted
  refine ⟨literal, spelling, ?_, ?_⟩
  · exact cast_le 1797693134862315708 290 53 971 (by decide +kernel)
  · rw [Json.parse?_spelling spelling, Option.bind_some, ← Option.isNone_iff_eq_none]
    decide +kernel

end Row

end RowStream
