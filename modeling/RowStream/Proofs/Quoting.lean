import Mathlib.Tactic.IntervalCases
import RowStream.Json.Text
import RowStream.Proofs.Scanning

/-!
# Quoted text reads back

A text that is written with `quote` is scanned as one string token, and the token spells the text
again.  Character by character, an escape is read as the bytes of its character or as its code
unit, and a character that stands for itself has bytes that mean nothing to the scanner.
-/

set_option autoImplicit false

namespace RowStream.Json

open Scanner (hexValue?)

def pieces (char : Char) : RawText :=
  if char.toNat < 0x20 ∧ char ∉ ['\x08', '\t', '\n', '\x0c', '\r'] then [.unit char.toNat]
  else (String.utf8EncodeChar char).map .byte

/-! ## Scanning -/

/-- A byte that stands for itself between quotes. -/
def IsPlain (byte : UInt8) : Prop := 0x20 ≤ byte ∧ byte ≠ 0x22 ∧ byte ≠ 0x5c

theorem run_plain {bytes : Bytes} (plain : ∀ byte ∈ bytes, IsPlain byte) (read : RawText)
    (found : List Token) :
    Scanner.run ⟨.string read, found⟩ bytes =
      some ⟨.string ((bytes.map .byte).reverse ++ read), found⟩ := by
  induction bytes generalizing read with
  | nil => rfl
  | cons byte rest inductionHypothesis =>
      obtain ⟨printable, notQuote, notBackslash⟩ := plain byte List.mem_cons_self
      have stepped : Scanner.step ⟨.string read, found⟩ byte =
          some ⟨.string (.byte byte :: read), found⟩ := by
        simp [Scanner.step, notQuote, notBackslash, UInt8.not_lt.mpr printable]
      have later := inductionHypothesis
        (fun other member => plain other (List.mem_cons_of_mem byte member)) (.byte byte :: read)
      rw [Scanner.run, List.foldlM_cons, stepped]
      change Scanner.run ⟨.string (.byte byte :: read), found⟩ rest = _
      rw [later]
      simp

theorem isPlain_of_unescaped {char : Char} (printable : 0x20 ≤ char.toNat) (notQuote : char ≠ '"')
    (notBackslash : char ≠ '\\') : ∀ byte ∈ String.utf8EncodeChar char, IsPlain byte := by
  intro byte member
  rcases Bytes.of_mem_utf8EncodeChar member with ⟨rfl, ascii⟩ | large
  · refine ⟨?_, fun same => notQuote ?_, fun same => notBackslash ?_⟩
    · rw [UInt8.le_iff_toNat_le, UInt8.toNat_ofNat_of_lt' (Nat.lt_trans ascii (by decide))]
      exact printable
    · exact (Bytes.ofNat_toNat_inj ascii (by decide)).mp same
    · exact (Bytes.ofNat_toNat_inj ascii (by decide)).mp same
  · refine ⟨UInt8.le_trans (by decide) large, ?_, ?_⟩
    · rintro rfl
      exact absurd large (by decide)
    · rintro rfl
      exact absurd large (by decide)

theorem hexDigit_spec : ∀ value < 16, ∃ byte,
    String.utf8EncodeChar (hexDigit value) = [byte] ∧ hexValue? byte = some value ∧
      0x20 ≤ byte := by
  intro value below
  interval_cases value <;> exact ⟨_, rfl, by decide, by decide⟩

/-- One written character: its bytes are printable, and the scanner reads them as its pieces. -/
theorem escape_spec (char : Char) :
    Printable ((escape char).flatMap String.utf8EncodeChar) ∧ ∀ read found,
      Scanner.run ⟨.string read, found⟩ ((escape char).flatMap String.utf8EncodeChar) =
        some ⟨.string ((pieces char).reverse ++ read), found⟩ := by
  by_cases lettered : char ∈ ['"', '\\', '\x08', '\t', '\n', '\x0c', '\r']
  · simp only [List.mem_cons, List.not_mem_nil, or_false] at lettered
    rcases lettered with rfl | rfl | rfl | rfl | rfl | rfl | rfl <;>
      exact ⟨printable_of_all rfl, fun _ _ => rfl⟩
  · simp only [List.mem_cons, List.not_mem_nil, or_false, not_or] at lettered
    obtain ⟨notQuote, notBackslash, notBackspace, notTab, notLineFeed, notFormFeed, notReturn⟩ :=
      lettered
    by_cases control : char.toNat < 0x20
    · obtain ⟨high, high_eq, high_value, highPrintable⟩ :=
        hexDigit_spec (char.toNat / 16) (by omega)
      obtain ⟨low, low_eq, low_value, lowPrintable⟩ :=
        hexDigit_spec (char.toNat % 16) (by omega)
      have escape_eq : (escape char).flatMap String.utf8EncodeChar =
          [0x5c, 0x75, 0x30, 0x30, high, low] := by
        simp only [escape, notQuote, notBackslash, notBackspace, notTab, notLineFeed, notFormFeed,
          notReturn, control, if_false, if_true, List.flatMap_cons, high_eq, low_eq]
        rfl
      have pieces_eq : pieces char = [.unit char.toNat] :=
        if_pos ⟨control, by simp [notBackspace, notTab, notLineFeed, notFormFeed, notReturn]⟩
      have together : 16 * (16 * (16 * (16 * 0 + 0) + 0) + char.toNat / 16) + char.toNat % 16 =
          char.toNat := by omega
      rw [escape_eq, pieces_eq]
      refine ⟨?_, fun read found => ?_⟩
      · intro byte member
        simp only [List.mem_cons, List.not_mem_nil, or_false] at member
        rcases member with rfl | rfl | rfl | rfl | rfl | rfl <;>
          first | exact highPrintable | exact lowPrintable | decide
      · have begun : Scanner.run ⟨.string read, found⟩ [0x5c, 0x75, 0x30, 0x30] =
            some ⟨.codeUnit 2 0 read, found⟩ := rfl
        have split : [0x5c, 0x75, 0x30, 0x30, high, low] =
            [0x5c, 0x75, 0x30, 0x30] ++ [high, low] := rfl
        rw [split, Scanner.run_append, begun]
        simp only [Option.bind_some, Scanner.run, List.foldlM_cons, List.foldlM_nil, Scanner.step,
          high_value, low_value, Option.map_some]
        simp
        omega
    · have pieces_eq : pieces char = (String.utf8EncodeChar char).map .byte :=
        if_neg fun both => control both.1
      have escape_eq : escape char = [char] := by
        simp only [escape, notQuote, notBackslash, notBackspace, notTab, notLineFeed, notFormFeed,
          notReturn, control, if_false]
      have plain := isPlain_of_unescaped (Nat.le_of_not_lt control) notQuote notBackslash
      rw [escape_eq, pieces_eq, List.flatMap_singleton]
      exact ⟨fun byte member => (plain byte member).1, fun read found => run_plain plain read found⟩

/-! ## Reading the pieces -/

/-- A character in a string: its bytes, its code unit, or the two surrogates that stand for it. -/
inductive CharSpelling : Char → RawText → Prop where
  | bytes (char : Char) : CharSpelling char ((String.utf8EncodeChar char).map .byte)
  | unit {char : Char} (basic : char.toNat < 0x10000) : CharSpelling char [.unit char.toNat]
  | pair {char : Char} (beyond : 0x10000 ≤ char.toNat) :
      CharSpelling char [.unit (0xd800 + (char.toNat - 0x10000) / 1024),
        .unit (0xdc00 + (char.toNat - 0x10000) % 1024)]

inductive TextSpelling : List Char → RawText → Prop where
  | nil : TextSpelling [] []
  | cons {char : Char} {first : RawText} {chars : List Char} {rest : RawText}
      (spelling : CharSpelling char first) (later : TextSpelling chars rest) :
      TextSpelling (char :: chars) (first ++ rest)

namespace RawText

theorem appendBytes?_bytes (bytes reversed : Bytes) (rest : RawText) :
    appendBytes? reversed (bytes.map .byte ++ rest) =
      appendBytes? (bytes.reverse ++ reversed) rest := by
  induction bytes generalizing reversed with
  | nil => rfl
  | cons byte later inductionHypothesis =>
      rw [List.map_cons, List.cons_append, appendBytes?, inductionHypothesis]
      simp

theorem appendBytes?_unit {unit : Nat} (alone : unit < 0xd800 ∨ 0xe000 ≤ unit) (reversed : Bytes)
    (rest : RawText) :
    appendBytes? reversed (.unit unit :: rest) =
      appendBytes? ((encodeCodePoint unit).reverse ++ reversed) rest := by
  have notHigh : isHighSurrogate unit = false := by
    simp only [isHighSurrogate, Bool.and_eq_false_iff, decide_eq_false_iff_not]
    omega
  have notLow : isLowSurrogate unit = false := by
    simp only [isLowSurrogate, Bool.and_eq_false_iff, decide_eq_false_iff_not]
    omega
  rcases rest with _ | ⟨piece, later⟩
  · simp [appendBytes?, notHigh, notLow]
  · cases piece <;> simp [appendBytes?, notHigh, notLow]

theorem appendBytes?_pair {high low : Nat} (isHigh : 0xd800 ≤ high ∧ high < 0xdc00)
    (isLow : 0xdc00 ≤ low ∧ low < 0xe000) (reversed : Bytes) (rest : RawText) :
    appendBytes? reversed (.unit high :: .unit low :: rest) =
      appendBytes? ((encodeCodePoint (joinSurrogates high low)).reverse ++ reversed) rest := by
  have highFound : isHighSurrogate high = true := by
    simpa [isHighSurrogate] using isHigh
  have lowFound : isLowSurrogate low = true := by
    simpa [isLowSurrogate] using isLow
  rw [appendBytes?, if_pos highFound, if_pos lowFound]

theorem encodeCodePoint_toNat (char : Char) :
    encodeCodePoint char.toNat = String.utf8EncodeChar char := by
  rw [encodeCodePoint, Char.ofNat_toNat, String.singleton_eq_ofList, Bytes.ofText_ofList,
    List.flatMap_singleton]

theorem appendBytes?_char {char : Char} {raw : RawText} (spelling : CharSpelling char raw)
    (reversed : Bytes) (rest : RawText) :
    appendBytes? reversed (raw ++ rest) =
      appendBytes? ((String.utf8EncodeChar char).reverse ++ reversed) rest := by
  have scalar : char.toNat < 0xd800 ∨ (0xdfff < char.toNat ∧ char.toNat < 0x110000) := char.valid
  cases spelling with
  | bytes => exact appendBytes?_bytes _ reversed rest
  | unit basic =>
      rw [List.singleton_append, appendBytes?_unit (by omega), encodeCodePoint_toNat]
  | pair beyond =>
      have joined : joinSurrogates (0xd800 + (char.toNat - 0x10000) / 1024)
          (0xdc00 + (char.toNat - 0x10000) % 1024) = char.toNat := by
        unfold joinSurrogates
        omega
      rw [List.cons_append, List.cons_append, List.nil_append,
        appendBytes?_pair (by omega) (by omega), joined, encodeCodePoint_toNat]

theorem appendBytes?_text {chars : List Char} {raw : RawText} (spelling : TextSpelling chars raw)
    (reversed : Bytes) :
    appendBytes? reversed raw =
      some ((chars.flatMap String.utf8EncodeChar).reverse ++ reversed) := by
  induction spelling generalizing reversed with
  | nil => rfl
  | cons spelling later inductionHypothesis =>
      rw [appendBytes?_char spelling, inductionHypothesis, List.flatMap_cons, List.reverse_append,
        List.append_assoc]

theorem toText?_spelling {chars : List Char} {raw : RawText} (spelling : TextSpelling chars raw) :
    toText? raw = some (String.ofList chars) := by
  rw [toText?, appendBytes?_text spelling, Option.bind_some, List.append_nil, List.reverse_reverse,
    ← Bytes.ofText_ofList, Bytes.toText?_ofText]

end RawText

theorem charSpelling_pieces (char : Char) : CharSpelling char (pieces char) := by
  rw [pieces]
  split
  · rename_i control
    exact .unit (control.1.trans (by decide))
  · exact .bytes char

theorem textSpelling_pieces (chars : List Char) : TextSpelling chars (chars.flatMap pieces) := by
  induction chars with
  | nil => exact .nil
  | cons char rest inductionHypothesis => exact .cons (charSpelling_pieces char) inductionHypothesis

theorem RawText.toText?_pieces (text : String) :
    toText? (text.toList.flatMap pieces) = some text := by
  rw [toText?_spelling (textSpelling_pieces text.toList), String.ofList_toList]

/-! ## Whole strings -/

theorem ofText_quote (text : String) :
    Bytes.ofText (quote text) =
      [0x22] ++ ((text.toList.flatMap escape).flatMap String.utf8EncodeChar ++ [0x22]) := by
  rw [quote, Bytes.ofText_ofList, List.flatMap_cons, List.flatMap_append]
  rfl

theorem printable_quote (text : String) : Printable (Bytes.ofText (quote text)) := by
  rw [ofText_quote]
  refine Printable.append (printable_of_all rfl)
    (Printable.append ?_ (printable_of_all rfl))
  intro byte member
  obtain ⟨char, _, inEscape⟩ := List.mem_flatMap.mp (List.flatMap_assoc ▸ member)
  exact (escape_spec char).1 byte inEscape

theorem run_escaped (chars : List Char) (read : RawText) (found : List Token) :
    Scanner.run ⟨.string read, found⟩ ((chars.flatMap escape).flatMap String.utf8EncodeChar) =
      some ⟨.string ((chars.flatMap pieces).reverse ++ read), found⟩ := by
  induction chars generalizing read with
  | nil => rfl
  | cons char rest inductionHypothesis =>
      rw [List.flatMap_cons, List.flatMap_append, Scanner.run_append, (escape_spec char).2,
        Option.bind_some, inductionHypothesis, List.flatMap_cons, List.reverse_append,
        List.append_assoc]

/-- What is read as these pieces behind a quote is, with a quote behind it, one string token. -/
theorem closes_string {bytes : Bytes} {raw : RawText}
    (runs : ∀ read found, Scanner.run ⟨.string read, found⟩ bytes =
      some ⟨.string (raw.reverse ++ read), found⟩) :
    Closes ([0x22] ++ (bytes ++ [0x22])) [.string raw] := by
  intro found
  have opened : Scanner.run ⟨.between, found⟩ [0x22] = some ⟨.string [], found⟩ := rfl
  have closed : ∀ read, Scanner.run ⟨.string read, found⟩ [0x22] =
      some ⟨.between, .string read.reverse :: found⟩ := fun _ => rfl
  rw [Scanner.run_append, opened, Option.bind_some, Scanner.run_append, runs, Option.bind_some,
    closed, List.append_nil, List.reverse_reverse]
  rfl

theorem closes_quote (text : String) :
    Closes (Bytes.ofText (quote text)) [.string (text.toList.flatMap pieces)] := by
  rw [ofText_quote]
  exact closes_string (run_escaped text.toList)

theorem writes_quote (text : String) :
    Writes (Bytes.ofText (quote text)) (.string (text.toList.flatMap pieces)) :=
  writes_token (printable_quote text) (closes_quote text).spells fun _ => rfl

end RowStream.Json
