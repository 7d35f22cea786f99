import Mathlib.Tactic.IntervalCases
import RowStream.Url.Edit

/-!
# Escaped text reads back

A text that is percent-encoded with a set that holds the percent sign is given back by
`Url.decode` (`decode_encoded`), and no character of the set is left in it
(`not_set_of_mem_encode`).  Form data is read by `formFields`, which undoes `formEncode`
(`formFields_single`): the sign that stands for a blank is never the one that was escaped.
-/

set_option autoImplicit false

namespace RowStream.Url

theorem decode_cons {byte : UInt8} (plain : byte ≠ 0x25) (rest : Bytes) :
    decode (byte :: rest) = byte :: decode rest := by
  rw [decode]
  intro high low behind same
  exact absurd same plain

theorem upperHexDigit_spec : ∀ value < 16, ∃ byte : UInt8,
    String.utf8EncodeChar (upperHexDigit value) = [byte] ∧ hexValue? byte = some value ∧
      byte ≠ 0x2b ∧ (upperHexDigit value).isAlphanum := by
  intro value below
  interval_cases value <;> exact ⟨_, rfl, by decide, by decide, by decide⟩

theorem encodeByte_spec (byte : UInt8) : ∃ high low : UInt8,
    (encodeByte byte).flatMap String.utf8EncodeChar = [0x25, high, low] ∧
      high ≠ 0x2b ∧ low ≠ 0x2b ∧
      ∀ rest, decode (0x25 :: high :: low :: rest) = byte :: decode rest := by
  have small := byte.toNat_lt
  obtain ⟨high, high_eq, highValue, highPlus, _⟩ := upperHexDigit_spec (byte.toNat / 16) (by omega)
  obtain ⟨low, low_eq, lowValue, lowPlus, _⟩ := upperHexDigit_spec (byte.toNat % 16) (by omega)
  refine ⟨high, low, ?_, highPlus, lowPlus, fun rest => ?_⟩
  · simp only [encodeByte, List.flatMap_cons, high_eq, low_eq]
    rfl
  · have together : 16 * (byte.toNat / 16) + byte.toNat % 16 = byte.toNat := by omega
    simp only [decode, highValue, lowValue, together, UInt8.ofNat_toNat]

theorem utf8EncodeChar_ascii {char : Char} (ascii : char.toNat < 0x80) :
    String.utf8EncodeChar char = [UInt8.ofNat char.toNat] := by
  have le : char.val.toNat ≤ 127 := Nat.le_of_lt_succ ascii
  simp only [String.utf8EncodeChar, if_pos le]
  rfl

theorem ofText_singleton (char : Char) :
    Bytes.ofText (String.singleton char) = String.utf8EncodeChar char := by
  rw [String.singleton_eq_ofList, Bytes.ofText_ofList, List.flatMap_singleton]

theorem ofNat_toNat_ne {char : Char} (ascii : char.toNat < 0x80) (other : Char)
    (otherAscii : other.toNat < 0x80) (different : char ≠ other) :
    UInt8.ofNat char.toNat ≠ UInt8.ofNat other.toNat :=
  (Bytes.ofNat_toNat_inj ascii otherAscii).not.mpr different

/-! ## Percent-encoding -/

theorem decode_escaped (bytes : Bytes) (rest : Bytes) :
    decode ((bytes.flatMap encodeByte).flatMap String.utf8EncodeChar ++ rest) =
      bytes ++ decode rest := by
  induction bytes with
  | nil => rfl
  | cons byte others inductionHypothesis =>
      obtain ⟨high, low, written, _, _, reads⟩ := encodeByte_spec byte
      rw [List.flatMap_cons, List.flatMap_append, written, List.append_assoc, List.cons_append,
        List.cons_append, List.cons_append, List.nil_append, reads, inductionHypothesis,
        List.cons_append]

theorem decode_encodeChar {set : EncodeSet} (escapes : set '%') (char : Char) (rest : Bytes) :
    decode ((encodeChar set char).flatMap String.utf8EncodeChar ++ rest) =
      String.utf8EncodeChar char ++ decode rest := by
  rw [encodeChar]
  by_cases kept : (char.toNat < 0x80 && !set char) = true
  · have both : char.toNat < 0x80 ∧ set char = false := by simpa using kept
    have notPercent : char ≠ '%' := by
      rintro rfl
      rw [escapes] at both
      cases both.2
    have plain : UInt8.ofNat char.toNat ≠ 0x25 :=
      ofNat_toNat_ne both.1 '%' (by decide) notPercent
    rw [if_pos kept, List.flatMap_singleton, utf8EncodeChar_ascii both.1]
    exact decode_cons plain rest
  · rw [if_neg kept, decode_escaped, ofText_singleton]

/-- Decoding gives back what was encoded. -/
theorem decode_encoded {set : EncodeSet} (escapes : set '%') (chars : List Char) :
    decode (Bytes.ofText (Parse.encoded set chars)) = Bytes.ofText (String.ofList chars) := by
  rw [Parse.encoded, Bytes.ofText_ofList, Bytes.ofText_ofList]
  induction chars with
  | nil => rfl
  | cons char rest inductionHypothesis =>
      change decode (((encodeChar set char) ++ encode set rest).flatMap _) = _
      rw [List.flatMap_append, decode_encodeChar escapes, inductionHypothesis]
      rfl

/-- What is written for a text: escapes, and those of its characters that need none. -/
theorem of_mem_encode {set : EncodeSet} {chars : List Char} {char : Char}
    (member : char ∈ encode set chars) :
    char = '%' ∨ char.isAlphanum ∨ char ∈ chars ∧ set char = false := by
  obtain ⟨source, inChars, written⟩ := List.mem_flatMap.mp member
  rw [encodeChar] at written
  split at written
  · rename_i kept
    obtain rfl := List.mem_singleton.mp written
    have keeps : set char = false := by simpa using (Bool.and_eq_true_iff.mp kept).2
    exact Or.inr (Or.inr ⟨inChars, keeps⟩)
  · obtain ⟨byte, _, inByte⟩ := List.mem_flatMap.mp written
    have small := byte.toNat_lt
    obtain ⟨_, _, _, _, high⟩ := upperHexDigit_spec (byte.toNat / 16) (by omega)
    obtain ⟨_, _, _, _, low⟩ := upperHexDigit_spec (byte.toNat % 16) (by omega)
    simp only [encodeByte, List.mem_cons, List.not_mem_nil, or_false] at inByte
    rcases inByte with rfl | rfl | rfl
    · exact Or.inl rfl
    · exact Or.inr (Or.inl high)
    · exact Or.inr (Or.inl low)

theorem not_set_of_mem_encode {set : EncodeSet} {chars : List Char} {char : Char}
    (member : char ∈ encode set chars) : char = '%' ∨ char.isAlphanum ∨ set char = false :=
  (of_mem_encode member).imp_right (Or.imp_right And.right)

/-! ## Form data -/

def formDecode (bytes : Bytes) : Bytes :=
  decode (bytes.map fun byte => if byte = 0x2b then 0x20 else byte)

def formFields (query : Bytes) : List (Bytes × Bytes) :=
  (query.splitOn 0x26).map fun field =>
    (formDecode (field.takeWhile (· ≠ 0x3d)), formDecode ((field.dropWhile (· ≠ 0x3d)).drop 1))

def formChar (char : Char) : List Char :=
  if char = ' ' then ['+'] else encodeChar EncodeSet.form char

theorem ofText_formEncode (text : String) :
    Bytes.ofText (formEncode text) =
      (text.toList.flatMap formChar).flatMap String.utf8EncodeChar := Bytes.ofText_ofList _

/-- What form data keeps as it is, and its escapes: ASCII characters without a separator. -/
theorem isPlain_of_mem_encodeChar {char written : Char}
    (member : written ∈ encodeChar EncodeSet.form char) :
    written.toNat < 0x80 ∧ written ≠ '+' ∧ written ≠ '&' ∧ written ≠ '=' := by
  have alphanumeric : written.isAlphanum → written.toNat < 0x80 ∧ written ≠ '+' ∧
      written ≠ '&' ∧ written ≠ '=' := by
    intro isAlphanum
    refine ⟨?_, ?_, ?_, ?_⟩
    · delta Char.isAlphanum Char.isAlpha Char.isUpper Char.isLower Char.isDigit at isAlphanum
      simp only [Bool.or_eq_true, Bool.and_eq_true, decide_eq_true_eq] at isAlphanum
      have largest : 'Z'.val.toNat = 0x5a ∧ 'z'.val.toNat = 0x7a ∧ '9'.val.toNat = 0x39 := by decide
      simp only [Char.toNat, UInt32.le_iff_toNat_le, ge_iff_le] at isAlphanum ⊢
      omega
    all_goals
      rintro rfl
      exact absurd isAlphanum (by decide)
  have listed : written ∈ encode EncodeSet.form [char] := by
    rw [encode, List.flatMap_singleton]
    exact member
  rcases not_set_of_mem_encode listed with rfl | isAlphanum | kept
  · decide
  · exact alphanumeric isAlphanum
  · simp only [EncodeSet.form, Bool.not_eq_false', Bool.or_eq_true] at kept
    rcases kept with isAlphanum | mark
    · exact alphanumeric isAlphanum
    · have among : written ∈ ['*', '-', '.', '_'] := List.contains_iff_mem.mp mark
      simp only [List.mem_cons, List.not_mem_nil, or_false] at among
      rcases among with rfl | rfl | rfl | rfl <;> decide

theorem formChar_spec (char : Char) :
    (∀ byte ∈ (formChar char).flatMap String.utf8EncodeChar, byte ≠ 0x26 ∧ byte ≠ 0x3d) ∧
      ∀ rest, formDecode ((formChar char).flatMap String.utf8EncodeChar ++ rest) =
        String.utf8EncodeChar char ++ formDecode rest := by
  rw [formChar]
  split
  · rename_i isBlank
    rw [isBlank]
    have plain : (0x20 : UInt8) ≠ 0x25 := by decide
    refine ⟨fun byte member => ?_, fun rest => decode_cons plain _⟩
    have isPlus : byte = 0x2b := List.mem_singleton.mp member
    rw [isPlus]
    decide
  · have plain : ∀ byte ∈ (encodeChar EncodeSet.form char).flatMap String.utf8EncodeChar,
        byte ≠ 0x2b ∧ byte ≠ 0x26 ∧ byte ≠ 0x3d := by
      intro byte member
      obtain ⟨written, isWritten, inWritten⟩ := List.mem_flatMap.mp member
      obtain ⟨ascii, notPlus, notAnd, notEqual⟩ := isPlain_of_mem_encodeChar isWritten
      rw [utf8EncodeChar_ascii ascii] at inWritten
      obtain rfl := List.mem_singleton.mp inWritten
      exact ⟨ofNat_toNat_ne ascii '+' (by decide) notPlus,
        ofNat_toNat_ne ascii '&' (by decide) notAnd,
        ofNat_toNat_ne ascii '=' (by decide) notEqual⟩
    refine ⟨fun byte member => (plain byte member).2, fun rest => ?_⟩
    have kept : ((encodeChar EncodeSet.form char).flatMap String.utf8EncodeChar).map
        (fun byte => if byte = 0x2b then 0x20 else byte) =
        (encodeChar EncodeSet.form char).flatMap String.utf8EncodeChar := by
      refine (List.map_congr_left fun byte member => ?_).trans (List.map_id _)
      exact if_neg (plain byte member).1
    rw [formDecode, List.map_append, kept]
    exact decode_encodeChar (by decide) char _

theorem formDecode_formEncode (text : String) :
    formDecode (Bytes.ofText (formEncode text)) = Bytes.ofText text := by
  rw [ofText_formEncode, Bytes.ofText_eq]
  induction text.toList with
  | nil => rfl
  | cons char rest inductionHypothesis =>
      rw [List.flatMap_cons, List.flatMap_append, (formChar_spec char).2, inductionHypothesis]
      rfl

theorem formFields_single {name : Bytes} (plain : ∀ byte ∈ name, byte ≠ 0x26 ∧ byte ≠ 0x3d)
    (text : String) :
    formFields (name ++ 0x3d :: Bytes.ofText (formEncode text)) =
      [(formDecode name, Bytes.ofText text)] := by
  have value : ∀ byte ∈ Bytes.ofText (formEncode text), byte ≠ 0x26 := by
    intro byte member
    rw [ofText_formEncode, List.flatMap_assoc] at member
    obtain ⟨char, _, inChar⟩ := List.mem_flatMap.mp member
    exact ((formChar_spec char).1 byte inChar).1
  have single : ∀ byte ∈ name ++ 0x3d :: Bytes.ofText (formEncode text), byte ≠ 0x26 := by
    intro byte member
    rcases List.mem_append.mp member with inName | behind
    · exact (plain byte inName).1
    · rcases List.mem_cons.mp behind with rfl | inValue
      · decide
      · exact value byte inValue
  have named : ∀ byte ∈ name, decide (byte ≠ 0x3d) = true := fun byte member =>
    decide_eq_true (plain byte member).2
  have whole : (name ++ 0x3d :: Bytes.ofText (formEncode text)).splitOnP (· == 0x26) =
      [name ++ 0x3d :: Bytes.ofText (formEncode text)] :=
    List.splitOnP_eq_singleton fun byte member => beq_eq_false_iff_ne.mpr (single byte member)
  rw [formFields, List.splitOn, whole, List.map_singleton, List.takeWhile_append_of_pos named,
    List.dropWhile_append_of_pos named, List.takeWhile_cons_of_neg (by decide),
    List.dropWhile_cons_of_neg (by decide), List.append_nil, List.drop_one, List.tail_cons,
    formDecode_formEncode]

end RowStream.Url
