/-!
# Bytes and the text they spell

A response body arrives as bytes and is only read as text where text is wanted, so the two
are kept apart.  `Bytes.ofText` writes text as UTF-8, `Bytes.toText?` reads UTF-8 strictly,
and `toText?_ofText` says that reading undoes writing.
-/

set_option autoImplicit false

namespace RowStream

abbrev Bytes := List UInt8

namespace Bytes

def lineFeed : UInt8 := 0x0a

def carriageReturn : UInt8 := 0x0d

def ofText (text : String) : Bytes := text.toUTF8.data.toList

/-- The text that the bytes spell, or nothing when they are not well-formed UTF-8. -/
def toText? (bytes : Bytes) : Option String := String.fromUTF8? ⟨bytes.toArray⟩

theorem toText?_ofText (text : String) : toText? (ofText text) = some text := by
  have shape : (⟨(ofText text).toArray⟩ : ByteArray) = text.toUTF8 := by simp [ofText]
  simp only [toText?, shape, String.fromUTF8?, String.toUTF8_eq_toByteArray,
    dif_pos text.isValidUTF8]
  rfl

theorem ofText_append (left right : String) :
    ofText (left ++ right) = ofText left ++ ofText right := by
  simp [ofText]

theorem ofText_ofList (chars : List Char) :
    ofText (String.ofList chars) = chars.flatMap String.utf8EncodeChar := by
  simp [ofText, List.utf8Encode]

theorem ofText_eq (text : String) : ofText text = text.toList.flatMap String.utf8EncodeChar := by
  rw [← ofText_ofList, String.ofList_toList]

theorem ofNat_toNat_inj {char other : Char} (ascii : char.toNat < 0x80)
    (otherAscii : other.toNat < 0x80) :
    UInt8.ofNat char.toNat = UInt8.ofNat other.toNat ↔ char = other := by
  refine ⟨fun same => ?_, fun same => by rw [same]⟩
  have values := congrArg UInt8.toNat same
  rw [UInt8.toNat_ofNat_of_lt' (Nat.lt_trans ascii (by decide)),
    UInt8.toNat_ofNat_of_lt' (Nat.lt_trans otherAscii (by decide))] at values
  exact Char.toNat_inj.mp values

/-- A byte below `0x80` stands for the ASCII character that it is. -/
theorem of_mem_utf8EncodeChar {char : Char} {byte : UInt8}
    (member : byte ∈ String.utf8EncodeChar char) :
    byte = UInt8.ofNat char.toNat ∧ char.toNat < 0x80 ∨ 0x80 ≤ byte := by
  have large : ∀ value, 0x80 ≤ value → value < 0x100 → 0x80 ≤ UInt8.ofNat value := by
    intro value atLeast below
    rw [UInt8.le_iff_toNat_le, UInt8.toNat_ofNat_of_lt' below]
    exact atLeast
  have value_eq : char.val.toNat = char.toNat := rfl
  simp only [String.utf8EncodeChar, value_eq] at member
  split at member
  · exact Or.inl ⟨List.mem_singleton.mp member, by omega⟩
  · refine Or.inr ?_
    split at member
    · simp only [List.mem_cons, List.not_mem_nil, or_false] at member
      rcases member with rfl | rfl <;> exact large _ (by omega) (by omega)
    · split at member
      · simp only [List.mem_cons, List.not_mem_nil, or_false] at member
        rcases member with rfl | rfl | rfl <;> exact large _ (by omega) (by omega)
      · simp only [List.mem_cons, List.not_mem_nil, or_false] at member
        rcases member with rfl | rfl | rfl | rfl <;> exact large _ (by omega) (by omega)

theorem ofText_intercalate (separator : String) (parts : List String) :
    ofText (separator.intercalate parts) =
      (ofText separator).intercalate (parts.map ofText) := by
  induction parts with
  | nil => rfl
  | cons part rest inductionHypothesis =>
      cases rest with
      | nil => simp
      | cons next others =>
          rw [String.intercalate_cons_cons, ofText_append, ofText_append, inductionHypothesis]
          simp only [List.map_cons, List.intercalate_cons_cons]

end Bytes

end RowStream
