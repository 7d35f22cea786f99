import Mathlib.Data.List.Perm.Basic
import RowStream.Record
import RowStream.Proofs.Quoting

/-!
# Written lists and objects, and the readers of their parts

`Json.arrayText` and `Json.objectText` write lists and objects without white space.  `Reads` says
that a text is a written value and what a reader makes of it; it passes from the items of a list to
the list.  The known fields of an object are found in any order, because each of them stands only
once (`fields?_object`).
-/

set_option autoImplicit false

namespace RowStream.Json

/-! ## Items and members -/

def arrayText (items : List String) : String := "[" ++ ",".intercalate items ++ "]"

def memberText (member : String × String) : String := quote member.1 ++ (":" ++ member.2)

def objectText (members : List (String × String)) : String :=
  "\x7b" ++ ",".intercalate (members.map memberText) ++ "\x7d"

theorem ofText_intercalate (first : String) (rest : List String) :
    Bytes.ofText (",".intercalate (first :: rest)) =
      Bytes.ofText first ++ (rest.map Bytes.ofText).flatMap (0x2c :: ·) := by
  induction rest generalizing first with
  | nil => simp
  | cons next rest inductionHypothesis =>
      have comma : Bytes.ofText "," = [0x2c] := rfl
      rw [String.intercalate_cons_cons, Bytes.ofText_append, Bytes.ofText_append, comma,
        inductionHypothesis]
      simp

theorem ofText_sequence {α : Type} (brackets : Brackets α) {opening closing : String}
    (opens : Bytes.ofText opening = [brackets.openByte])
    (closes : Bytes.ofText closing = [brackets.closeByte]) (items : List String) :
    Bytes.ofText (opening ++ ",".intercalate items ++ closing) =
      brackets.sequence (items.map Bytes.ofText) := by
  cases items with
  | nil =>
      rw [Bytes.ofText_append, Bytes.ofText_append, opens, closes]
      rfl
  | cons first rest =>
      rw [Bytes.ofText_append, Bytes.ofText_append, opens, closes, ofText_intercalate]
      simp [Brackets.sequence, Brackets.tail]

def valueOf (text : String) : Json := (parse? (Bytes.ofText text)).getD .null

def Written (text : String) : Prop := Writes (Bytes.ofText text) (valueOf text)

theorem Writes.valueOf_eq {text : String} {json : Json} (writes : Writes (Bytes.ofText text) json) :
    valueOf text = json := by
  rw [valueOf, writes.parse_eq]
  rfl

theorem Writes.written {text : String} {json : Json} (writes : Writes (Bytes.ofText text) json) :
    Written text := by
  rw [Written, writes.valueOf_eq]
  exact writes

theorem writes_arrayText {items : List String} (written : ∀ item ∈ items, Written item) :
    Writes (Bytes.ofText (arrayText items)) (.array (items.map valueOf)) := by
  have pairs : ∀ pair ∈ items.map fun item => (Bytes.ofText item, valueOf item),
      Brackets.array.Writes pair.1 pair.2 := by
    intro pair member
    obtain ⟨item, isItem, rfl⟩ := List.mem_map.mp member
    exact (written item isItem).element
  have sequence := Brackets.array.writes_sequence pairs
  rw [List.map_map, List.map_map] at sequence
  rw [arrayText, ofText_sequence Brackets.array rfl rfl]
  exact sequence

theorem writes_objectText {members : List (String × String)}
    (written : ∀ member ∈ members, Written member.2) :
    Writes (Bytes.ofText (objectText members))
      (.object (members.map fun member => (member.1.toList.flatMap pieces, valueOf member.2))) := by
  have pairs : ∀ pair ∈ members.map fun member => (Bytes.ofText (memberText member),
      (member.1.toList.flatMap pieces, valueOf member.2)),
      Brackets.object.Writes pair.1 pair.2 := by
    intro pair isPair
    obtain ⟨member, isMember, rfl⟩ := List.mem_map.mp isPair
    have colon : Bytes.ofText ":" = [0x3a] := rfl
    dsimp only
    rw [memberText, Bytes.ofText_append, Bytes.ofText_append, colon]
    exact (written member isMember).member (printable_quote member.1) (closes_quote member.1)
  have sequence := Brackets.object.writes_sequence pairs
  rw [List.map_map, List.map_map] at sequence
  rw [objectText, ofText_sequence Brackets.object rfl rfl, List.map_map]
  exact sequence

/-! ## Readers -/

/-- A text is a written value, and the reader makes this of it. -/
structure Reads {α : Type} (read? : Json → Option α) (text : String) (value : α) : Prop where
  written : Written text
  read_eq : read? (valueOf text) = some value

theorem Writes.reads {α : Type} {read? : Json → Option α} {text : String} {json : Json} {value : α}
    (writes : Writes (Bytes.ofText text) json) (read_eq : read? json = some value) :
    Reads read? text value :=
  ⟨writes.written, writes.valueOf_eq ▸ read_eq⟩

theorem Reads.parse_bind {α : Type} {read? : Json → Option α} {text : String} {value : α}
    (reads : Reads read? text value) : (parse? (Bytes.ofText text)).bind read? = some value := by
  rw [reads.written.parse_eq, Option.bind_some, reads.read_eq]

theorem mapM_map_eq_some {α β γ : Type} {source : List α} {write : α → β} {read? : β → Option γ}
    {value : α → γ} (each : ∀ item ∈ source, read? (write item) = some (value item)) :
    (source.map write).mapM read? = some (source.map value) := by
  induction source with
  | nil => rfl
  | cons item rest inductionHypothesis =>
      have later := inductionHypothesis fun other member =>
        each other (List.mem_cons_of_mem item member)
      rw [List.map_cons, List.mapM_cons, each item List.mem_cons_self, later]
      rfl

theorem reads_text (text : String) : Reads text? (quote text) text :=
  (writes_quote text).reads (RawText.toText?_pieces text)

theorem reads_list {α β : Type} {read? : Json → Option α} {write : β → String} {value : β → α}
    {items : List β} (each : ∀ item ∈ items, Reads read? (write item) (value item)) :
    Reads (list? read?) (arrayText (items.map write)) (items.map value) := by
  have written : ∀ text ∈ items.map write, Written text := by
    intro text member
    obtain ⟨item, isItem, rfl⟩ := List.mem_map.mp member
    exact (each item isItem).written
  refine (writes_arrayText written).reads ?_
  rw [List.map_map]
  exact mapM_map_eq_some fun item isItem => (each item isItem).read_eq

/-! ## Known fields -/

def filled (slots : List (String × Option String)) : List (String × String) :=
  slots.filterMap fun slot => slot.2.map fun text => (slot.1, text)

theorem mem_filled {slots : List (String × Option String)} {member : String × String}
    (isFilled : member ∈ filled slots) : (member.1, some member.2) ∈ slots := by
  obtain ⟨slot, isSlot, shape⟩ := List.mem_filterMap.mp isFilled
  obtain ⟨text, text_eq, rfl⟩ := Option.map_eq_some_iff.mp shape
  rwa [← text_eq]

theorem filled_cons (slot : String × Option String) (rest : List (String × Option String)) :
    filled (slot :: rest) =
      (slot.2.map fun text => (slot.1, text)).toList ++ filled rest := by
  unfold filled
  obtain ⟨name, text⟩ := slot
  cases text <;> rfl

theorem filter_filled {slots : List (String × Option String)}
    (distinct : (slots.map Prod.fst).Nodup) {slot : String × Option String} (isSlot : slot ∈ slots) :
    (filled slots).filter (·.1 = slot.1) = (slot.2.map fun text => (slot.1, text)).toList := by
  induction slots with
  | nil => cases isSlot
  | cons first rest inductionHypothesis =>
      rw [List.map_cons, List.nodup_cons] at distinct
      have elsewhere : ∀ other ∈ rest, other.1 ≠ first.1 := by
        intro other isOther same
        exact distinct.1 (same ▸ List.mem_map_of_mem isOther)
      rw [filled_cons, List.filter_append]
      rcases List.mem_cons.mp isSlot with rfl | inRest
      · have own : ((slot.2.map fun text => (slot.1, text)).toList).filter (·.1 = slot.1) =
            (slot.2.map fun text => (slot.1, text)).toList := by
          cases slot.2 <;> simp
        have others : (filled rest).filter (·.1 = slot.1) = [] := by
          rw [List.filter_eq_nil_iff]
          intro member isFilled
          simpa using elsewhere _ (mem_filled isFilled)
        rw [own, others, List.append_nil]
      · have notOwn : ((first.2.map fun text => (first.1, text)).toList).filter (·.1 = slot.1) =
            [] := by
          have different := (elsewhere slot inRest).symm
          cases first.2 <;> simp [different]
        rw [notOwn, List.nil_append, inductionHypothesis distinct.2 inRest]

theorem uniqueMember?_filled {slots : List (String × Option String)}
    (distinct : (slots.map Prod.fst).Nodup) {members : List (String × String)}
    (perm : members.Perm (filled slots)) {slot : String × Option String} (isSlot : slot ∈ slots) :
    uniqueMember? slot.1 (members.map fun member => (member.1, valueOf member.2)) =
      some (slot.2.map valueOf) := by
  have found := perm.filter (·.1 = slot.1)
  rw [filter_filled distinct isSlot] at found
  have kept : (members.map fun member => (member.1, valueOf member.2)).filter (·.1 = slot.1) =
      (members.filter (·.1 = slot.1)).map fun member => (member.1, valueOf member.2) :=
    List.filter_map
  rw [uniqueMember?, kept]
  cases text : slot.2 with
  | none =>
      rw [text] at found
      rw [List.perm_nil.mp found]
      rfl
  | some text =>
      rw [text] at found
      rw [List.perm_singleton.mp found]
      rfl

/-- The fields of an object are read by their names, in whatever order they stand. -/
theorem fields?_object {slots : List (String × Option String)}
    (distinct : (slots.map Prod.fst).Nodup) {members : List (String × String)}
    (perm : members.Perm (filled slots)) :
    fields? (slots.map Prod.fst) (.object
      (members.map fun member => (member.1.toList.flatMap pieces, valueOf member.2))) =
        some (slots.map fun slot => slot.2.map valueOf) := by
  have named : namedMembers?
      (members.map fun member => (member.1.toList.flatMap pieces, valueOf member.2)) =
        some (members.map fun member => (member.1, valueOf member.2)) := by
    refine mapM_map_eq_some fun member _ => ?_
    rw [RawText.toText?_pieces]
    rfl
  rw [fields?, named, Option.bind_some]
  exact mapM_map_eq_some fun slot isSlot => uniqueMember?_filled distinct perm isSlot

theorem fields?_array {slots : List (String × Option String)} {items : List String}
    (full : slots.map Prod.snd = items.map some) :
    fields? (slots.map Prod.fst) (.array (items.map valueOf)) =
      some (slots.map fun slot => slot.2.map valueOf) := by
  have lengths := congrArg List.length full
  rw [List.length_map, List.length_map] at lengths
  rw [fields?, if_pos (by simp [lengths])]
  have values : slots.map (fun slot => slot.2.map valueOf) = (items.map valueOf).map some := by
    have mapped := congrArg (List.map (Option.map valueOf)) full
    rw [List.map_map, List.map_map] at mapped
    rw [List.map_map]
    exact mapped
  rw [values]
  simp [lengths]

end RowStream.Json
