import RowStream.Proofs.Fields
import RowStream.Proofs.Literals
import RowStream.Proofs.Norming

/-!
# Written messages read back

Cells, columns and query requests are read back from their own JSON, a cell in its normal form.  A
record is written by the server, as an object or as an array (`Record.Text`): an object has its
members in any order, and a field that is absent is left out of it or is null.  However it is
written, it is read as the same record with its cells in normal form (`Record.reads_text`).
-/

set_option autoImplicit false

namespace RowStream

open Json (Reads Written Writes valueOf arrayText objectText quote)

/-! ## Cells -/

namespace Cell

open Decimal (Binary)

def ReadsBack : Cell → Prop
  | .float value => (Binary.ofFloat value).value?.isSome → Json.ReadsBack value
  | _ => True

theorem reads_integer (value : Int64) :
    Reads ofJson? (toString value.toInt) (.integer value) := by
  have below : value.toInt < 2 ^ 63 := value.toInt_lt
  have above : -2 ^ 63 ≤ value.toInt := value.le_toInt
  have value_eq := Int64.ofInt_toInt value
  cases shape : value.toInt with
  | ofNat magnitude =>
      rw [shape] at below value_eq
      have small : magnitude < Nat.pow 2 63 := Int.ofNat_lt.mp below
      have fits : magnitude < Nat.pow 2 64 := Nat.lt_trans small (by decide)
      obtain ⟨literal, writes, denotes⟩ := Json.writes_natural fits
      refine writes.reads ?_
      rw [ofJson?, denotes, Option.map_some, ofNumber, UInt64.toNat_ofNat_of_lt' fits,
        if_pos small]
      exact congrArg (some ∘ Cell.integer) value_eq
  | negSucc magnitude =>
      rw [shape] at above value_eq
      have fits : magnitude + 1 ≤ Nat.pow 2 63 := by
        change magnitude + 1 ≤ 2 ^ 63
        omega
      obtain ⟨literal, writes, denotes⟩ := Json.writes_negative (Nat.succ_pos magnitude) fits
      refine writes.reads ?_
      rw [ofJson?, denotes]
      exact congrArg (some ∘ Cell.integer) value_eq

theorem reads_float {value : Float} (readsBack : ReadsBack (.float value)) :
    Reads ofJson? (jsonLayout.write value) (norm (.float value)) := by
  cases shape : Binary.ofFloat value with
  | notANumber =>
      have text_eq : jsonLayout.write value = "null" := by
        simp only [Decimal.Layout.write, shape]
        rfl
      rw [text_eq, norm_of_undenoted (by rw [shape]; rfl)]
      exact Json.writes_null.reads rfl
  | infinite negative =>
      have text_eq : jsonLayout.write value = "null" := by
        simp only [Decimal.Layout.write, shape]
        cases negative <;> rfl
      rw [text_eq, norm_of_undenoted (by rw [shape]; rfl)]
      exact Json.writes_null.reads rfl
  | finite negative mantissa exponent =>
      have denoted := Binary.value?_of_finite shape
      obtain ⟨literal, writes, denotes⟩ :=
        Json.writes_double shape (readsBack (by rw [denoted]; rfl))
      refine writes.reads ?_
      rw [ofJson?, denotes, Option.map_some, ofNumber, ofFloat_eq_norm denoted]

theorem reads_toJson {cell : Cell} (readsBack : cell.ReadsBack) :
    Reads ofJson? cell.toJson cell.norm := by
  cases cell with
  | text value =>
      refine (Json.writes_quote value).reads ?_
      rw [ofJson?, Json.RawText.toText?_pieces]
      rfl
  | integer value => exact reads_integer value
  | float value => exact reads_float readsBack
  | boolean value => exact (Json.writes_boolean value).reads rfl
  | null => exact Json.writes_null.reads rfl

end Cell

/-! ## Columns and requests -/

theorem exists_texts (fields : List (String × String)) (distinct : (fields.map Prod.fst).Nodup) :
    ∃ json, Writes (Bytes.ofText (objectText (fields.map fun field => (field.1, quote field.2))))
        json ∧
      json.fields? (fields.map Prod.fst) =
        some (fields.map fun field => some (valueOf (quote field.2))) := by
  obtain ⟨slots, slots_eq⟩ : ∃ slots : List (String × Option String),
    slots = fields.map fun field => (field.1, some (quote field.2)) := ⟨_, rfl⟩
  have names_eq : slots.map Prod.fst = fields.map Prod.fst := by simp [slots_eq]
  have filled_eq : Json.filled slots = fields.map fun field => (field.1, quote field.2) := by
    simp [slots_eq, Json.filled]
  have written : ∀ member ∈ fields.map fun field => (field.1, quote field.2),
      Written member.2 := by
    intro member isMember
    obtain ⟨field, _, rfl⟩ := List.mem_map.mp isMember
    exact (Json.reads_text field.2).written
  refine ⟨_, Json.writes_objectText written, ?_⟩
  have fields_eq := Json.fields?_object (names_eq ▸ distinct) (List.Perm.of_eq filled_eq.symm)
  rw [← names_eq, fields_eq, slots_eq, List.map_map]
  rfl

theorem Column.toJson_eq (column : Column) :
    column.toJson = objectText [("name", quote column.name), ("type", quote column.typeName)] := by
  have opening : "\x7b\"name\":" = "\x7b" ++ (quote "name" ++ ":") := by decide
  have next : ",\"type\":" = "," ++ (quote "type" ++ ":") := by decide
  unfold toJson
  rw [opening, next]
  simp only [objectText, List.map_cons, List.map_nil, String.intercalate_cons_cons,
    String.intercalate_singleton, Json.memberText, String.append_assoc]

theorem Column.reads_toJson (column : Column) : Reads ofJson? column.toJson column := by
  have distinct : ["name", "type"].Nodup := by decide
  obtain ⟨json, writes, fields_eq⟩ :=
    exists_texts [("name", column.name), ("type", column.typeName)] distinct
  have name := (Json.reads_text column.name).read_eq
  have typeName := (Json.reads_text column.typeName).read_eq
  rw [toJson_eq]
  refine writes.reads ?_
  simp only [List.map_cons, List.map_nil] at fields_eq
  simp [ofJson?, fields_eq, Json.required?, name, typeName]

theorem QueryRequest.toJson_eq (request : QueryRequest) :
    request.toJson = objectText [("banquet_url", quote request.banquetUrl)] := by
  have opening : "\x7b\"banquet_url\":" = "\x7b" ++ (quote "banquet_url" ++ ":") := by decide
  unfold toJson
  rw [opening]
  simp only [objectText, List.map_singleton, String.intercalate_singleton, Json.memberText,
    String.append_assoc]

theorem QueryRequest.reads_toJson (request : QueryRequest) :
    Reads ofJson? request.toJson request := by
  have distinct : ["banquet_url"].Nodup := by decide
  obtain ⟨json, writes, fields_eq⟩ := exists_texts [("banquet_url", request.banquetUrl)] distinct
  have banquetUrl := (Json.reads_text request.banquetUrl).read_eq
  rw [toJson_eq]
  refine writes.reads ?_
  simp only [List.map_cons, List.map_nil] at fields_eq
  simp [ofJson?, fields_eq, Json.required?, banquetUrl]

/-! ## Records -/

namespace Record

def norm (record : Record) : Record :=
  { record with rows := record.rows.map (·.map (·.map Cell.norm)) }

/-- The JSON texts of all finite doubles in the record are read as those doubles. -/
def ReadsBack (record : Record) : Prop :=
  ∀ rows ∈ record.rows, ∀ row ∈ rows, ∀ cell ∈ row, cell.ReadsBack

def fields (record : Record) : List (String × Option String) :=
  [("columns", record.columns.map fun columns => arrayText (columns.map Column.toJson)),
    ("rows", record.rows.map fun rows =>
      arrayText (rows.map fun row => arrayText (row.map Cell.toJson))),
    ("total", record.total.map fun total => toString total.toNat),
    ("error", record.error.map quote)]

/-- What an object says of the fields, when these absent ones are shown as null. -/
def slots (record : Record) (shown : String → Bool) : List (String × Option String) :=
  record.fields.map fun field =>
    (field.1, field.2.or (if shown field.1 then some "null" else none))

inductive Text (record : Record) : String → Prop where
  | array : Text record (arrayText (record.fields.map fun field => field.2.getD "null"))
  | object (shown : String → Bool) (members : List (String × String))
      (perm : members.Perm (Json.filled (record.slots shown))) : Text record (objectText members)

theorem reads_columns (columns : List Column) :
    Reads (Json.list? Column.ofJson?) (arrayText (columns.map Column.toJson)) columns := by
  have reads := Json.reads_list fun column (_ : column ∈ columns) => column.reads_toJson
  rwa [List.map_id'] at reads

theorem reads_rows {rows : List Row} (readsBack : ∀ row ∈ rows, ∀ cell ∈ row, cell.ReadsBack) :
    Reads (Json.list? Row.ofJson?)
      (arrayText (rows.map fun row => arrayText (row.map Cell.toJson)))
      (rows.map (·.map Cell.norm)) :=
  Json.reads_list fun row isRow =>
    Json.reads_list fun cell isCell => Cell.reads_toJson (readsBack row isRow cell isCell)

theorem reads_total (total : UInt64) : Reads Json.natural? (toString total.toNat) total := by
  obtain ⟨literal, writes, denotes⟩ := Json.writes_natural total.toNat_lt
  refine writes.reads ?_
  rw [Json.natural?, denotes, UInt64.ofNat_toNat]

theorem optional?_slot {α β : Type} {read? : Json → Option α} (refuses : read? .null = none)
    {write : β → String} {value : β → α} {field : Option β}
    (reads : ∀ present ∈ field, Reads read? (write present) (value present)) (shown : Bool) :
    Json.optional? read?
        (((field.map write).or (if shown then some "null" else none)).map valueOf) =
      some (field.map value) := by
  cases field with
  | none =>
      cases shown with
      | false => rfl
      | true =>
          change Json.optional? read? (some (valueOf "null")) = _
          rw [Json.writes_null.valueOf_eq]
          rfl
  | some present =>
      have read_eq := (reads present rfl).read_eq
      change Json.optional? read? (some (valueOf (write present))) = some (some (value present))
      cases shape : valueOf (write present) with
      | null =>
          rw [shape, refuses] at read_eq
          cases read_eq
      | boolean | number | string | array | object =>
          rw [shape] at read_eq
          simp [Json.optional?, read_eq]

theorem written_slot {α β : Type} {read? : Json → Option α} {write : β → String} {value : β → α}
    {field : Option β} (reads : ∀ present ∈ field, Reads read? (write present) (value present))
    {shown : Bool} {text : String}
    (isText : (field.map write).or (if shown then some "null" else none) = some text) :
    Written text := by
  cases field with
  | none =>
      cases shown with
      | false => cases isText
      | true =>
          cases isText
          exact Json.writes_null.written
  | some present =>
      cases isText
      exact (reads present rfl).written

theorem written_of_mem_slots {record : Record} (readsBack : record.ReadsBack)
    (shown : String → Bool) {slot : String × Option String} (isSlot : slot ∈ record.slots shown)
    {text : String} (isText : slot.2 = some text) : Written text := by
  simp only [slots, fields, List.map_cons, List.map_nil, List.mem_cons, List.not_mem_nil,
    or_false] at isSlot
  rcases isSlot with rfl | rfl | rfl | rfl
  · exact written_slot (fun columns _ => reads_columns columns) isText
  · exact written_slot (fun rows present => reads_rows (readsBack rows present)) isText
  · exact written_slot (fun total _ => reads_total total) isText
  · exact written_slot (fun error _ => Json.reads_text error) isText

theorem ofJson?_of_slots {record : Record} (readsBack : record.ReadsBack) (shown : String → Bool)
    {json : Json} (fields_eq : json.fields? ["columns", "rows", "total", "error"] =
      some ((record.slots shown).map fun slot => slot.2.map valueOf)) :
    ofJson? json = some record.norm := by
  have columns := optional?_slot rfl (fun columns (_ : columns ∈ record.columns) =>
    reads_columns columns) (shown "columns")
  have rows := optional?_slot rfl (fun rows (present : rows ∈ record.rows) =>
    reads_rows (readsBack rows present)) (shown "rows")
  have total := optional?_slot rfl (fun total (_ : total ∈ record.total) => reads_total total)
    (shown "total")
  have error := optional?_slot rfl (fun error (_ : error ∈ record.error) => Json.reads_text error)
    (shown "error")
  rw [ofJson?, fields_eq]
  simp only [slots, fields, List.map_cons, List.map_nil, Option.bind_eq_bind, Option.bind_some,
    columns, rows, total, error]
  simp [norm]

/-- However a record is written, it is read as the same record with its cells in normal form. -/
theorem reads_text {record : Record} (readsBack : record.ReadsBack) {text : String}
    (isText : Text record text) : Reads ofJson? text record.norm := by
  have names (shown : String → Bool) :
      (record.slots shown).map Prod.fst = ["columns", "rows", "total", "error"] := rfl
  cases isText with
  | array =>
      -- the items of the array are the slots of an object that shows every absent field
      have full : (record.slots fun _ => true).map Prod.snd =
          (record.fields.map fun field => field.2.getD "null").map some := by
        rw [slots, List.map_map, List.map_map]
        refine List.map_congr_left fun field _ => ?_
        obtain ⟨name, text⟩ := field
        cases text <;> rfl
      have written : ∀ item ∈ record.fields.map fun field => field.2.getD "null",
          Written item := by
        intro item isItem
        have inSlots : some item ∈ (record.slots fun _ => true).map Prod.snd :=
          full ▸ List.mem_map_of_mem isItem
        obtain ⟨slot, isSlot, text_eq⟩ := List.mem_map.mp inSlots
        exact written_of_mem_slots readsBack _ isSlot text_eq
      refine (Json.writes_arrayText written).reads (ofJson?_of_slots readsBack (fun _ => true) ?_)
      exact Json.fields?_array full
  | object shown members perm =>
      have distinct : ((record.slots shown).map Prod.fst).Nodup := by
        rw [names]
        decide
      have written : ∀ member ∈ members, Written member.2 := by
        intro member isMember
        have inSlots := Json.mem_filled (perm.subset isMember)
        exact written_of_mem_slots readsBack shown inSlots rfl
      refine (Json.writes_objectText written).reads (ofJson?_of_slots readsBack shown ?_)
      exact Json.fields?_object distinct perm

end Record

end RowStream
