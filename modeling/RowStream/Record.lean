import RowStream.Cell

/-!
# Records and the other messages of the query server

A result is streamed as one record a line.  A record, a column, the answer to a schema lookup
and the body of a query request are JSON objects with known fields; each may also be written
as the array of its fields in order.  `Json.fields?` takes either form apart: a known field may
stand only once, unknown fields are passed over, and an array may be shorter than the list of
fields but not longer.
-/

set_option autoImplicit false

namespace RowStream

namespace Json

def namedMembers? (members : List (RawText × Json)) : Option (List (String × Json)) :=
  members.mapM fun member => member.1.toText?.map fun name => (name, member.2)

/-- The value of a field that may stand once at most: nothing when it stands twice, `none`
inside when it does not stand at all. -/
def uniqueMember? (name : String) (members : List (String × Json)) : Option (Option Json) :=
  match members.filter (·.1 = name) with
  | [] => some none
  | [member] => some (some member.2)
  | _ => none

def fields? (names : List String) : Json → Option (List (Option Json))
  | .array items =>
      if items.length ≤ names.length then
        some (items.map some ++ List.replicate (names.length - items.length) none)
      else none
  | .object members =>
      (namedMembers? members).bind fun named => names.mapM (uniqueMember? · named)
  | _ => none

/-- A field that may be missing or null. -/
def optional? {α : Type} (read? : Json → Option α) : Option Json → Option (Option α)
  | none => some none
  | some .null => some none
  | some json => (read? json).map some

/-- A field that has to be there. -/
def required? {α : Type} (read? : Json → Option α) (field : Option Json) : Option α :=
  field.bind read?

def text? : Json → Option String
  | .string raw => raw.toText?
  | _ => none

/-- A number that is written as an integer below `2^64`. -/
def natural? : Json → Option UInt64
  | .number literal =>
      match Number.ofLiteral? literal with
      | some (.natural value) => some value
      | _ => none
  | _ => none

def list? {α : Type} (read? : Json → Option α) : Json → Option (List α)
  | .array items => items.mapM read?
  | _ => none

end Json

structure Column where
  name : String
  typeName : String
  deriving DecidableEq, Repr

namespace Column

def ofJson? (json : Json) : Option Column := do
  match ← json.fields? ["name", "type"] with
  | [name, typeName] =>
      some { name := ← Json.required? Json.text? name
             typeName := ← Json.required? Json.text? typeName }
  | _ => none

def toJson (column : Column) : String :=
  "\x7b\"name\":" ++ Json.quote column.name ++ ",\"type\":" ++ Json.quote column.typeName ++ "\x7d"

end Column

def Row.ofJson? : Json → Option Row := Json.list? Cell.ofJson?

structure Record where
  columns : Option (List Column)
  rows : Option (List Row)
  total : Option UInt64
  error : Option String

namespace Record

def ofJson? (json : Json) : Option Record := do
  match ← json.fields? ["columns", "rows", "total", "error"] with
  | [columns, rows, total, error] =>
      some { columns := ← Json.optional? (Json.list? Column.ofJson?) columns
             rows := ← Json.optional? (Json.list? Row.ofJson?) rows
             total := ← Json.optional? Json.natural? total
             error := ← Json.optional? Json.text? error }
  | _ => none

def decode? (line : Bytes) : Option Record := (Json.parse? line).bind ofJson?

/-- The error that the server reports with this record, if there is one to report. -/
def reportedError? (record : Record) : Option String := record.error.filter (· ≠ "")

end Record

structure SchemaReply where
  columns : Option (List Column)
  error : Option String
  deriving DecidableEq, Repr

namespace SchemaReply

def ofJson? (json : Json) : Option SchemaReply := do
  match ← json.fields? ["columns", "error"] with
  | [columns, error] =>
      some { columns := ← Json.optional? (Json.list? Column.ofJson?) columns
             error := ← Json.optional? Json.text? error }
  | _ => none

def decode? (body : Bytes) : Option SchemaReply := (Json.parse? body).bind ofJson?

end SchemaReply

structure QueryRequest where
  banquetUrl : String
  deriving DecidableEq, Repr

namespace QueryRequest

def ofJson? (json : Json) : Option QueryRequest := do
  match ← json.fields? ["banquet_url"] with
  | [banquetUrl] => some { banquetUrl := ← Json.required? Json.text? banquetUrl }
  | _ => none

def decode? (body : Bytes) : Option QueryRequest := (Json.parse? body).bind ofJson?

def toJson (request : QueryRequest) : String :=
  "\x7b\"banquet_url\":" ++ Json.quote request.banquetUrl ++ "\x7d"

end QueryRequest

end RowStream
