/-!
# Banquet URLs

A Banquet URL names a dataset, a table in it and a query on the table.  `QueryInfo.parse`
takes it apart: what follows the first question mark is the query; the dataset reaches up to
the first path component that ends in `.sqlite`, and the component behind it is the table.
`QueryInfo.compose` puts a summary together again.
-/

set_option autoImplicit false

namespace RowStream

structure QueryInfo where
  dataset : String
  table : String
  query : Option String
  deriving DecidableEq, Repr

namespace QueryInfo

def defaultTable : String := "tb0"

/-- A path component with this ending is a dataset file. -/
def datasetEnding : List Char := ".sqlite".toList

def splitPath (path : List Char) : List Char × Option (List Char) :=
  let components := path.splitOn '/'
  match components.findIdx? datasetEnding.isSuffixOf with
  | some index =>
      (['/'].intercalate (components.take (index + 1)), components[index + 1]?.filter (· ≠ []))
  | none => (path, none)

def parse (url : String) : QueryInfo :=
  let (path, behind) := url.toList.span (· ≠ '?')
  let (dataset, table) := splitPath path
  let query := behind.drop 1
  { dataset := String.ofList dataset
    table := (table.map String.ofList).getD defaultTable
    query := if query = [] then none else some (String.ofList query) }

def compose (info : QueryInfo) : String :=
  info.dataset ++ "/" ++ info.table ++
    match info.query with
    | some query => "?" ++ query
    | none => ""

end QueryInfo

end RowStream
