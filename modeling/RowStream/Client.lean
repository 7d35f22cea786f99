import RowStream.Http.Exchange
import RowStream.Record
import RowStream.Settings
import RowStream.Url.Edit

/-!
# The client of a query server

A `Client` knows the base URL of its server and makes the requests of the three endpoints:
`health`, `query` and `schema`.  The base of a client is always a directory, so that the
endpoints stand below the configured path.  `readHealth` and `readSchema` say what a reply means.
-/

set_option autoImplicit false

namespace RowStream

open Http (Request Reply Exchange Network TransportError)

structure Client where
  /-- A URL whose path ends with a slash. -/
  base : Url
  lineLimit : Nat
  deriving DecidableEq, Repr

inductive ClientError where
  | unusableBase (url : Url)
  | transport (error : TransportError)
  | status (status : Http.Status)
  | server (message : String)
  | malformedSchema
  deriving DecidableEq, Repr

namespace ClientError

def message : ClientError → String
  | .unusableBase url => "Invalid URL: " ++ url.serialize ++ " cannot be used as a base URL"
  | .transport error => "HTTP error: " ++ error.message
  | .status code => "Server returned HTTP " ++ code.text
  | .server text => "Server error: " ++ text
  | .malformedSchema => "Server error: Malformed schema response:"

def causes : ClientError → List String
  | .transport error => error.message :: error.causes
  | _ => []

def describe (error : ClientError) : String := describeCauses error.message error.causes

end ClientError

namespace Client

/-- The client for these settings; the server has to have a URL with a path. -/
def new (settings : Settings) : Except ClientError Client :=
  if settings.serverUrl.isBase then
    .ok { base := settings.serverUrl.withTrailingSlash, lineLimit := settings.lineLimit }
  else .error (.unusableBase settings.serverUrl)

def healthRequest (client : Client) : Request :=
  { method := .get, url := client.base.child "health", body := [] }

def queryRequest (client : Client) (banquetUrl : String) : Request :=
  { method := .post, url := client.base.child "query"
    body := Bytes.ofText (QueryRequest.toJson ⟨banquetUrl⟩) }

def schemaRequest (client : Client) (dataset table : String) : Request :=
  { method := .get, url := client.base.tableSchema dataset table, body := [] }

/-- A server is up when it answers with a success status, whatever else it says. -/
def readHealth : Except TransportError Reply → Except ClientError Unit
  | .error error => .error (.transport error)
  | .ok reply => if reply.status.isSuccess then .ok () else .error (.status reply.status)

/-- The columns of a table.  An error in the body counts more than the status. -/
def readSchemaBody (status : Http.Status) (body : Bytes) : Except ClientError (List Column) :=
  match SchemaReply.decode? body with
  | some reply =>
      match reply.error.filter (· ≠ "") with
      | some message => .error (.server message)
      | none =>
          if status.isSuccess then .ok (reply.columns.getD []) else .error (.status status)
  | none => if status.isSuccess then .error .malformedSchema else .error (.status status)

def readSchema : Except TransportError Reply → Except ClientError (List Column)
  | .error error => .error (.transport error)
  | .ok reply =>
      match reply.body with
      | .error error => .error (.transport error)
      | .ok body => readSchemaBody reply.status body

def health (client : Client) (network : Network) : Except ClientError Unit × List Request :=
  let exchange := network.send client.healthRequest
  (readHealth exchange.result, exchange.seen)

def fetchSchema (client : Client) (network : Network) (dataset table : String) :
    Except ClientError (List Column) × List Request :=
  let exchange := network.send (client.schemaRequest dataset table)
  (readSchema exchange.result, exchange.seen)

end Client

end RowStream
