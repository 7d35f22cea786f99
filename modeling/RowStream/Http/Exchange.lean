import RowStream.Causes
import RowStream.Http.Status
import RowStream.Url.Parse

/-!
# One request and its reply

A client sends a request over a network.  When the server can be reached it sees the request and
closes the connection without an answer, or it answers with a status and a body in chunks, which
ends as it should or breaks off.  When the server cannot be reached, it sees nothing.
-/

set_option autoImplicit false

namespace RowStream.Http

inductive Method where
  | get
  | post
  deriving DecidableEq, Repr

def Method.name : Method → String
  | .get => "GET"
  | .post => "POST"

structure Request where
  method : Method
  url : Url
  body : Bytes
  deriving DecidableEq, Repr

def Request.contentType? (request : Request) : Option String :=
  match request.method with
  | .get => none
  | .post => some "application/json"

inductive TransportError where
  | schemeNotAllowed (url : Url)
  | unreachable (url : Url) (reason : String)
  | noAnswer (url : Url)
  | brokenBody
  deriving DecidableEq, Repr

namespace TransportError

def message : TransportError → String
  | .schemeNotAllowed url => "builder error for url (" ++ url.serialize ++ ")"
  | .unreachable url _ => "error sending request for url (" ++ url.serialize ++ ")"
  | .noAnswer url => "error sending request for url (" ++ url.serialize ++ ")"
  | .brokenBody => "error decoding response body"

def causes : TransportError → List String
  | .schemeNotAllowed _ => ["URL scheme is not allowed"]
  | .unreachable _ reason => ["client error (Connect)", "tcp connect error", reason]
  | .noAnswer _ => ["client error (SendRequest)", "connection closed before message completed"]
  | .brokenBody =>
      ["request or response body error", "error reading a body from connection",
        "unexpected EOF during chunk size line"]

def describe (error : TransportError) : String := describeCauses error.message error.causes

end TransportError

inductive Ending where
  | clean
  | cut
  deriving DecidableEq, Repr

structure Reply where
  status : Status
  chunks : List Bytes
  ending : Ending
  deriving DecidableEq, Repr

namespace Reply

def body (reply : Reply) : Except TransportError Bytes :=
  match reply.ending with
  | .clean => .ok reply.chunks.flatten
  | .cut => .error .brokenBody

end Reply

/-- A server closes the connection (`none`) or replies. -/
abbrev Server := Request → Option Reply

inductive Network where
  | unreachable (reason : String)
  | connected (server : Server)

structure Exchange where
  result : Except TransportError Reply
  seen : List Request

namespace Network

/-- Sends a request.  User and password are not part of the URL that goes out. -/
def send (network : Network) (request : Request) : Exchange :=
  let url := { request.url.withoutCredentials with fragment := none }
  if request.url.hasHost ∧ (url.scheme = "http" ∨ url.scheme = "https") then
    match network with
    | .unreachable reason => { result := .error (.unreachable url reason), seen := [] }
    | .connected server =>
        let sent := { request with url }
        match server sent with
        | none => { result := .error (.noAnswer url), seen := [sent] }
        | some reply => { result := .ok reply, seen := [sent] }
  else { result := .error (.schemeNotAllowed url), seen := [] }

end Network

end RowStream.Http
