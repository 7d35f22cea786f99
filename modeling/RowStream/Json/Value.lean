import RowStream.Json.Token

/-!
# JSON values

`Json.parse?` reads exactly one value.  The tokens are fed one by one to a `Builder`, which
holds the path of open arrays and objects; nesting is not bounded.

Strings and numbers stay as written, and so do the names of members, with their order and with
repetitions.  What they mean is decided by whoever wants the value.
-/

set_option autoImplicit false

namespace RowStream

inductive Json where
  | null
  | boolean (value : Bool)
  | number (literal : Json.NumberLiteral)
  | string (raw : Json.RawText)
  | array (items : List Json)
  | object (members : List (Json.RawText × Json))

namespace Json

/-- An open array or object.  What was read of it is kept with the last item first. -/
inductive Context where
  | element (before : List Json)
  | member (before : List (RawText × Json)) (name : RawText)

/-- What may come next.  `path` holds the open arrays and objects, the innermost first. -/
inductive Builder where
  | awaitValue (path : List Context)
  | awaitFirstElement (path : List Context)
  | awaitFirstName (path : List Context)
  | awaitName (before : List (RawText × Json)) (path : List Context)
  | awaitColon (before : List (RawText × Json)) (name : RawText) (path : List Context)
  | afterElement (read : List Json) (path : List Context)
  | afterMember (read : List (RawText × Json)) (path : List Context)
  | complete (value : Json)

namespace Builder

def give (value : Json) : List Context → Builder
  | [] => .complete value
  | .element before :: path => .afterElement (value :: before) path
  | .member before name :: path => .afterMember ((name, value) :: before) path

def begin? (path : List Context) : Token → Option Builder
  | .null => some (give .null path)
  | .boolean value => some (give (.boolean value) path)
  | .number literal => some (give (.number literal) path)
  | .string raw => some (give (.string raw) path)
  | .openBracket => some (.awaitFirstElement path)
  | .openBrace => some (.awaitFirstName path)
  | _ => none

def push : Builder → Token → Option Builder
  | .awaitValue path, token => begin? path token
  | .awaitFirstElement path, .closeBracket => some (give (.array []) path)
  | .awaitFirstElement path, token => begin? (.element [] :: path) token
  | .awaitFirstName path, .closeBrace => some (give (.object []) path)
  | .awaitFirstName path, .string name => some (.awaitColon [] name path)
  | .awaitName before path, .string name => some (.awaitColon before name path)
  | .awaitColon before name path, .colon => some (.awaitValue (.member before name :: path))
  | .afterElement read path, .comma => some (.awaitValue (.element read :: path))
  | .afterElement read path, .closeBracket => some (give (.array read.reverse) path)
  | .afterMember read path, .comma => some (.awaitName read path)
  | .afterMember read path, .closeBrace => some (give (.object read.reverse) path)
  | _, _ => none

def result? : Builder → Option Json
  | .complete value => some value
  | _ => none

end Builder

def ofTokens? (tokens : List Token) : Option Json :=
  (tokens.foldlM Builder.push (.awaitValue [])).bind Builder.result?

/-- The value that a text spells; nothing but white space may stand around it. -/
def parse? (text : Bytes) : Option Json :=
  (Token.scan? text).bind ofTokens?

end Json

end RowStream
