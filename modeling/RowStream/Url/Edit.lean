import RowStream.Url.Parse

/-!
# Endpoints of a server

The URLs of a server's endpoints are made from its base URL: `withTrailingSlash` makes the base
a directory, `child` names something in it, and `tableSchema` builds the address of a schema
lookup.
-/

set_option autoImplicit false

namespace RowStream.Url

def withTrailingSlash (url : Url) : Url :=
  match url.path with
  | .opaquePath _ => url
  | .segments components =>
      if components.getLast? = some "" then url
      else { url with path := .segments (components ++ [""]) }

def child (url : Url) (name : String) : Url :=
  match url.path with
  | .opaquePath _ => url
  | .segments components =>
      { url with
        path := .segments (components.dropLast ++ [name])
        query := none
        fragment := none }

/-- The path component for a name, if there is one.  Tabs and line breaks cannot be written in
a URL. -/
def nameComponent (scheme name : String) : String :=
  let set := if isSpecial scheme then EncodeSet.specialSegment else EncodeSet.segment
  Parse.encoded set
    (name.toList.filter fun char => !(char = '\t' || char = '\n' || char = '\r'))

/-- A path with one more component.  The names of the directory itself and of the one above it
name no component of their own; when line breaks hid such a name, it acts as it does in a
path. -/
def pushName (scheme : String) (components : List String) (name : String) : List String :=
  if name = "." ∨ name = ".." then components
  else
    match nameComponent scheme name with
    | "." => components ++ [""]
    | ".." => components.dropLast ++ [""]
    | component => components ++ [component]

def tableSchema (base : Url) (dataset table : String) : Url :=
  let directory := base.child "schema"
  match directory.path with
  | .opaquePath _ => directory
  | .segments components =>
      { directory with
        path := .segments (pushName base.scheme components table)
        query := some ("db=" ++ formEncode dataset) }

end RowStream.Url
