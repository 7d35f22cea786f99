import RowStream.Url.Percent

/-!
# URLs

A URL in its parts, already encoded, and its serialization.  A URL of a special scheme always
has a host and a path that starts with a slash.  Other schemes may have neither: their path is
then opaque, and nothing can be resolved relative to it.
-/

set_option autoImplicit false

namespace RowStream

inductive Url.Host where
  | empty
  | domain (name : String)
  | ipv4 (address : Nat)
  | ipv6 (groups : List Nat)
  deriving DecidableEq, Repr

inductive Url.Path where
  | opaquePath (text : String)
  | segments (components : List String)
  deriving DecidableEq, Repr

structure Url where
  scheme : String
  username : String
  password : String
  /-- Absent when the URL has no authority at all. -/
  host : Option Url.Host
  /-- Absent when it is the default port of the scheme. -/
  port : Option UInt16
  path : Url.Path
  query : Option String
  fragment : Option String
  deriving DecidableEq, Repr

inductive UrlError where
  | emptyHost
  | invalidDomain
  | invalidPort
  | invalidIpv4
  | invalidIpv6
  | invalidDomainCharacter
  | relativeWithoutBase
  deriving DecidableEq, Repr

def UrlError.message : UrlError → String
  | .emptyHost => "empty host"
  | .invalidDomain => "invalid international domain name"
  | .invalidPort => "invalid port number"
  | .invalidIpv4 => "invalid IPv4 address"
  | .invalidIpv6 => "invalid IPv6 address"
  | .invalidDomainCharacter => "invalid domain character"
  | .relativeWithoutBase => "relative URL without a base"

namespace Url

def specialSchemes : List (String × Option UInt16) :=
  [("http", some 80), ("https", some 443), ("ws", some 80), ("wss", some 443), ("ftp", some 21),
    ("file", none)]

def isSpecial (scheme : String) : Bool := specialSchemes.any (·.1 = scheme)

def defaultPort? (scheme : String) : Option UInt16 :=
  (specialSchemes.find? (·.1 = scheme)).bind (·.2)

namespace Host

/-- The longest run of at least two zero groups, the first of equals, as start and length. -/
def zeroRun (groups : List Nat) : Option (Nat × Nat) :=
  let runs := (List.range groups.length).map fun start =>
    (start, ((groups.drop start).takeWhile (· = 0)).length)
  let best := runs.foldl (fun best run => if best.2 < run.2 then run else best) (0, 0)
  if 2 ≤ best.2 then some best else none

def hexGroup (group : Nat) : String := String.ofList (Nat.toDigits 16 group)

def joinGroups (groups : List Nat) : String := ":".intercalate (groups.map hexGroup)

def serialize : Host → String
  | .empty => ""
  | .domain name => name
  | .ipv4 address =>
      ".".intercalate ([24, 16, 8, 0].map fun shift => toString (address / Nat.pow 2 shift % 256))
  | .ipv6 groups =>
      match zeroRun groups with
      | some (start, length) =>
          "[" ++ joinGroups (groups.take start) ++ "::" ++
            joinGroups (groups.drop (start + length)) ++ "]"
      | none => "[" ++ joinGroups groups ++ "]"

end Host

def Path.serialize : Path → String
  | .opaquePath text => text
  | .segments components => String.join (components.map ("/" ++ ·))

def credentials (url : Url) : String :=
  if url.username = "" ∧ url.password = "" then ""
  else if url.password = "" then url.username ++ "@"
  else url.username ++ ":" ++ url.password ++ "@"

/-- What stands between the scheme and the path.  Without an authority, a path that starts
with two slashes is told apart from one by a dot. -/
def authority (url : Url) : String :=
  match url.host, url.path with
  | some host, _ =>
      "//" ++ url.credentials ++ host.serialize ++
        match url.port with
        | some port => ":" ++ toString port.toNat
        | none => ""
  | none, .segments ("" :: _ :: _) => "/."
  | none, _ => ""

def target (url : Url) : String :=
  url.path.serialize ++
    match url.query with
    | some query => "?" ++ query
    | none => ""

def serialize (url : Url) : String :=
  url.scheme ++ ":" ++ url.authority ++ url.target ++
    match url.fragment with
    | some fragment => "#" ++ fragment
    | none => ""

def withoutCredentials (url : Url) : Url := { url with username := "", password := "" }

def hasHost (url : Url) : Bool :=
  match url.host with
  | none => false
  | some .empty => false
  | some _ => true

def isBase (url : Url) : Bool :=
  match url.host, url.path with
  | none, .opaquePath _ => false
  | _, _ => true

end Url

end RowStream
