import RowStream.Url.Address
import RowStream.Url.Domain

/-!
# Reading a URL

`Url.parse` reads an absolute URL.  It takes the text apart from the front: scheme, then after
two slashes user, host and port, then path, query and fragment.  Every part is encoded on the
way, so that `Url.serialize` only has to put the parts together again.

A special scheme forgives a lot: any number of slashes in front of the host, backslashes in
place of slashes.  Control characters and blanks around the text and line breaks inside it are
never part of a URL.
-/

set_option autoImplicit false

namespace RowStream.Url

namespace Parse

def clean (text : String) : List Char :=
  let fromFirst := text.toList.dropWhile (·.toNat ≤ 0x20)
  ((fromFirst.reverse.dropWhile (·.toNat ≤ 0x20)).reverse).filter
    fun char => !(char = '\t' || char = '\n' || char = '\r')

def isSchemeChar (char : Char) : Bool := char.isAlphanum || "+-.".toList.contains char

/-- The scheme in small letters, and what follows its colon. -/
def scheme? (chars : List Char) : Option (String × List Char) :=
  match chars.span isSchemeChar with
  | (first :: name, ':' :: rest) =>
      if first.isAlpha then some (String.ofList ((first :: name).map Char.toLower), rest) else none
  | _ => none

def isSlash (special : Bool) (char : Char) : Bool := char = '/' || (special && char = '\\')

def endsAuthority (special : Bool) (char : Char) : Bool :=
  isSlash special char || char = '?' || char = '#'

def splitAtLastAt? (chars : List Char) : Option (List Char × List Char) :=
  let (behind, front) := chars.reverse.span (· ≠ '@')
  if front = [] then none else some ((front.drop 1).reverse, behind.reverse)

def encoded (set : EncodeSet) (chars : List Char) : String := String.ofList (encode set chars)

def credentials (userinfo : List Char) : String × String :=
  let (user, password) := userinfo.span (· ≠ ':')
  (encoded EncodeSet.userinfo user, encoded EncodeSet.userinfo (password.drop 1))

/-- The host in front of the colon that starts the port.  Colons in brackets do not count. -/
def spanHost : Bool → List Char → List Char × List Char
  | _, [] => ([], [])
  | inBrackets, char :: rest =>
      if char = ':' ∧ !inBrackets then ([], char :: rest)
      else
        let (host, port) := spanHost (if char = '[' then true else if char = ']' then false
          else inBrackets) rest
        (char :: host, port)

def bracketHost (text : List Char) : Except UrlError Host :=
  if text.getLast? = some ']' then
    match Host.ipv6? text.dropLast with
    | some groups => .ok (.ipv6 groups)
    | none => .error .invalidIpv6
  else .error .invalidIpv6

def isOpaqueHostStop (char : Char) : Bool :=
  char.toNat = 0 || " #/:<>?@[\\]^|".toList.contains char

def opaqueHost (text : List Char) : Except UrlError Host :=
  match text with
  | '[' :: rest => bracketHost rest
  | [] => .ok .empty
  | _ =>
      if text.any isOpaqueHostStop then .error .invalidDomainCharacter
      else .ok (.domain (encoded EncodeSet.controls text))

def namedHost (text : List Char) : Except UrlError Host :=
  match text with
  | '[' :: rest => bracketHost rest
  | _ =>
      match (Bytes.toText? (decode (Bytes.ofText (String.ofList text)))).bind Domain.toAscii? with
      | none => .error .invalidDomain
      | some name =>
          if name = "" then .error .emptyHost
          else if Host.endsInNumber name.toList then
            match Host.ipv4? name.toList with
            | some address => .ok (.ipv4 address)
            | none => .error .invalidIpv4
          else .ok (.domain name)

def port (scheme : String) (digits : List Char) : Except UrlError (Option UInt16) :=
  if digits = [] then .ok none
  else if digits.all Char.isDigit ∧ digitsValue 10 digits < 65536 then
    let value := UInt16.ofNat (digitsValue 10 digits)
    .ok (if defaultPort? scheme = some value then none else some value)
  else .error .invalidPort

def emptyUrl (scheme : String) : Url :=
  { scheme, username := "", password := "", host := none, port := none, path := .segments []
    query := none, fragment := none }

/-- User, host and port of a URL.  `text` ends where the path, query or fragment starts, and
`followed` says that one of them does. -/
def authority (scheme : String) (followed : Bool) (text : List Char) : Except UrlError Url := do
  let special := isSpecial scheme
  let (userinfo, hostAndPort) := (splitAtLastAt? text).getD ([], text)
  let emptyUser := (splitAtLastAt? text).isSome && userinfo.isEmpty
  if emptyUser && hostAndPort.isEmpty && followed then throw .emptyHost
  let (username, password) := credentials userinfo
  let (hostText, behind) := spanHost false hostAndPort
  if hostText.isEmpty && (special || !behind.isEmpty || username ≠ "" || password ≠ "") then
    throw .emptyHost
  let host ← if special then namedHost hostText else opaqueHost hostText
  let port ← port scheme (behind.drop 1)
  return { emptyUrl scheme with username, password, host := some host, port }

/-! ## Paths -/

def isSingleDot (component : List Char) : Bool :=
  component.map Char.toLower ∈ [".".toList, "%2e".toList]

def isDoubleDot (component : List Char) : Bool :=
  component.map Char.toLower ∈
    ["..".toList, ".%2e".toList, "%2e.".toList, "%2e%2e".toList]

/-- A drive letter with its colon, or with the bar that some write for it. -/
def isDriveLetter : List Char → Bool
  | [letter, mark] => letter.isAlpha && (mark = ':' || mark = '|')
  | _ => false

/-- The path without its last component.  The path of a file keeps its drive letter. -/
def shorten (scheme : String) (components : List String) : List String :=
  match components with
  | [only] => if scheme = "file" ∧ isDriveLetter only.toList then [only] else []
  | _ => components.dropLast

/-- Resolves components against the path in front of them; the last one stands at the end of
the path, where a dot means the directory itself. -/
def resolve (scheme : String) : List String → List (List Char) → List String
  | path, [] => path
  | path, component :: rest =>
      let isLast := rest.isEmpty
      let next :=
        if isDoubleDot component then shorten scheme path ++ (if isLast then [""] else [])
        else if isSingleDot component then path ++ (if isLast then [""] else [])
        else if scheme = "file" ∧ path = [] ∧ isDriveLetter component then
          [String.ofList (component.take 1 ++ [':'])]
        else path ++ [encoded EncodeSet.path component]
      resolve scheme next rest

def splitSlashes (special : Bool) (chars : List Char) : List (List Char) :=
  (chars.map fun char => if isSlash special char then '/' else char).splitOn '/'

/-- The components of a path.  Only a special scheme has a path where nothing is written. -/
def segments (scheme : String) (chars : List Char) : List String :=
  let special := isSpecial scheme
  match chars with
  | [] => if special then [""] else []
  | first :: rest =>
      resolve scheme [] (splitSlashes special (if isSlash special first then rest else chars))

def splitTail (tail : List Char) : Option (List Char) × Option (List Char) :=
  let (query, fragment) := tail.span (· ≠ '#')
  (match query with
    | '?' :: text => some text
    | _ => none,
   if fragment = [] then none else some (fragment.drop 1))

def withTail (url : Url) (tail : List Char) : Url :=
  let set := if isSpecial url.scheme then EncodeSet.specialQuery else EncodeSet.query
  let (query, fragment) := splitTail tail
  { url with
    query := query.map (encoded set)
    fragment := fragment.map (encoded EncodeSet.fragment) }

def startsTail (char : Char) : Bool := char = '?' || char = '#'

def withPathAndTail (url : Url) (chars : List Char) : Url :=
  let (path, tail) := chars.span (!startsTail ·)
  withTail { url with path := .segments (segments url.scheme path) } tail

def afterSlashes (scheme : String) (chars : List Char) : Except UrlError Url := do
  let (authorityText, rest) := chars.span (!endsAuthority (isSpecial scheme) ·)
  return withPathAndTail (← authority scheme (!rest.isEmpty) authorityText) rest

def dropEmptyFront : List String → List String
  | "" :: next :: rest => dropEmptyFront (next :: rest)
  | components => components

/-- A file may have a host behind two slashes; `localhost` is none, and neither is a drive
letter. -/
def file (chars : List Char) : Except UrlError Url := do
  let (host, rest) ←
    match chars with
    | first :: second :: behind =>
        if isSlash true first ∧ isSlash true second then
          let (text, rest) := behind.span (!endsAuthority true ·)
          if text.isEmpty ∨ isDriveLetter text then pure (Host.empty, behind)
          else
            match ← namedHost text with
            | .domain "localhost" => pure (Host.empty, rest)
            | host => pure (host, rest)
        else pure (Host.empty, chars)
    | _ => pure (Host.empty, chars)
  let (path, tail) := rest.span (!startsTail ·)
  return withTail { emptyUrl "file" with
    host := some host, path := .segments (dropEmptyFront (segments "file" path)) } tail

def withoutAuthority (scheme : String) (chars : List Char) : Url :=
  match chars with
  | '/' :: _ => withPathAndTail (emptyUrl scheme) chars
  | _ =>
      let (path, tail) := chars.span (!startsTail ·)
      withTail { emptyUrl scheme with path := .opaquePath (encoded EncodeSet.controls path) } tail

end Parse

def parse (text : String) : Except UrlError Url :=
  match Parse.scheme? (Parse.clean text) with
  | none => .error .relativeWithoutBase
  | some (scheme, rest) =>
      if scheme = "file" then Parse.file rest
      else if isSpecial scheme then
        Parse.afterSlashes scheme (rest.dropWhile (Parse.isSlash true))
      else
        match rest with
        | '/' :: '/' :: behind => Parse.afterSlashes scheme behind
        | _ => .ok (Parse.withoutAuthority scheme rest)

end RowStream.Url
