/-!
# Command line arguments

Two flags and at most one Banquet URL, in any order.
-/

set_option autoImplicit false

namespace RowStream

structure Arguments where
  headless : Bool
  check : Bool
  banquetUrl : Option String
  deriving DecidableEq, Repr

inductive ArgumentError where
  | helpRequested
  | unknownOption (word : String)
  | severalUrls
  deriving DecidableEq, Repr

def usage : String := "Usage: banquet [--headless] [--check] [BANQUET_URL]"

def ArgumentError.message : ArgumentError → String
  | .helpRequested => usage
  | .unknownOption word => "Unknown option " ++ word ++ "\n" ++ usage
  | .severalUrls => "Only one Banquet URL allowed\n" ++ usage

namespace Arguments

def none : Arguments := { headless := false, check := false, banquetUrl := .none }

def add (arguments : Arguments) (word : String) : Except ArgumentError Arguments :=
  if word = "--headless" then .ok { arguments with headless := true }
  else if word = "--check" then .ok { arguments with check := true }
  else if word = "-h" ∨ word = "--help" then .error .helpRequested
  else if ['-', '-'].isPrefixOf word.toList then .error (.unknownOption word)
  else if arguments.banquetUrl.isSome then .error .severalUrls
  else .ok { arguments with banquetUrl := some word }

/-- Reads a command line; the first word that is not acceptable decides the error. -/
def parse (words : List String) : Except ArgumentError Arguments := words.foldlM add none

end Arguments

end RowStream
