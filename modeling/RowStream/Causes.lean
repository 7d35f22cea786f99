/-!
# Errors with their causes

An error has a message and a chain of causes, each with a message of its own.
`describeCauses` puts them into one line, leaving out what the line already says.
-/

set_option autoImplicit false

namespace RowStream

def occursIn (part : List Char) : List Char → Bool
  | [] => part.isEmpty
  | char :: rest => part.isPrefixOf (char :: rest) || occursIn part rest

/-- A message with one more cause behind it, unless the message holds it already. -/
def addCause (message cause : String) : String :=
  if occursIn cause.toList message.toList then message else message ++ ": " ++ cause

def describeCauses (message : String) (causes : List String) : String :=
  causes.foldl addCause message

end RowStream
