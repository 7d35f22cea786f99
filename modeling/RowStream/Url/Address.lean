import RowStream.Url.Basic

/-!
# Numeric hosts

A host whose last component is a number is an IPv4 address.  It has up to four components in
decimal, octal or hexadecimal notation, and the last one fills all bytes that are left.  A host
in brackets is an IPv6 address: eight groups of up to four hexadecimal digits, where `::` stands
for at least one group of zeros and the last two groups may be written like an IPv4 address.
-/

set_option autoImplicit false

namespace RowStream.Url

def digitValue (char : Char) : Nat :=
  if char.isDigit then char.toNat - 0x30 else char.toLower.toNat - 0x57

def isHexDigit (char : Char) : Bool :=
  char.isDigit || ('a' ≤ char.toLower && char.toLower ≤ 'f')

def digitsValue (base : Nat) (digits : List Char) : Nat :=
  digits.foldl (fun value digit => base * value + digitValue digit) 0

namespace Host

/-- A component of an IPv4 address: `0x` starts hexadecimal digits and `0` octal ones. -/
def ipv4Number? : List Char → Option Nat
  | [] => none
  | '0' :: 'x' :: digits => number? 16 isHexDigit digits
  | '0' :: 'X' :: digits => number? 16 isHexDigit digits
  | '0' :: digit :: digits => number? 8 (fun char => '0' ≤ char && char ≤ '7') (digit :: digits)
  | digits => number? 10 Char.isDigit digits
where
  number? (base : Nat) (isDigit : Char → Bool) (digits : List Char) : Option Nat :=
    if digits.all isDigit then some (digitsValue base digits) else none

/-- The components between dots; one dot at the very end does not count. -/
def dottedComponents (name : List Char) : List (List Char) :=
  match (name.splitOn '.').reverse with
  | [] :: rest => rest.reverse
  | _ => name.splitOn '.'

def endsInNumber (name : List Char) : Bool :=
  match (dottedComponents name).getLast? with
  | none => false
  | some last => (last ≠ [] && last.all Char.isDigit) || (ipv4Number? last).isSome

def ipv4? (name : List Char) : Option Nat := do
  let components := dottedComponents name
  let numbers ← components.mapM ipv4Number?
  match numbers.reverse with
  | [] => none
  | last :: leading =>
      let leading := leading.reverse
      let room := Nat.pow 256 (4 - leading.length)
      if leading.length ≤ 3 ∧ leading.all (· < 256) ∧ last < room then
        some (leading.foldl (fun value byte => 256 * value + byte) 0 * room + last)
      else none

def ipv4Byte? (digits : List Char) : Option Nat :=
  if digits ≠ [] ∧ digits.length ≤ 3 ∧ digits.all Char.isDigit ∧
      (digits.head? = some '0' → digits.length = 1) ∧ digitsValue 10 digits < 256 then
    some (digitsValue 10 digits)
  else none

def ipv4Groups? (text : List Char) : Option (List Nat) := do
  match ← (text.splitOn '.').mapM ipv4Byte? with
  | [first, second, third, fourth] => some [256 * first + second, 256 * third + fourth]
  | _ => none

def ipv6Group? (digits : List Char) : Option Nat :=
  if digits ≠ [] ∧ digits.length ≤ 4 ∧ digits.all isHexDigit then
    some (digitsValue 16 digits)
  else none

/-- Groups between colons; `closing` says that the address ends with them. -/
def ipv6Groups? (closing : Bool) (text : List Char) : Option (List Nat) :=
  if text = [] then some []
  else
    match (text.splitOn ':').reverse with
    | [] => some []
    | last :: leading => do
        let groups ← leading.reverse.mapM ipv6Group?
        if closing && last.contains '.' then return groups ++ (← ipv4Groups? last)
        return groups ++ [← ipv6Group? last]

def splitAtGap? : List Char → Option (List Char × List Char)
  | ':' :: ':' :: rest => some ([], rest)
  | char :: rest => (splitAtGap? rest).map fun parts => (char :: parts.1, parts.2)
  | [] => none

def ipv6? (text : List Char) : Option (List Nat) := do
  match splitAtGap? text with
  | none =>
      let groups ← ipv6Groups? true text
      if groups.length = 8 then some groups else none
  | some (front, behind) =>
      let frontGroups ← ipv6Groups? false front
      let behindGroups ← ipv6Groups? true behind
      let given := frontGroups.length + behindGroups.length
      if given ≤ 7 then some (frontGroups ++ List.replicate (8 - given) 0 ++ behindGroups)
      else none

end Host

end RowStream.Url
