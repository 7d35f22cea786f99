import RowStream.Json.Number

/-!
# The tokens of a JSON text

`Token.scan?` cuts a text into tokens and drops the white space between them.  The scanner
reads one byte at a time, so that it needs no look-ahead and no bound on nesting.

A string token keeps what was written: bytes, and the code units of `\u` escapes.  Whether it
spells text is asked only where the text is wanted (`RawText.toText?`), because a value that is
skipped is checked for its syntax alone.
-/

set_option autoImplicit false

namespace RowStream.Json

inductive Piece where
  | byte (value : UInt8)
  /-- A UTF-16 code unit, written as four hexadecimal digits. -/
  | unit (value : Nat)
  deriving DecidableEq, Repr

abbrev RawText := List Piece

inductive Token where
  | openBracket
  | closeBracket
  | openBrace
  | closeBrace
  | comma
  | colon
  | null
  | boolean (value : Bool)
  | number (literal : NumberLiteral)
  | string (raw : RawText)
  deriving DecidableEq, Repr

/-- What the scanner is in the middle of.  Lists of what was read hold the last item first. -/
inductive ScanMode where
  | between
  | word (due : Bytes) (token : Token)
  | number (read : Bytes)
  | string (read : RawText)
  | escape (read : RawText)
  | codeUnit (digitsLeft value : Nat) (read : RawText)
  deriving DecidableEq, Repr

structure Scanner where
  mode : ScanMode
  found : List Token
  deriving DecidableEq, Repr

namespace Scanner

def isBlank (byte : UInt8) : Bool :=
  byte == 0x20 || byte == 0x09 || byte == 0x0a || byte == 0x0d

def isNumeric (byte : UInt8) : Bool :=
  (0x30 ≤ byte && byte ≤ 0x39) || byte == 0x2b || byte == 0x2d || byte == 0x2e ||
    byte == 0x45 || byte == 0x65

def hexValue? (byte : UInt8) : Option Nat :=
  if 0x30 ≤ byte && byte ≤ 0x39 then some (byte.toNat - 0x30)
  else if 0x61 ≤ byte && byte ≤ 0x66 then some (byte.toNat - 0x57)
  else if 0x41 ≤ byte && byte ≤ 0x46 then some (byte.toNat - 0x37)
  else none

/-- The byte that an escape with a single letter stands for. -/
def escapedByte? (letter : UInt8) : Option UInt8 :=
  if letter == 0x22 || letter == 0x5c || letter == 0x2f then some letter
  else if letter == 0x62 then some 0x08
  else if letter == 0x66 then some 0x0c
  else if letter == 0x6e then some 0x0a
  else if letter == 0x72 then some 0x0d
  else if letter == 0x74 then some 0x09
  else none

def begin? (found : List Token) (byte : UInt8) : Option Scanner :=
  if isBlank byte then some ⟨.between, found⟩
  else if byte == 0x5b then some ⟨.between, .openBracket :: found⟩
  else if byte == 0x5d then some ⟨.between, .closeBracket :: found⟩
  else if byte == 0x7b then some ⟨.between, .openBrace :: found⟩
  else if byte == 0x7d then some ⟨.between, .closeBrace :: found⟩
  else if byte == 0x2c then some ⟨.between, .comma :: found⟩
  else if byte == 0x3a then some ⟨.between, .colon :: found⟩
  else if byte == 0x22 then some ⟨.string [], found⟩
  else if byte == 0x6e then some ⟨.word [0x75, 0x6c, 0x6c] .null, found⟩
  else if byte == 0x74 then some ⟨.word [0x72, 0x75, 0x65] (.boolean true), found⟩
  else if byte == 0x66 then some ⟨.word [0x61, 0x6c, 0x73, 0x65] (.boolean false), found⟩
  else if isNumeric byte then some ⟨.number [byte], found⟩
  else none

def endNumber? (read : Bytes) (found : List Token) : Option (List Token) :=
  (NumberLiteral.read? read.reverse).map fun literal => .number literal :: found

def step (scanner : Scanner) (byte : UInt8) : Option Scanner :=
  match scanner.mode with
  | .between => begin? scanner.found byte
  | .word due token =>
      match due with
      | [] => begin? (token :: scanner.found) byte
      | next :: rest => if byte == next then some ⟨.word rest token, scanner.found⟩ else none
  | .number read =>
      if isNumeric byte then some ⟨.number (byte :: read), scanner.found⟩
      else (endNumber? read scanner.found).bind (begin? · byte)
  | .string read =>
      if byte == 0x22 then some ⟨.between, .string read.reverse :: scanner.found⟩
      else if byte == 0x5c then some ⟨.escape read, scanner.found⟩
      else if byte < 0x20 then none
      else some ⟨.string (.byte byte :: read), scanner.found⟩
  | .escape read =>
      if byte == 0x75 then some ⟨.codeUnit 4 0 read, scanner.found⟩
      else (escapedByte? byte).map fun value => ⟨.string (.byte value :: read), scanner.found⟩
  | .codeUnit digitsLeft value read =>
      (hexValue? byte).map fun digit =>
        if digitsLeft ≤ 1 then ⟨.string (.unit (16 * value + digit) :: read), scanner.found⟩
        else ⟨.codeUnit (digitsLeft - 1) (16 * value + digit) read, scanner.found⟩

/-- The end of the text: no token may be left open. -/
def finish (scanner : Scanner) : Option (List Token) :=
  match scanner.mode with
  | .between => some scanner.found.reverse
  | .word [] token => some (token :: scanner.found).reverse
  | .number read => (endNumber? read scanner.found).map List.reverse
  | _ => none

end Scanner

def Token.scan? (text : Bytes) : Option (List Token) :=
  (text.foldlM Scanner.step ⟨.between, []⟩).bind Scanner.finish

end RowStream.Json
