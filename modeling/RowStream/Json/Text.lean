import RowStream.Json.Value

/-!
# Text in JSON strings

`RawText.toText?` reads the inside of a string: escaped code units are joined to characters,
and the whole has to be well-formed UTF-8.  `quote` writes a text as a string: the quote, the
backslash and the control characters are escaped, by a letter where there is one, and all
else stands for itself.
-/

set_option autoImplicit false

namespace RowStream.Json

namespace RawText

def isHighSurrogate (unit : Nat) : Bool := 0xd800 ≤ unit && unit < 0xdc00

def isLowSurrogate (unit : Nat) : Bool := 0xdc00 ≤ unit && unit < 0xe000

def joinSurrogates (high low : Nat) : Nat := 0x10000 + 1024 * (high - 0xd800) + (low - 0xdc00)

def encodeCodePoint (codePoint : Nat) : Bytes :=
  Bytes.ofText (String.singleton (Char.ofNat codePoint))

/-- The bytes that the pieces stand for, put in front of `reversed`, last byte first.  A
surrogate that is not part of a pair stands for nothing. -/
def appendBytes? (reversed : Bytes) : RawText → Option Bytes
  | [] => some reversed
  | .byte value :: rest => appendBytes? (value :: reversed) rest
  | .unit high :: .unit low :: rest =>
      if isHighSurrogate high then
        if isLowSurrogate low then
          appendBytes? ((encodeCodePoint (joinSurrogates high low)).reverse ++ reversed) rest
        else none
      else if isLowSurrogate high then none
      else appendBytes? ((encodeCodePoint high).reverse ++ reversed) (.unit low :: rest)
  | .unit single :: rest =>
      if isHighSurrogate single || isLowSurrogate single then none
      else appendBytes? ((encodeCodePoint single).reverse ++ reversed) rest

def toText? (raw : RawText) : Option String :=
  (appendBytes? [] raw).bind fun reversed => Bytes.toText? reversed.reverse

end RawText

def hexDigit (value : Nat) : Char :=
  if value < 10 then Char.ofNat (0x30 + value) else Char.ofNat (0x57 + value)

def escape (char : Char) : List Char :=
  if char = '"' then ['\\', '"']
  else if char = '\\' then ['\\', '\\']
  else if char = '\x08' then ['\\', 'b']
  else if char = '\t' then ['\\', 't']
  else if char = '\n' then ['\\', 'n']
  else if char = '\x0c' then ['\\', 'f']
  else if char = '\r' then ['\\', 'r']
  else if char.toNat < 0x20 then
    ['\\', 'u', '0', '0', hexDigit (char.toNat / 16), hexDigit (char.toNat % 16)]
  else [char]

def quote (text : String) : String :=
  String.ofList ('"' :: (text.toList.flatMap escape ++ ['"']))

end RowStream.Json
