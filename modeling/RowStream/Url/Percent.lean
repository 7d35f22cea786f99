import RowStream.Bytes

/-!
# Percent-encoding

A text is written into a part of a URL byte by byte.  Every part has a set of ASCII characters
that it cannot hold as they are; these, and all bytes outside ASCII, are written as `%` and two
hexadecimal digits.  Form data, which is what queries are made of, writes a blank as `+`.
-/

set_option autoImplicit false

namespace RowStream.Url

/-- ASCII characters that have to be encoded in some part of a URL. -/
abbrev EncodeSet := Char → Bool

namespace EncodeSet

def controls : EncodeSet := fun char => char.toNat < 0x20 || char.toNat = 0x7f

def fragment : EncodeSet := fun char => controls char || " \"<>`".toList.contains char

def query : EncodeSet := fun char => controls char || " \"#<>".toList.contains char

def specialQuery : EncodeSet := fun char => query char || char = '\''

def path : EncodeSet := fun char => query char || "?^`\x7b\x7d".toList.contains char

def userinfo : EncodeSet := fun char => path char || "/:;=@[\\]|".toList.contains char

def segment : EncodeSet := fun char => path char || "/%".toList.contains char

/-- One path component of a URL with a special scheme, where a backslash counts as a slash. -/
def specialSegment : EncodeSet := fun char => segment char || char = '\\'

/-- Everything that form data does not hold as it is. -/
def form : EncodeSet := fun char => !(char.isAlphanum || "*-._".toList.contains char)

end EncodeSet

def upperHexDigit (value : Nat) : Char :=
  if value < 10 then Char.ofNat (0x30 + value) else Char.ofNat (0x37 + value)

def encodeByte (byte : UInt8) : List Char :=
  ['%', upperHexDigit (byte.toNat / 16), upperHexDigit (byte.toNat % 16)]

def encodeChar (set : EncodeSet) (char : Char) : List Char :=
  if char.toNat < 0x80 && !set char then [char]
  else (Bytes.ofText (String.singleton char)).flatMap encodeByte

def encode (set : EncodeSet) (chars : List Char) : List Char := chars.flatMap (encodeChar set)

def formEncode (text : String) : String :=
  String.ofList (text.toList.flatMap fun char =>
    if char = ' ' then ['+'] else encodeChar EncodeSet.form char)

def hexValue? (byte : UInt8) : Option Nat :=
  if 0x30 ≤ byte && byte ≤ 0x39 then some (byte.toNat - 0x30)
  else if 0x41 ≤ byte && byte ≤ 0x46 then some (byte.toNat - 0x37)
  else if 0x61 ≤ byte && byte ≤ 0x66 then some (byte.toNat - 0x57)
  else none

/-- Undoes percent-encoding; a percent sign without two digits stands for itself. -/
def decode : Bytes → Bytes
  | 0x25 :: high :: low :: rest =>
      match hexValue? high, hexValue? low with
      | some highValue, some lowValue => UInt8.ofNat (16 * highValue + lowValue) :: decode rest
      | _, _ => 0x25 :: decode (high :: low :: rest)
  | byte :: rest => byte :: decode rest
  | [] => []

end RowStream.Url
