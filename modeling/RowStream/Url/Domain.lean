import RowStream.Text.Blank
import RowStream.Url.Percent
import RowStream.Url.Punycode

/-!
# Domain names

A domain is compared and sent in lower-case ASCII.  `Domain.toAscii?` maps every character to
its canonical form, drops the ones that leave no trace, refuses those that no domain may hold,
and writes each label that is still not ASCII in Punycode behind `xn--`.  A label that claims
to be Punycode already has to be the Punycode of a mapped label.

The case map covers the alphabets whose capitals are laid out in step with their small letters:
Latin, Greek, Cyrillic, Armenian and the full-width forms.
-/

set_option autoImplicit false

namespace RowStream.Url.Domain

open Text (inRanges)

/-- Ranges of capitals, both ends included, whose small letters stand this far behind them. -/
def shiftedCapitals : List (Nat × Nat × Nat) :=
  [(0x41, 0x5a, 0x20), (0xc0, 0xd6, 0x20), (0xd8, 0xde, 0x20), (0x391, 0x3a1, 0x20),
    (0x3a3, 0x3ab, 0x20), (0x400, 0x40f, 0x50), (0x410, 0x42f, 0x20), (0x531, 0x556, 0x30)]

/-- Ranges in which every even code point is the capital of the next one. -/
def evenCapitals : List (Nat × Nat) :=
  [(0x100, 0x12f), (0x132, 0x137), (0x14a, 0x177), (0x1e00, 0x1e95), (0x1ea0, 0x1eff),
    (0x460, 0x481), (0x48a, 0x4bf), (0x4d0, 0x52f)]

def oddCapitals : List (Nat × Nat) := [(0x139, 0x148), (0x179, 0x17e), (0x4c1, 0x4ce)]

def lower (char : Char) : Char :=
  let code := char.toNat
  match shiftedCapitals.find? fun range => range.1 ≤ code && code ≤ range.2.1 with
  | some range => Char.ofNat (code + range.2.2)
  | none =>
      if (code % 2 = 0 ∧ inRanges evenCapitals char) ∨
          (code % 2 = 1 ∧ inRanges oddCapitals char) then
        Char.ofNat (code + 1)
      else char

def fromFullWidth (char : Char) : Char :=
  if 0xff01 ≤ char.toNat ∧ char.toNat ≤ 0xff5e then Char.ofNat (char.toNat - 0xfee0) else char

def isDot (char : Char) : Bool := [0x2e, 0x3002, 0xff0e, 0xff61].contains char.toNat

def isIgnored (char : Char) : Bool :=
  inRanges [(0xad, 0xad), (0x200b, 0x200b), (0x2060, 0x2060), (0xfe00, 0xfe0f),
    (0xfeff, 0xfeff)] char

def mapChar (char : Char) : List Char :=
  if isIgnored char then []
  else if isDot char then ['.']
  else [lower (fromFullWidth char)]

/-- Characters that no domain may hold: controls and blanks, what has a meaning in a URL, and
code points without an interpretation of their own. -/
def isForbidden (char : Char) : Bool :=
  EncodeSet.controls char || "%#/:<>?@[\\]^|".toList.contains char || Text.isBlank char ||
    inRanges [(0x80, 0x9f), (0x200e, 0x200f), (0x2028, 0x202e), (0xe000, 0xf8ff),
      (0xfff9, 0xffff), (0xf0000, 0x10ffff)] char

def punycodeMark : List Char := "xn--".toList

def isAscii (label : List Char) : Bool := label.all (·.toNat < 0x80)

/-- A mapped label in ASCII. -/
def label? (label : List Char) : Option (List Char) :=
  if punycodeMark.isPrefixOf label then
    match Punycode.decode? (label.drop 4) with
    | none => none
    | some decoded =>
        if !isAscii decoded && decoded.flatMap mapChar = decoded && !decoded.any isForbidden &&
            Punycode.encode decoded = label.drop 4 then
          some label
        else none
  else if isAscii label then some label
  else some (punycodeMark ++ Punycode.encode label)

def toAscii? (name : String) : Option String :=
  let mapped := name.toList.flatMap mapChar
  if mapped.any isForbidden then none
  else
    ((mapped.splitOn '.').mapM label?).map fun labels => String.ofList (['.'].intercalate labels)

end RowStream.Url.Domain
