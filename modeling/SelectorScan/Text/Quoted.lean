import SelectorScan.Text.Point
import SelectorScan.Text.Printable

/-!
# Quoted text

Messages show a text between quotation marks, so that its ends and its unprinted characters can
be seen. Single marks are used unless the text holds a single mark and no double one; the mark in
use and the backslash get a backslash; tab, line feed and carriage return have names of their own;
other characters that are not printed, and surrogates, are written with their code point in
hexadecimal.
-/

namespace SelectorScan.Text

/-! ## Algorithm -/

/-- The single and the double quotation mark. -/
def singleMark : Char := '\x27'

@[inherit_doc singleMark]
def doubleMark : Char := '\x22'

def quoteMark (t : Text) : Char :=
  if t.contains singleMark && !t.contains doubleMark then doubleMark else singleMark

/-- A number in `width` lower case hexadecimal digits, or more if it needs them. -/
def ofNatHex (width n : Nat) : Text :=
  padZeros width (Nat.toDigits 16 n)

def quoteChar (mark c : Char) : Text :=
  if c = mark ∨ c = '\\' then ['\\', c]
  else if c = '\t' then ['\\', 't']
  else if c = '\n' then ['\\', 'n']
  else if c = '\r' then ['\\', 'r']
  else if isPrintable c then [c]
  else if c.toNat < 0x100 then '\\' :: 'x' :: ofNatHex 2 c.toNat
  else if c.toNat < 0x10000 then '\\' :: 'u' :: ofNatHex 4 c.toNat
  else '\\' :: 'U' :: ofNatHex 8 c.toNat

def quoted (t : Text) : Text :=
  let mark := quoteMark t
  mark :: t.flatMap (quoteChar mark) ++ [mark]

def quotedList (ts : List Text) : Text :=
  '[' :: join [',', ' '] (ts.map quoted) ++ [']']

end SelectorScan.Text

namespace SelectorScan.Points

open Text

/-- Code points between quotation marks. -/
def quoted (p : Points) : Text :=
  let mark := quoteMark p.shown
  let point : Point → Text
    | .char c => quoteChar mark c
    | .surrogate place => '\\' :: 'u' :: ofNatHex 4 (Point.surrogate place).code
  mark :: p.flatMap point ++ [mark]

end SelectorScan.Points
