import SelectorScan.Report.Fields

/-!
# Findings as JSON

A list of objects, indented by two spaces, in ASCII: other characters are written by their UTF-16
code units.
-/

namespace SelectorScan.Report.Json

open Key

def unit (n : Nat) : Text :=
  '\\' :: 'u' :: Text.padZeros 4 (Nat.toDigits 16 n)

def charText (c : Char) : Text :=
  let n := c.toNat
  if n = 0x22 ∨ n = 0x5C then ['\\', c]
  else if n = 8 then ['\\', 'b']
  else if n = 9 then ['\\', 't']
  else if n = 10 then ['\\', 'n']
  else if n = 12 then ['\\', 'f']
  else if n = 13 then ['\\', 'r']
  else if 0x20 ≤ n ∧ n < 0x7F then [c]
  else if n < 0x10000 then unit n
  else unit (0xD800 + (n - 0x10000) / 0x400) ++ unit (0xDC00 + (n - 0x10000) % 0x400)

def string (t : Text) : Text :=
  '\x22' :: t.flatMap charText ++ ['\x22']

def value : Value → Text
  | .text t => string t
  | .number n => Text.ofNat n

def member (field : String × Value) : Text :=
  "    ".toList ++ string field.1.toList ++ [':', ' '] ++ value field.2

def object (f : Finding) : Text :=
  "  \x7b\n".toList ++ Text.join [',', '\n'] ((fields f).map member) ++ "\n  \x7d".toList

def write (findings : List Finding) : Text :=
  if findings.isEmpty then ['[', ']']
  else '[' :: '\n' :: Text.join [',', '\n'] (findings.map object) ++ ['\n', ']']

end SelectorScan.Report.Json
