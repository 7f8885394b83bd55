import SelectorScan.Text

/-!
# Lines

A text file is cut into lines in two steps: every carriage return, with the line feed after it if
there is one, becomes a line feed (`unifyEnds`), and the result is cut after each line end
(`lines`), which leaves no empty line behind the last one.
-/

namespace SelectorScan.Text

/-- Carriage returns, with or without a line feed, as line feeds. -/
def unifyEnds : Text → Text
  | [] => []
  | '\r' :: '\n' :: rest => '\n' :: unifyEnds rest
  | c :: rest => (if c = '\r' then '\n' else c) :: unifyEnds rest

/-- The characters that end a line, once carriage returns are gone: line feed, vertical tab,
form feed, U+001C to U+001E, next line, line separator and paragraph separator. -/
def isLineEnd (c : Char) : Bool :=
  let n := c.toNat
  (10 ≤ n && n ≤ 12) || (0x1C ≤ n && n ≤ 0x1E) || n == 0x85 || n == 0x2028 || n == 0x2029

def lines : Text → List Text
  | [] => []
  | c :: rest =>
    if isLineEnd c then [] :: lines rest
    else
      match lines rest with
      | [] => [[c]]
      | line :: more => (c :: line) :: more

end SelectorScan.Text
