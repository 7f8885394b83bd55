import SelectorScan.Text.Blank
import SelectorScan.Text.Lines
import SelectorScan.Text.Utf8

/-!
# Rule files

A rule file is UTF-8 text with one rule on a line. Blank lines and lines that begin with a comment
sign are skipped, and a line that reads `EoF` ends the rules. Blanks within a line count for
nothing, not even inside that word.
-/

namespace SelectorScan.Rule

open Text

/-! ## Algorithm -/

/-- What a line of a rule file is. -/
inductive Line where
  /-- Nothing, or a comment. -/
  | skipped
  /-- The end of the rules. -/
  | terminator
  /-- A rule, its blanks taken out. -/
  | rule (text : Text)
deriving DecidableEq, Repr

def terminatorWord : Text := ['E', 'o', 'F']

/-- Whether a character in front makes the line a comment. -/
def isCommentSign (c : Char) : Bool :=
  c = '#' || c = ';'

def Line.read (raw : Text) : Line :=
  let text := squeeze raw
  match text with
  | [] => .skipped
  | c :: _ =>
    if isCommentSign c then .skipped
    else if text = terminatorWord then .terminator
    else .rule text

/-- The rules among the lines, up to the terminator. -/
def liveLines : List Text → List Text
  | [] => []
  | raw :: rest =>
    match Line.read raw with
    | .skipped => liveLines rest
    | .terminator => []
    | .rule text => text :: liveLines rest

/-- The lines of a file, `none` when its bytes are not UTF-8. -/
def linesOfBytes? (bytes : List UInt8) : Option (List Text) :=
  (Utf8.decode? bytes).map fun t => lines (unifyEnds t)

end SelectorScan.Rule
