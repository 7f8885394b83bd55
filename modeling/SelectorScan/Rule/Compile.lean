import SelectorScan.Rule.Token
import SelectorScan.Text.Blank

/-!
# Compiling a rule

A line, all its blanks taken out, is cut at its percent signs, which pair up from the left: what a
pair encloses is a span, all else is plain text, and so is a last sign without a partner. A span
whose first character is a capital letter is a directive; any other span is plain text too.
Neighbouring plain texts make one literal.
-/

namespace SelectorScan.Rule

open Text

/-! ## Pieces -/

/-- A piece of a line: plain text, or a span with its enclosing percent signs. -/
inductive Piece where
  | plain (text : Text)
  | span (text : Text)
deriving DecidableEq, Repr

def enclose (body : Text) : Text :=
  '%' :: body ++ ['%']

/-- The pieces of a line from what stands between its percent signs: every second of these is
enclosed by a pair, unless it is the last. -/
def piecesOfSegments : List Text → List Piece
  | [] => []
  | [last] => [.plain last]
  | [before, last] => [.plain before, .plain ('%' :: last)]
  | before :: body :: rest => .plain before :: .span (enclose body) :: piecesOfSegments rest

/-- The pieces of a line; some plain ones may be empty. -/
def pieces (line : Text) : List Piece :=
  piecesOfSegments (split '%' line)

/-! ## Directives -/

/-- The arguments in the body of a directive; an empty body has none. -/
def arguments (body : Text) : List Text :=
  if body.isEmpty then [] else split ',' body

/-- The capital letter and the body of a span that is a directive: a percent sign, the letter, the
body without line feeds, and a percent sign at the very end. -/
def directiveParts? : Text → Option (Char × Text)
  | '%' :: letter :: rest =>
    if letter.isUpper && rest.getLast? == some '%' && !rest.contains '\n' then
      some (letter, rest.dropLast)
    else none
  | _ => none

/-- The token of a span, `none` when the span is plain text. -/
def readDirective (span : Text) : Except RuleError (Option Token) :=
  match directiveParts? span with
  | none => .ok none
  | some (letter, body) =>
    match Directive.ofLetter? letter with
    | none => .error (.unknownDirective letter span)
    | some d =>
      match d.token? (arguments body) with
      | none => .error (.badArguments d (arguments body))
      | some token => .ok (some token)

/-! ## Tokens -/

/-- Puts plain text in front, as part of the first literal if there is one. -/
def consPlain (text : Text) (tokens : List Token) : List Token :=
  if text.isEmpty then tokens
  else
    match tokens with
    | .literal more :: rest => .literal (text ++ more) :: rest
    | tokens => .literal text :: tokens

/-- The tokens of the pieces, or the error of the first span that is refused. -/
def compilePieces : List Piece → Except RuleError (List Token)
  | [] => .ok []
  | .plain text :: rest => (compilePieces rest).map (consPlain text)
  | .span text :: rest =>
    match readDirective text with
    | .error e => .error e
    | .ok none => (compilePieces rest).map (consPlain text)
    | .ok (some token) => (compilePieces rest).map (token :: ·)

def compile (line : Text) : Except RuleError (List Token) :=
  compilePieces (pieces (squeeze line))

end SelectorScan.Rule
