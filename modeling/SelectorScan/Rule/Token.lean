import SelectorScan.Text.Quoted
import SelectorScan.Text.Letter
import SelectorScan.Number.Integer

/-!
# Rule tokens

A rule is a list of tokens, leftmost first: literal text and directives. Each directive has a
letter and a list of arguments, and builds its token from them or refuses them.

    %N01,10%  numbers 01..10, padded with zeros to the width of the first argument
    %N1,10%   numbers 1..10
    %Na,z%    letters a..z
    %D%       the whole domain
    %D1%      its first label from the left
    %D-1%     its last label
    %D1,2%    its first and second labels, joined with a dot
    %La,b,c%  each of the listed texts, which may be empty
    %Ofoo%    nothing, then foo
-/

namespace SelectorScan.Rule

/-- A range of numbers, or of single letters, by the texts of its ends. -/
structure Range where
  first : Text
  last : Text
deriving DecidableEq, Repr

/-- Whether both ends are single letters. -/
def Range.isLetters (r : Range) : Bool :=
  match r.first, r.last with
  | [a], [b] => Text.isLetter a && Text.isLetter b
  | _, _ => false

/-- The width that numbers are padded to: that of the first end when it begins with a zero, and
none otherwise. -/
def Range.padWidth (r : Range) : Nat :=
  if !r.isLetters && r.first.head? = some '0' then r.first.length else 0

inductive Token where
  /-- The text itself. -/
  | literal (text : Text)
  /-- Each number, or each letter, of a range. -/
  | range (range : Range)
  /-- The whole domain, one of its labels, or a run of labels, by their indexes. -/
  | domainParts (indexes : List Int)
  /-- Each of the texts. -/
  | items (texts : List Text)
  /-- Nothing, then the suffix. -/
  | optional (suffix : Text)
deriving DecidableEq, Repr

inductive Directive where
  | range
  | domainParts
  | items
  | optional
deriving DecidableEq, Repr

def Directive.letter : Directive → Char
  | .range => 'N'
  | .domainParts => 'D'
  | .items => 'L'
  | .optional => 'O'

def Directive.ofLetter? : Char → Option Directive
  | 'N' => some .range
  | 'D' => some .domainParts
  | 'L' => some .items
  | 'O' => some .optional
  | _ => none

inductive RuleError where
  /-- No directive has this letter; the span it stands in. -/
  | unknownDirective (letter : Char) (span : Text)
  /-- The directive does not take these arguments. -/
  | badArguments (directive : Directive) (arguments : List Text)
deriving DecidableEq, Repr

/-- What is said about a refused rule. -/
def RuleError.message : RuleError → String
  | .unknownDirective letter span =>
    "unknown expansion %" ++ String.singleton letter ++ " in " ++ String.ofList (Text.quoted span)
  | .badArguments directive arguments =>
    "bad args to %" ++ String.singleton directive.letter ++ " expansion: " ++
      String.ofList (Text.quotedList arguments)

/-- Whether both ends of a range are integers. -/
def Range.isNumbers (r : Range) : Bool :=
  (Number.readInt? r.first).isSome && (Number.readInt? r.last).isSome

/-- The token that a directive builds from its arguments. -/
def Directive.token? (d : Directive) (arguments : List Text) : Option Token :=
  match d, arguments with
  | .range, [first, last] =>
    let r : Range := ⟨first, last⟩
    if r.isLetters || r.isNumbers then some (.range r) else none
  | .range, _ => none
  | .domainParts, arguments =>
    if arguments.length ≤ 2 then (arguments.mapM Number.readInt?).map .domainParts else none
  | .items, arguments => some (.items arguments)
  | .optional, [suffix] => some (.optional suffix)
  | .optional, _ => none

theorem Directive.ofLetter?_letter (d : Directive) : ofLetter? d.letter = some d := by
  cases d <;> rfl

end SelectorScan.Rule
