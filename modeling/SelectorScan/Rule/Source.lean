import SelectorScan.Rule.Compile

/-!
# Writing a rule

The text of tokens: literals as they are, directives between percent signs with their letter and
their arguments. Indexes of labels are written in canonical decimals; everything else is written as
it was read.
-/

namespace SelectorScan.Rule

/-! ## Algorithm -/

def Directive.source (d : Directive) (arguments : List Text) : Text :=
  enclose (d.letter :: Text.join [','] arguments)

def Token.source : Token → Text
  | .literal text => text
  | .range r => Directive.range.source [r.first, r.last]
  | .domainParts indexes => Directive.domainParts.source (indexes.map Text.ofInt)
  | .items texts => Directive.items.source texts
  | .optional suffix => Directive.optional.source [suffix]

def source (tokens : List Token) : Text :=
  tokens.flatMap Token.source

/-! ## Lemmas -/

@[simp] theorem source_nil : source [] = [] := rfl

@[simp] theorem source_cons (token : Token) (tokens : List Token) :
    source (token :: tokens) = token.source ++ source tokens := rfl

/-- Plain text put in front of tokens stands in front of their text. -/
theorem source_consPlain (text : Text) (tokens : List Token) :
    source (consPlain text tokens) = text ++ source tokens := by
  unfold consPlain
  split
  · simp_all
  · split <;> simp [Token.source]

end SelectorScan.Rule
