import SelectorScan.KeyRecord.TagList

/-!
# Writing a tag list

One list of tags may be spelled in many ways: blanks may stand around names and values, a separator
may be escaped, and the last one may be missing. A `Spelling` is a tag together with such choices,
and `spell` is the text they make.
-/

namespace SelectorScan.KeyRecord

/-! ## Algorithm -/

/-- What ends a tag. -/
inductive Separator where
  | plain
  | escaped
deriving DecidableEq, Repr

def Separator.text : Separator → Text
  | .plain => [';']
  | .escaped => ['\\', ';']

structure Spelling where
  name : Text
  value : Text
  beforeName : Text
  afterName : Text
  beforeValue : Text
  afterValue : Text
  separator : Separator
deriving DecidableEq, Repr

def Spelling.tag (s : Spelling) : Text × Text :=
  (s.name, s.value)

/-- The text of a tag up to its separator. -/
def Spelling.body (s : Spelling) : Text :=
  s.beforeName ++ s.name ++ s.afterName ++ '=' :: s.beforeValue ++ s.value ++ s.afterValue

/-- The text of a tag with its separator. -/
def Spelling.text (s : Spelling) : Text :=
  s.body ++ s.separator.text

/-- The text of tags, the last one with its separator when it is `closed`. -/
def spell (closed : Bool) : List Spelling → Text
  | [] => []
  | [last] => if closed then last.text else last.body
  | s :: next :: rest => s.text ++ spell closed (next :: rest)

/-! ## Lemmas -/

@[simp] theorem spell_nil (closed : Bool) : spell closed [] = [] := rfl

end SelectorScan.KeyRecord
