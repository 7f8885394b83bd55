import SelectorScan.Text.Blank
import SelectorScan.Text.Lower

/-!
# Tag lists

The text of a key record is a list of tags, `name=value` with a semicolon between two of them.
Reading takes tags from the front for as long as the text looks like one and ignores what follows.
A name reaches up to the equals sign and a value up to the semicolon, blanks around both being
dropped; a backslash in front of the semicolon, the trace of an escape, is dropped too. A repeated
name keeps its place and takes its last value.
-/

namespace SelectorScan.KeyRecord

open Text

/-! ## Algorithm -/

/-- The tags of a record by name, in the order in which the names first appear. -/
abbrev TagList := List (Text × Text)

namespace TagList

def get? (name : Text) (tags : TagList) : Option Text :=
  tags.lookup name

/-- Gives a tag a value, in its place if it has one and behind all others if not. -/
def set (name value : Text) : TagList → TagList
  | [] => [(name, value)]
  | (n, v) :: rest => if n = name then (n, value) :: rest else (n, v) :: set name value rest

end TagList

/-- Puts one space for a closing quotation mark, blanks and an opening one, which is how character
strings of one record are separated when the record is shown as text. -/
def joinStrings : Text → Text
  | [] => []
  | c :: rest =>
    if c = '\x22' ∧ rest.head?.any isBlank then
      match _h : rest.dropWhile isBlank with
      | '\x22' :: after => ' ' :: joinStrings after
      | _ => c :: joinStrings rest
    else c :: joinStrings rest
termination_by t => t.length
decreasing_by
  · have := (List.dropWhile_sublist isBlank (l := rest)).length_le
    simp_all only [List.length_cons]
    omega
  · simp
  · simp

/-- A value without its escape and without blanks around it. -/
def cleanValue (value : Text) : Text :=
  strip (if value.getLast? = some '\\' then value.dropLast else value)

def inName (c : Char) : Bool := c != '='

def inValue (c : Char) : Bool := c != ';'

def readTag? (t : Text) : Option ((Text × Text) × Text) :=
  let body := t.dropWhile isBlank
  let name := body.takeWhile inName
  match body.dropWhile inName with
  | [] => none
  | _ :: rest =>
    if name.isEmpty then none
    else
      some ((strip name, cleanValue (rest.takeWhile inValue)),
        ((rest.dropWhile inValue).drop 1).dropWhile isBlank)

theorem length_of_readTag? {t rest : Text} {tag : Text × Text}
    (h : readTag? t = some (tag, rest)) : rest.length < t.length := by
  simp only [readTag?] at h
  split at h
  · simp at h
  · next c after hd =>
    split at h
    · simp at h
    · simp only [Option.some.injEq, Prod.mk.injEq] at h
      obtain ⟨-, rfl⟩ := h
      have h₁ := (List.dropWhile_sublist isBlank (l := t)).length_le
      have h₂ := (List.dropWhile_sublist inName (l := t.dropWhile isBlank)).length_le
      have h₃ := (List.dropWhile_sublist inValue (l := after)).length_le
      have h₄ := (List.dropWhile_sublist isBlank
        (l := (after.dropWhile inValue).drop 1)).length_le
      rw [hd, List.length_cons] at h₂
      rw [List.length_drop] at h₄
      omega

def readTags (t : Text) : List (Text × Text) :=
  match _h : readTag? t with
  | none => []
  | some (tag, rest) => tag :: readTags rest
termination_by t.length
decreasing_by exact length_of_readTag? _h

def keyName : Text := ['p']

def flagsName : Text := ['t']

/-- The text with equals signs behind it up to a multiple of four characters. -/
def padBase64 (t : Text) : Text :=
  t ++ List.replicate ((4 - t.length % 4) % 4) '='

/-- Rids a key that is not empty of blanks and restores its padding. -/
def restoreKey (tags : TagList) : TagList :=
  match tags.get? keyName with
  | none => tags
  | some key => if key.isEmpty then tags else tags.set keyName (padBase64 (squeeze key))

def parseTags (t : Text) : TagList :=
  restoreKey ((readTags (joinStrings t)).foldl (fun tags tag => tags.set tag.1 tag.2) [])

/-- Whether the owner still tests the key. -/
inductive Mode where
  | test
  | production
deriving DecidableEq, Repr

def Mode.name : Mode → Text
  | .test => "TEST".toList
  | .production => "PROD".toList

/-- A record is a test when its flags are the one letter y, small or capital. -/
def mode (tags : TagList) : Mode :=
  if lower ((tags.get? flagsName).getD []) = ['y'] then .test else .production

/-- What stands between a selector and the domain in the name of a key record. -/
def marker : Text := "._domainkey.".toList

/-- The selector and the domain in the name of a key record, cut at the first marker. -/
def splitName (name : Text) : Option (Text × Text) :=
  breakOn marker name

end SelectorScan.KeyRecord
