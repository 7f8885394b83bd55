import SelectorScan.Json
import SelectorScan.Log
import SelectorScan.Text.Blank
import SelectorScan.Text.Lower

/-!
# The selector archive

A web archive knows selectors that have been seen for a domain. One request gives its records; what
is expected to go wrong with it is noted, and gives no selectors. Of a record only its selector is
used, each value once, in the order of the archive. A body may hold surrogates, and then so may the
selectors.
-/

namespace SelectorScan.Archive

/-- The address that the archive answers at. -/
def defaultBase : Text := "https://archive.prove.email/api".toList

structure Request where
  url : Text
  domain : Text
deriving DecidableEq, Repr

/-- What the web answers to a request, with a body whose texts are made of `γ`. -/
inductive Reply (γ : Type := Char) where
  /-- There was no answer. -/
  | failed (message : Text)
  /-- An answer with a status other than 200. -/
  | refused (status : Int)
  /-- An answer whose body is no JSON. -/
  | unreadable (message : Text)
  /-- Asking or reading the answer fails with an error of another kind, as reading a body does that
  is nested too deeply. -/
  | broken (error : String)
  | body (json : Json γ)

/-- A reply without surrogates as one that may hold some. -/
def Reply.points : Reply → Reply Point
  | .failed message => .failed message
  | .refused status => .refused status
  | .unreadable message => .unreadable message
  | .broken error => .broken error
  | .body json => .body json.points

instance : Coe Reply (Reply Point) := ⟨Reply.points⟩

structure Result (γ : Type) where
  selectors : List (Json γ)
  error : Option Text
  notes : List Log.Entry
  /-- The error that nobody has expected, if there is one. -/
  uncaught : Option String

/-- The domain as the archive knows it: without blanks around it, in lower case. -/
def archiveDomain (domain : Text) : Text :=
  Text.lower (Text.strip domain)

/-- The request for a domain; an empty base stands for the usual one. -/
def request (base domain : Text) : Request where
  url := Text.trimEnd (· == '/') (if base.isEmpty then defaultBase else base) ++ "/key".toList
  domain := archiveDomain domain

section
-- texts of characters stand for texts that are made of `γ`
variable {γ : Type} [BEq γ] [CoeHTCT Text (List γ)]

/-- The name of the member of a record that is used. -/
def selectorName : List γ :=
  ("selector".toList : Text)

/-- Adds a selector behind the others, unless it is empty or among them. -/
def addSelector (selectors : List (Json γ)) (record : Json γ) : List (Json γ) :=
  match record.member? selectorName with
  | none => selectors
  | some s => if s.isTruthy && !selectors.any (Json.same s) then selectors ++ [s] else selectors

def selectorsOf (records : List (Json γ)) : List (Json γ) :=
  records.foldl addSelector []

def topic : String := "dkimscan.archive"

def note (message : String) : Log.Entry :=
  .plain topic .debug message

/-- An entry about what has gone wrong. -/
def noteError (message : String) (error : Text) : Log.Entry :=
  .detailed topic .debug (message ++ ": ") (String.ofList error) ""

/-- What comes of the request for a domain when the web answers it with `reply`. -/
def fetch (domain : Text) (reply : Reply γ) : Result γ :=
  let name := String.ofList (archiveDomain domain)
  let asked := note ("Querying DKIM archive for " ++ name)
  match reply with
  | .failed message =>
    ⟨[], some message,
      [asked, noteError ("DKIM archive request failed for " ++ name) message], none⟩
  | .refused status =>
    ⟨[], some ("HTTP ".toList ++ Text.ofInt status),
      [asked, note ("DKIM archive returned " ++ toString status ++ " for " ++ name)], none⟩
  | .unreadable message =>
    ⟨[], some message,
      [asked, noteError ("DKIM archive response parse error for " ++ name) message], none⟩
  | .broken error => ⟨[], none, [asked], some error⟩
  | .body (.list records) =>
    let selectors := selectorsOf records
    ⟨selectors, none, [asked, note ("DKIM archive knows " ++ toString selectors.length ++
      " selectors for " ++ name)], none⟩
  | .body _ => ⟨[], none, [asked], none⟩

end

end SelectorScan.Archive
