import SelectorScan.Text.Blank
import SelectorScan.Text.Lower
import SelectorScan.Text.Quoted
import SelectorScan.Number.Binary64
import SelectorScan.Lookup.Rotation
import SelectorScan.Log

/-!
# Settings

A scan's settings come from environment variables, and the command line overrides them. A variable
that is blank counts as missing, and one that cannot be read is ignored with a warning.
-/

namespace SelectorScan

open Lookup

structure Settings where
  quiet : Bool
  concurrency : Int
  retries : Int
  timeout : Timeout
  nameservers : List Text
deriving DecidableEq, Repr

/-- Settings to be changed. -/
structure Overrides where
  quiet : Option Bool
  concurrency : Option Int
  retries : Option Int
  timeout : Option Timeout
  nameservers : Option (List Text)
deriving DecidableEq, Repr

def Overrides.none : Overrides := ⟨.none, .none, .none, .none, .none⟩

namespace Settings

/-- The settings when nothing is asked for. -/
def standard : Settings where
  quiet := false
  concurrency := 2048
  retries := 3
  timeout := .standard
  nameservers := standardServers

def override (s : Settings) (o : Overrides) : Settings where
  quiet := o.quiet.getD s.quiet
  concurrency := o.concurrency.getD s.concurrency
  retries := o.retries.getD s.retries
  timeout := o.timeout.getD s.timeout
  nameservers := o.nameservers.getD s.nameservers

/-! ## Environment -/

abbrev Environment := List (Text × Text)

/-- The value of a variable without blanks around it; nothing when the variable is missing. -/
def variableText (env : Environment) (name : String) : Text :=
  Text.strip ((env.lookup name.toList).getD [])

def offWords : List Text :=
  ["0".toList, "false".toList, "no".toList, "off".toList]

/-- A flag: any value but the words for off switches it on. -/
def readFlag (env : Environment) (name : String) (standard : Bool) : Bool :=
  let value := Text.lower (variableText env name)
  if value.isEmpty then standard else !offWords.contains value

/-- A value read from a variable, or the standard one, with a warning if the variable is not what it
should be. -/
def readVariable {α : Type} (env : Environment) (name wanted : String)
    (read? : Text → Option α) (standard : α) : α × List Log.Entry :=
  let value := variableText env name
  if value.isEmpty then (standard, [])
  else
    match read? value with
    | some a => (a, [])
    | none =>
      (standard, [.plain "dkimscan.config" .warning
        ("Ignoring " ++ name ++ "=" ++ String.ofList (Text.quoted value) ++ ", expected " ++
          wanted)])

/-- A list whose items are separated by blanks or commas; an empty one is the standard list. -/
def readList (env : Environment) (name : String) (standard : List Text) : List Text :=
  let value := (env.lookup name.toList).getD []
  let items := Text.words (value.map fun c => if c = ',' then ' ' else c)
  if items.isEmpty then standard else items

/-- The settings in the environment, and the warnings about them. -/
def ofEnvironment (env : Environment) : Settings × List Log.Entry :=
  let (concurrency, w₁) :=
    readVariable env "DKIMSCAN_CONCURRENCY" "an integer" Number.readInt? standard.concurrency
  let (retries, w₂) :=
    readVariable env "DKIMSCAN_RETRIES" "an integer" Number.readInt? standard.retries
  let (timeout, w₃) :=
    readVariable env "DKIMSCAN_TIMEOUT" "a number"
      (fun t => (Number.Binary64.read? t).map Timeout.seconds) standard.timeout
  (⟨readFlag env "QUIET" standard.quiet, concurrency, retries, timeout,
    readList env "DKIMSCAN_NAMESERVERS" standard.nameservers⟩, w₁ ++ w₂ ++ w₃)

end Settings

end SelectorScan
