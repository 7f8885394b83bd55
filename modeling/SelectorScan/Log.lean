/-!
# Log entries

What a run has to say besides its result. Entries are values: whoever runs the program decides
from their level which of them are shown. A detail that comes from elsewhere, such as the text of an
error, is kept apart, so that an entry can also be shown with three dots in its place.
-/

namespace SelectorScan.Log

/-- How serious an entry is. -/
inductive Level where
  | debug
  | info
  | warning
  | error
deriving DecidableEq, Repr

/-- The rank of a level, the most serious last. -/
def Level.rank : Level → Nat
  | .debug => 0
  | .info => 1
  | .warning => 2
  | .error => 3

def Level.name : Level → String
  | .debug => "DEBUG"
  | .info => "INFO"
  | .warning => "WARNING"
  | .error => "ERROR"

/-- One entry: the part of the program that speaks, how serious it is, and what it says. -/
structure Entry where
  topic : String
  level : Level
  /-- What it says, with three dots in the place of a detail. -/
  message : String
  /-- What it says in full. -/
  text : String
deriving DecidableEq, Repr

def Entry.plain (topic : String) (level : Level) (message : String) : Entry :=
  ⟨topic, level, message, message⟩

/-- An entry with a detail between what stands in front of it and behind it. -/
def Entry.detailed (topic : String) (level : Level) (front detail back : String) : Entry :=
  ⟨topic, level, front ++ "..." ++ back, front ++ detail ++ back⟩

def atLeast (level : Level) (entries : List Entry) : List Entry :=
  entries.filter fun e => level.rank ≤ e.level.rank

end SelectorScan.Log
