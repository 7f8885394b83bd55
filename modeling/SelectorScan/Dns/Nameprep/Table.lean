/-!
# Tables of code points

The tables of nameprep are sequences of rows in ascending order of code points. A row is written in
hexadecimal as a code point, or as the first and the last of a run with a hyphen between them and
an optional slash and distance, followed by its values: `A0 20`, `41-5A 61`, `100-12E/2 101`. In a
run the value of the first code point is given, and the others lie at the same distance.
-/

namespace SelectorScan.Dns.Nameprep

structure Row where
  first : Nat
  last : Nat
  step : Nat
  values : List Nat
deriving DecidableEq, Repr, Inhabited

abbrev Table := Array Row

/-- The number in hexadecimal digits. -/
def ofHex (t : List Char) : Nat :=
  t.foldl (fun n c => n * 16 + (if c.isDigit then c.toNat - 48 else c.toNat - 55)) 0

/-- The parts of a text between separators. -/
def parts (sep : Char) : List Char → List (List Char)
  | [] => [[]]
  | c :: rest =>
    if c = sep then [] :: parts sep rest
    else
      match parts sep rest with
      | [] => [[c]]
      | part :: more => (c :: part) :: more

/-- The first and the last code point and the distance of a run. -/
def Row.ofKey (key : List Char) (values : List Nat) : Row :=
  match parts '-' key with
  | [first, rest] =>
    match parts '/' rest with
    | [last, step] => ⟨ofHex first, ofHex last, ofHex step, values⟩
    | _ => ⟨ofHex first, ofHex rest, 1, values⟩
  | _ => ⟨ofHex key, ofHex key, 1, values⟩

def Row.read (t : List Char) : Row :=
  match parts ' ' t with
  | [] => ⟨0, 0, 1, []⟩
  | key :: values => Row.ofKey key (values.map ofHex)

namespace Table

/-- The table whose rows stand in the texts, with semicolons between them. -/
def ofRows (texts : List String) : Table :=
  (texts.flatMap fun t => (parts ';' t.toList).map Row.read).toArray

/-- How many of the rows from `low` up to `high` begin at or before a code point, counted from the
start of the table. -/
def countUpTo (t : Table) (code low high : Nat) : Nat :=
  if _h : low < high then
    let middle := (low + high) / 2
    match t[middle]? with
    | none => low
    | some row =>
      if row.first ≤ code then countUpTo t code (middle + 1) high
      else countUpTo t code low middle
  else low
termination_by high - low

def row? (t : Table) (code : Nat) : Option Row :=
  match countUpTo t code 0 t.size with
  | 0 => none
  | n + 1 => (t[n]?).filter fun row => code ≤ row.last && (code - row.first) % row.step == 0

/-- The values of a code point: those of its row, moved along the run. -/
def values? (t : Table) (code : Nat) : Option (List Nat) :=
  (t.row? code).map fun row => row.values.map (· + (code - row.first))

def contains (t : Table) (code : Nat) : Bool :=
  (t.row? code).isSome

end Table

end SelectorScan.Dns.Nameprep
