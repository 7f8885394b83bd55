import SelectorScan.Number.Binary64
import SelectorScan.Report.Fields

/-!
# Findings as a spreadsheet

A sheet has a header row and a row for each finding. Findings are added to a sheet that exists by
reading it and writing it anew, and a column that is read takes the kind that fits all its cells:
a column of texts that are all numbers becomes a column of numbers, one of truth words a column of
truth values, and the words for a missing value become empty cells. Numbers are kept in 16 digits.

Limits of the libraries are left out. A column that holds a whole number from `2 ^ 63` on beside a
missing value is not changed when it is read, where `readColumn` gives numbers; and the writer cuts
texts behind 32767 characters and refuses control characters other than the tab, the line feed and
the carriage return, where `Cell.ofText` keeps every text.
-/

namespace SelectorScan.Report.Sheet

open Key Number

/-! ## Cells -/

/-- A cell; a number is kept as it is written. -/
inductive Cell where
  | empty
  | text (t : Text)
  | number (digits : Text)
  | truth (value : Bool)
deriving DecidableEq, Repr

abbrev Rows := List (List Cell)

/-- The cell of a floating point number; infinities are written as words. -/
def Cell.ofReal (x : Binary64) : Cell :=
  match x with
  | .finite .. => .number x.writePlain
  | .infinite negative => .text (if negative then "-inf".toList else "inf".toList)
  | .notANumber => .empty

/-- The floating point number nearest to an integer. -/
def realOfInt (i : Int) : Binary64 :=
  Binary64.roundQuotient (i < 0) i.natAbs 1

/-- The cell of a text; an empty one is an empty cell. -/
def Cell.ofText (t : Text) : Cell :=
  if t.isEmpty then .empty else .text t

def Cell.ofValue : Value → Cell
  | .text t => .ofText t
  | .number n => .ofReal (realOfInt n)

def header : List Cell :=
  fieldNames.map fun name => .text name.toList

def row (f : Finding) : List Cell :=
  (values f).map Cell.ofValue

/-- A new sheet; without findings it has no rows at all. -/
def ofFindings (findings : List Finding) : Rows :=
  if findings.isEmpty then [] else header :: findings.map row

/-! ## Reading a column -/

def missingWords : List Text :=
  ["-1.#IND", "1.#QNAN", "1.#IND", "-1.#QNAN", "#N/A N/A", "#N/A", "N/A", "n/a", "NA", "<NA>",
    "#NA", "NULL", "null", "NaN", "-NaN", "nan", "-nan", "None"].map String.toList

/-- The words that a cell of an erroneous formula shows. -/
def errorWords : List Text :=
  ["#NULL!", "#DIV/0!", "#VALUE!", "#REF!", "#NAME?", "#NUM!", "#N/A"].map String.toList

/-- Whether a text in a cell is taken for a formula. -/
def isFormula : Text → Bool
  | '=' :: _ :: _ => true
  | _ => false

/-- Whether a cell has no value when it is read. -/
def Cell.isMissing : Cell → Bool
  | .empty => true
  | .text t => missingWords.contains t || errorWords.contains t || isFormula t
  | _ => false

/-- A number that is read: a whole one or any other. -/
inductive Quantity where
  | whole (i : Int)
  | real (x : Binary64)
deriving DecidableEq, Repr

/-- A floating point number as a quantity. -/
def Quantity.ofReal (x : Binary64) : Quantity :=
  match x.toInt? with
  | some i => .whole i
  | none => .real x

/-- The blanks that may surround a number in a cell. -/
def isCellMargin (c : Char) : Bool :=
  c = ' ' || (9 ≤ c.toNat && c.toNat ≤ 13)

/-- Whether a text is a word for an infinity, with or without a sign. -/
def isInfinity (t : Text) : Bool :=
  let word := (Binary64.spanSign t).2.map Char.toLower
  word = "inf".toList || word = "infinity".toList

/-- The number that a text is, in ASCII digits and without underscores. An infinity is written as a
word without blanks around it; a number that is too large for a floating point number is none. -/
def quantityOfText? (given : Text) : Option Quantity :=
  let t := Text.trim isCellMargin given
  if t.any fun c => c = '_' || 0x80 ≤ c.toNat then none
  else
    match readInt? t with
    | some i => some (.whole i)
    | none =>
      match Binary64.read? t with
      | none => none
      | some .notANumber => none
      | some (.infinite negative) =>
        if isInfinity given then some (.real (.infinite negative)) else none
      | some (.finite negative m e) => some (.real (.finite negative m e))

def Cell.quantity? : Cell → Option Quantity
  | .text t => quantityOfText? t
  | .number digits => (Binary64.read? digits).map Quantity.ofReal
  | _ => none

def Cell.truth? : Cell → Option Bool
  | .truth b => some b
  | .text t =>
    if t = "True".toList ∨ t = "TRUE".toList ∨ t = "true".toList then some true
    else if t = "False".toList ∨ t = "FALSE".toList ∨ t = "false".toList then some false
    else none
  | _ => none

def Quantity.whole? : Quantity → Option Int
  | .whole i => some i
  | .real _ => none

/-- A quantity as a floating point number. -/
def Quantity.toReal : Quantity → Binary64
  | .whole i => realOfInt i
  | .real x => x

/-- How many natural numbers 63 bits hold. -/
def halfRange : Int := 0x8000000000000000

/-- Whether whole numbers fit into 64 bits together, with a sign or without one. -/
def fit (wholes : List Int) : Bool :=
  wholes.all (fun i => -halfRange ≤ i && i < 2 * halfRange) &&
    (wholes.all (fun i => i < halfRange) || wholes.all (fun i => 0 ≤ i))

/-- A cell with a missing value made empty. -/
def Cell.cleared (c : Cell) : Cell :=
  if c.isMissing then .empty else c

/-- The cells of a column as numbers, if all that have a value are numbers which fit. -/
def numbers? (column : List Cell) : Option (List Cell) :=
  let present := column.filter fun c => !c.isMissing
  match present.mapM Cell.quantity? with
  | none => none
  | some quantities =>
    if fit (quantities.filterMap Quantity.whole?) then
      some (column.map fun c =>
        if c.isMissing then .empty
        else
          match c.quantity? with
          | some q => .ofReal q.toReal
          | none => c)
    else none

/-- The cells of a column as truth values, if all that have a value are words for them. -/
def truths? (column : List Cell) : Option (List Cell) :=
  if column.all fun c => c.isMissing || c.truth?.isSome then
    some (column.map fun c =>
      if c.isMissing then .empty
      else
        match c.truth? with
        | some b => .truth b
        | none => c)
  else none

def readColumn (column : List Cell) : List Cell :=
  (numbers? column).getD ((truths? column).getD (column.map Cell.cleared))

/-! ## Adding to a sheet -/

def columnAt (rows : List (List Cell)) (i : Nat) : List Cell :=
  rows.map fun r => r.getD i .empty

def readRows (rows : List (List Cell)) : List (List Cell) :=
  let columns := (List.range fieldNames.length).map fun i => readColumn (columnAt rows i)
  (List.range rows.length).map fun k => columns.map fun column => column.getD k .empty

/-- The sheet with more findings behind those it has. -/
def append (sheet : Rows) (findings : List Finding) : Rows :=
  match sheet with
  | [] => ofFindings findings
  | header :: rows => header :: readRows rows ++ findings.map row

/-- Writes findings to a sheet, which may not exist yet. -/
def write (sheet : Option Rows) (findings : List Finding) : Rows :=
  match sheet with
  | none => ofFindings findings
  | some sheet => append sheet findings

end SelectorScan.Report.Sheet
