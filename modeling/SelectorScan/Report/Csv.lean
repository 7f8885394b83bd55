import SelectorScan.Report.Fields

/-!
# Findings as comma separated values

A header line and a line for each finding. A cell that holds a comma, a quotation mark or a line end
is put in quotation marks, those in it written twice, so that a reader (`read`) finds the same cells
again whatever they hold.
-/

namespace SelectorScan.Report.Csv

open Key

/-! ## Writing -/

def mark : Char := '\x22'

/-- Whether a character may not stand in a plain cell. -/
def needsMarks (c : Char) : Bool :=
  c = ',' || c = mark || c = '\r' || c = '\n'

/-- A text with its quotation marks written twice. -/
def double (t : Text) : Text :=
  t.flatMap fun c => if c = mark then [mark, mark] else [c]

def cell (t : Text) : Text :=
  if t.any needsMarks then mark :: double t ++ [mark] else t

def line (cells : List Text) : Text :=
  Text.join [','] (cells.map cell) ++ ['\r', '\n']

def write (rows : List (List Text)) : Text :=
  rows.flatMap line

/-- The rows of a file of findings: the names of the fields and the values of each finding. -/
def rows (findings : List Finding) : List (List Text) :=
  fieldNames.map String.toList :: findings.map fun f => (values f).map Value.toText

/-- The file of findings; none is written when there are none. -/
def file? (findings : List Finding) : Option Text :=
  if findings.isEmpty then none else some (write (rows findings))

/-! ## Reading -/

/-- Where a reader stands in a cell. -/
inductive Place where
  /-- In front of its first character. -/
  | front
  /-- In a cell without quotation marks. -/
  | plain
  /-- Between quotation marks. -/
  | quoted
  /-- Behind a quotation mark that closes the cell, unless another one follows. -/
  | closed
deriving DecidableEq, Repr

/-- The cell that a reader has read in a place, and the cells before it, as a row. -/
def finishRow (cell : Text) (cells : List Text) : List Text :=
  (cell.reverse :: cells).reverse

/-- Reads rows behind the characters `cell` of the current cell and the cells before it in its row
(the latest first). A line feed ends a row, and so does a carriage return with a line feed. -/
def readFrom (place : Place) (cell : Text) (cells : List Text) : Text → List (List Text)
  | [] => if place = .front ∧ cells.isEmpty then [] else [finishRow cell cells]
  | c :: rest =>
    if place = .quoted then
      if c = mark then readFrom .closed cell cells rest else readFrom .quoted (c :: cell) cells rest
    else if c = mark ∧ place = .front then readFrom .quoted cell cells rest
    else if c = mark ∧ place = .closed then readFrom .quoted (c :: cell) cells rest
    else if c = ',' then readFrom .front [] (cell.reverse :: cells) rest
    else if c = '\n' then finishRow cell cells :: readFrom .front [] [] rest
    else if c = '\r' ∧ rest.head? = some '\n' then readFrom .plain cell cells rest
    else readFrom .plain (c :: cell) cells rest

def read (t : Text) : List (List Text) :=
  readFrom .front [] [] t

end SelectorScan.Report.Csv
