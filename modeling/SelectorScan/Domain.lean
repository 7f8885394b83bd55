import SelectorScan.Text

/-!
# Domains

The target of a scan: a domain and its labels, left to right. A label is selected by an index
counted from 1 at the left or from -1 at the right; an index out of range selects the nearest
label.
-/

namespace SelectorScan

/-- A domain as it is written. -/
structure Domain where
  text : Text
deriving DecidableEq, Repr

namespace Domain

/-- The labels between the dots, of which there is at least one. -/
def labels (d : Domain) : List Text :=
  Text.split '.' d.text

/-- The position that an index stands for among `count` labels: from 0 at the left, or negative
and counted from behind the last label. -/
def position (count : Nat) (index : Int) : Int :=
  max (min (if index > 0 then index - 1 else index) (count - 1)) (-count)

/-- The label at a position, a negative one counted from behind. -/
def labelAt (d : Domain) (p : Int) : Text :=
  let i := if p < 0 then p + d.labels.length else p
  d.labels.getD i.toNat []

/-- The label at a position, if the domain has one there. -/
def labelAt? (d : Domain) (p : Int) : Option Text :=
  let i := if p < 0 then p + d.labels.length else p
  if i < 0 then none else d.labels[i.toNat]?

def label (d : Domain) (index : Int) : Text :=
  d.labelAt (position d.labels.length index)

/-- The positions from `first` up to `last`. -/
def positions (first last : Int) : List Int :=
  (List.range (last - first + 1).toNat).map fun k => first + (k : Nat)

/-- The labels from one index up to another, joined with dots. Positions count upward, so that a
run which crosses from negative positions to others starts over at the left. -/
def slice (d : Domain) (first last : Int) : Text :=
  let count := d.labels.length
  Text.join ['.'] ((positions (position count first) (position count last)).map d.labelAt)

theorem labels_ne_nil (d : Domain) : d.labels ≠ [] :=
  Text.split_ne_nil '.' d.text

end Domain

end SelectorScan
