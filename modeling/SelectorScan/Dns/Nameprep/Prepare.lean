import SelectorScan.Dns.Nameprep.Mapping
import SelectorScan.Dns.Nameprep.Normal
import SelectorScan.Dns.Nameprep.Prohibited
import SelectorScan.Dns.Nameprep.Direction

/-!
# Preparing a label

Labels that look or mean the same are made equal before they are looked up: characters are mapped
to small letters, the label is normalized, and it is refused if it then holds a prohibited
character or mixes writing directions.
-/

namespace SelectorScan.Dns.Nameprep

/-- What becomes of a character before normalization. -/
def mapped (code : Nat) : List Nat :=
  (mappingTable.values? code).getD [code]

/-- Whether a label with characters written from right to left begins and ends with one of them
and has none written from left to right. -/
def directionsAgree (codes : List Nat) : Bool :=
  if codes.any rightToLeftTable.contains then
    !codes.any leftToRightTable.contains &&
      codes.head?.any rightToLeftTable.contains && codes.getLast?.any rightToLeftTable.contains
  else true

def prepare? (label : List Nat) : Option (List Nat) :=
  let codes := normalize (label.flatMap mapped)
  if codes.any prohibitedTable.contains || !directionsAgree codes then none else some codes

end SelectorScan.Dns.Nameprep
