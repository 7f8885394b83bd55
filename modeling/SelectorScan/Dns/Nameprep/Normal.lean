import SelectorScan.Dns.Nameprep.Decomposition
import SelectorScan.Dns.Nameprep.Composition
import SelectorScan.Dns.Nameprep.CombiningClass

/-!
# Compatibility normal form

Normalization takes every character apart into its parts, sorts the marks behind each character by
class, and puts together what makes a single character. Hangul syllables follow a formula and stand
in no table.
-/

namespace SelectorScan.Dns.Nameprep

/-! ## Hangul -/

/-- The first syllable, leading consonant, vowel, and the code point before the trailing consonants,
and how many there are of vowels and trailing consonants (with none). -/
def syllableBase : Nat := 0xAC00

@[inherit_doc syllableBase]
def leadBase : Nat := 0x1100

@[inherit_doc syllableBase]
def vowelBase : Nat := 0x1161

@[inherit_doc syllableBase]
def trailBase : Nat := 0x11A7

@[inherit_doc syllableBase]
def vowelCount : Nat := 21

@[inherit_doc syllableBase]
def trailCount : Nat := 28

def syllableCount : Nat := 11172

def syllableParts? (code : Nat) : Option (List Nat) :=
  if syllableBase ≤ code ∧ code < syllableBase + syllableCount then
    let i := code - syllableBase
    let trail := i % trailCount
    some ([leadBase + i / (vowelCount * trailCount), vowelBase + i % (vowelCount * trailCount) /
      trailCount] ++ (if trail = 0 then [] else [trailBase + trail]))
  else none

def syllable? (first second : Nat) : Option Nat :=
  if leadBase ≤ first ∧ first < leadBase + 19 ∧ vowelBase ≤ second ∧
      second < vowelBase + vowelCount then
    some (syllableBase + ((first - leadBase) * vowelCount + (second - vowelBase)) * trailCount)
  else if syllableBase ≤ first ∧ first < syllableBase + syllableCount ∧
      (first - syllableBase) % trailCount = 0 ∧ trailBase < second ∧
      second < trailBase + trailCount then
    some (first + (second - trailBase))
  else none

/-! ## The three steps -/

def decompose (code : Nat) : List Nat :=
  if code < 0x80 then [code]
  else (syllableParts? code).getD ((decompositionTable.values? code).getD [code])

/-- The class of a mark; zero for any other character. -/
def combiningClass (code : Nat) : Nat :=
  if code < 0x300 then 0
  else ((combiningClassTable.row? code).bind fun row => row.values.head?).getD 0

/-- Sorts the marks behind each character by class, those of one class in the order they have. -/
def sortMarks : List Nat → List Nat
  | [] => []
  | code :: rest =>
    let marks := (code :: rest).takeWhile fun c => combiningClass c != 0
    if marks.isEmpty then code :: sortMarks rest
    else
      (marks.mergeSort fun a b => combiningClass a ≤ combiningClass b) ++
        sortMarks (rest.drop (marks.length - 1))
termination_by codes => codes.length
decreasing_by
  · simp
  · simp only [List.length_drop, List.length_cons]
    omega

/-- The character that two characters make. -/
def compose? (first second : Nat) : Option Nat :=
  (syllable? first second).or
    (if second < 0x300 then none
     else (compositionTable.values? (first * 0x200000 + second)).bind List.head?)

/-- Puts characters together: `base` takes in each later character that is not shut off from it by
a mark of the same or a higher class among `marks` (the latest first). -/
def composeFrom (base : Nat) (marks : List Nat) : List Nat → List Nat
  | [] => base :: marks.reverse
  | code :: rest =>
    let open? := marks.head?.all fun mark => combiningClass mark < combiningClass code
    match (if open? then compose? base code else none) with
    | some whole => composeFrom whole marks rest
    | none =>
      if combiningClass code = 0 then base :: marks.reverse ++ composeFrom code [] rest
      else composeFrom base (code :: marks) rest

def compose : List Nat → List Nat
  | [] => []
  | code :: rest => composeFrom code [] rest

/-- The normal form of a sequence of characters. -/
def normalize (codes : List Nat) : List Nat :=
  compose (sortMarks (codes.flatMap decompose))

end SelectorScan.Dns.Nameprep
