import SelectorScan.Text
import SelectorScan.Text.Blank
import SelectorScan.Text.Digit

/-!
# Integers in text

An integer is written with an optional sign and decimal digits of any script; single underscores
may stand between digits, blanks around the whole. No integer has more than `maxDigits` digits,
leading zeros included, neither when it is read nor when it is written.
-/

namespace SelectorScan.Number

open Text

/-! ## Algorithm -/

/-- The most digits an integer in text may have. -/
def maxDigits : Nat := 4300

/-- The blanks that may surround a number: all but the separators U+001C to U+001F. -/
def isMargin (c : Char) : Bool :=
  isBlank c && !(0x1C ≤ c.toNat && c.toNat ≤ 0x1F)

/-- The values of digits with at most one underscore between neighbours. -/
def readDigits? : Text → Option (List Nat)
  | [] => none
  | c :: rest =>
    (digit? c).bind fun d =>
      match rest with
      | [] => some [d]
      | '_' :: rest => (readDigits? rest).map (d :: ·)
      | rest => (readDigits? rest).map (d :: ·)

/-- The number with the given digits, the most significant first. -/
def ofDigits (ds : List Nat) : Nat :=
  ds.foldl (fun n d => 10 * n + d) 0

/-- A natural number without sign or margin. -/
def readNat? (t : Text) : Option Nat :=
  (readDigits? t).bind fun ds => if ds.length ≤ maxDigits then some (ofDigits ds) else none

/-- An integer. -/
def readInt? (t : Text) : Option Int :=
  match trim isMargin t with
  | '-' :: rest => (readNat? rest).map fun n => -(n : Int)
  | '+' :: rest => (readNat? rest).map Int.ofNat
  | rest => (readNat? rest).map Int.ofNat

/-- An integer in decimal, with zeros behind the sign up to `width` characters; a width of zero
asks for none. -/
def writeInt (width : Nat) (i : Int) : Text :=
  if i < 0 then '-' :: padZeros (width - 1) (ofNat i.natAbs) else padZeros width (ofNat i.natAbs)

/-- An integer in decimal, if it has few enough digits to be written. -/
def writeInt? (width : Nat) (i : Int) : Option Text :=
  if (ofNat i.natAbs).length ≤ maxDigits then some (writeInt width i) else none

end SelectorScan.Number
