import SelectorScan.Text
import SelectorScan.Text.Blank
import SelectorScan.Text.Digit
import SelectorScan.Number.Integer

/-!
# Binary floating point in text

A binary number with a mantissa of 53 bits and an exponent from -1074 to 971, kept as a whole
number times a power of two. Decimal text is read by rounding its exact value to the nearest such
number, a tie to the even mantissa (`roundQuotient`). A number is written with the fewest digits
that read back as the same number, and of those the nearest ones (`shortest`).
-/

namespace SelectorScan.Number

open Text

/-- A binary number: `±mantissa * 2 ^ exponent`, an infinity, or not a number. -/
inductive Binary64 where
  | finite (negative : Bool) (mantissa : Nat) (exponent : Int)
  | infinite (negative : Bool)
  | notANumber
deriving DecidableEq, Repr

namespace Binary64

/-! ## Rounding -/

def minExponent : Int := -1074

def maxExponent : Int := 971

/-- Numerator and denominator of `num / den * base ^ -e`. -/
def scale (base : Nat) (num den : Nat) (e : Int) : Nat × Nat :=
  if e < 0 then (num * Nat.pow base e.natAbs, den) else (num, den * Nat.pow base e.natAbs)

/-- The greatest `k` with `base ^ k ≤ num / den`, where the quotient lies between
`base ^ (guess - 1)` and `base ^ (guess + 1)`. -/
def floorLog (base num den : Nat) (guess : Int) : Int :=
  let (n, d) := scale base num den guess
  if d ≤ n then guess else guess - 1

/-- The whole number nearest to `num / den`, a tie to the even one. -/
def roundHalfEven (num den : Nat) : Nat :=
  let q := num / den
  let r := num % den
  if 2 * r < den then q
  else if den < 2 * r then q + 1
  else q + q % 2

/-- The binary number nearest to `±num / den`. -/
def roundQuotient (negative : Bool) (num den : Nat) : Binary64 :=
  if num = 0 then finite negative 0 minExponent
  else
    let top := floorLog 2 num den ((num.log2 : Int) - den.log2)
    let e := max minExponent (top - 52)
    let (n, d) := scale 2 num den e
    let m := roundHalfEven n d
    let (m, e) := if m = Nat.pow 2 53 then (Nat.pow 2 52, e + 1) else (m, e)
    if e > maxExponent then infinite negative else finite negative m e

/-- The binary number nearest to `±mantissa * 10 ^ exponent`. A value outside
`10 ^ -400 … 10 ^ 400` is settled by its size alone. -/
def ofDecimal (negative : Bool) (mantissa : Nat) (exponent : Int) : Binary64 :=
  let size : Int := (ofNat mantissa).length + exponent
  if mantissa = 0 then finite negative 0 minExponent
  else if size > 400 then infinite negative
  else if size < -400 then finite negative 0 minExponent
  else if exponent < 0 then roundQuotient negative mantissa (Nat.pow 10 exponent.natAbs)
  else roundQuotient negative (mantissa * Nat.pow 10 exponent.natAbs) 1

/-- The numerator and the denominator of a finite number's size. -/
def quotient (mantissa : Nat) (exponent : Int) : Nat × Nat :=
  if exponent < 0 then (mantissa, Nat.pow 2 exponent.natAbs)
  else (mantissa * Nat.pow 2 exponent.natAbs, 1)

/-- The integer a finite number is equal to, if there is one. -/
def toInt? : Binary64 → Option Int
  | finite negative m e =>
    let (num, den) := quotient m e
    if num % den = 0 then some (if negative then -((num / den : Nat) : Int) else (num / den : Nat))
    else none
  | _ => none

/-! ## Reading -/

/-- Takes away underscores between two digits; `none` when one stands elsewhere. -/
def dropUnderscores (afterDigit : Bool) : Text → Option Text
  | [] => some []
  | c :: rest =>
    if c = '_' then
      match rest with
      | next :: _ => if afterDigit && isDigit next then dropUnderscores false rest else none
      | [] => none
    else (dropUnderscores (isDigit c) rest).map (c :: ·)

/-- The leading digits of a text and what follows them. -/
def spanDigits : Text → List Nat × Text
  | [] => ([], [])
  | c :: rest =>
    match digit? c with
    | some d => ((spanDigits rest).1.cons d, (spanDigits rest).2)
    | none => ([], c :: rest)

def spanSign : Text → Bool × Text
  | '-' :: rest => (true, rest)
  | '+' :: rest => (false, rest)
  | rest => (false, rest)

/-- An exponent: nothing, or the letter e, a sign and digits. -/
def readExponent? : Text → Option Int
  | [] => some 0
  | c :: rest =>
    if c = 'e' ∨ c = 'E' then
      let (negative, rest) := spanSign rest
      match spanDigits rest with
      | ([], _) => none
      | (ds, []) => some (if negative then -(ofDigits ds : Int) else ofDigits ds)
      | (_, _ :: _) => none
    else none

/-- Digits with an optional point, at least one digit, and an optional exponent. -/
def readDecimal? (negative : Bool) (t : Text) : Option Binary64 :=
  let (whole, rest) := spanDigits t
  let (fraction, rest) :=
    match rest with
    | '.' :: rest => spanDigits rest
    | rest => ([], rest)
  if whole.isEmpty && fraction.isEmpty then none
  else
    (readExponent? rest).map fun e =>
      ofDecimal negative (ofDigits (whole ++ fraction)) (e - fraction.length)

/-- A number in decimal text, or one of the words `inf`, `infinity` and `nan` in any case. -/
def read? (t : Text) : Option Binary64 :=
  let (negative, rest) := spanSign (trim isMargin t)
  let word := rest.map Char.toLower
  if word = ['i', 'n', 'f'] ∨ word = ['i', 'n', 'f', 'i', 'n', 'i', 't', 'y'] then
    some (infinite negative)
  else if word = ['n', 'a', 'n'] then some notANumber
  else (dropUnderscores false rest).bind (readDecimal? negative)

/-! ## Writing -/

/-- Decimal digits and an exponent: the value is `0.d₁d₂… * 10 ^ point`. -/
structure Digits where
  digits : Text
  point : Int
deriving DecidableEq, Repr

/-- The nearer of the two neighbours of `num / den` on the grid of `10 ^ e` that read back as
`value`. -/
def gridPoint? (value : Binary64) (num den : Nat) (e : Int) : Option Nat :=
  let (n, d) := scale 10 num den e
  let low := n / d
  let reads (k : Nat) : Bool := ofDecimal false k e == value
  match reads low, reads (low + 1) with
  | true, true => some (roundHalfEven n d)
  | true, false => some low
  | false, true => some (low + 1)
  | false, false => none

/-- The first grid, from coarse to fine, with a point that reads back. -/
def shortestFrom (value : Binary64) (num den : Nat) (top : Int) : Nat → Nat → Digits
  | 0, n =>
    let (a, b) := scale 10 num den (top - n)
    ⟨ofNat (roundHalfEven a b), top + 1⟩
  | more + 1, n =>
    match gridPoint? value num den (top - n) with
    | some k => ⟨trimEnd (· == '0') (ofNat k), (ofNat k).length + (top - n)⟩
    | none => shortestFrom value num den top more (n + 1)

/-- The fewest digits that read back as `mantissa * 2 ^ exponent`. -/
def shortest (mantissa : Nat) (exponent : Int) : Digits :=
  if mantissa = 0 then ⟨['0'], 1⟩
  else
    let (num, den) := quotient mantissa exponent
    let guess : Int := ((ofNat num).length : Int) - (ofNat den).length
    shortestFrom (finite false mantissa exponent) num den (floorLog 10 num den guess) 17 0

/-- Digits with a point among them from `10 ^ -4` up to `10 ^ 16`, with an exponent of at least two
digits elsewhere. -/
def layOut (d : Digits) : Text :=
  let n : Int := d.digits.length
  if -4 < d.point ∧ d.point ≤ 16 then
    if d.point ≤ 0 then ['0', '.'] ++ List.replicate d.point.natAbs '0' ++ d.digits
    else if n ≤ d.point then
      d.digits ++ List.replicate (d.point - n).natAbs '0' ++ ['.', '0']
    else d.digits.take d.point.natAbs ++ '.' :: d.digits.drop d.point.natAbs
  else
    let e := d.point - 1
    let fraction := d.digits.drop 1
    d.digits.take 1 ++ (if fraction.isEmpty then [] else '.' :: fraction) ++
      'e' :: (if e < 0 then '-' else '+') :: padZeros 2 (ofNat e.natAbs)

def write : Binary64 → Text
  | finite negative m e => (if negative then ['-'] else []) ++ layOut (shortest m e)
  | infinite negative => (if negative then ['-'] else []) ++ ['i', 'n', 'f']
  | notANumber => ['n', 'a', 'n']

/-! ## Writing with a fixed number of digits -/

/-- The `count` leading digits of `mantissa * 2 ^ exponent`, correctly rounded, without zeros at the
end. -/
def leading (count mantissa : Nat) (exponent : Int) : Digits :=
  if mantissa = 0 then ⟨['0'], 1⟩
  else
    let (num, den) := quotient mantissa exponent
    let top := floorLog 10 num den (((ofNat num).length : Int) - (ofNat den).length)
    let (n, d) := scale 10 num den (top + 1 - count)
    let k := ofNat (roundHalfEven n d)
    ⟨trimEnd (· == '0') k, k.length + (top + 1 - count)⟩

/-- Lays digits out like `layOut` below `10 ^ 16`, but without a fraction when there is none. -/
def layOutPlain (d : Digits) : Text :=
  if 0 < d.point ∧ d.point ≤ 16 ∧ (d.digits.length : Int) ≤ d.point then
    d.digits ++ List.replicate (d.point - d.digits.length).natAbs '0'
  else layOut d

/-- The text of a number in 16 digits at most. -/
def writePlain : Binary64 → Text
  | finite negative m e => (if negative then ['-'] else []) ++ layOutPlain (leading 16 m e)
  | x => x.write

end Binary64

end SelectorScan.Number
