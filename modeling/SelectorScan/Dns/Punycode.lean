/-!
# Punycode

A sequence of code points in letters, digits and hyphens: first the basic characters, then, for the
others in ascending order, how far each is from the one before, counting every place it could
stand at. These distances are numbers in base 36 whose digits have thresholds that adapt to the
distances seen, so that runs of near code points stay short.
-/

namespace SelectorScan.Dns.Punycode

/-- The character for a digit: letters, then figures. -/
def digit (d : Nat) : Char :=
  if d < 26 then Char.ofNat (97 + d) else Char.ofNat (22 + d)

/-- The threshold of the digit at place `k` (36, 72, …). -/
def threshold (k bias : Nat) : Nat :=
  if k ≤ bias + 1 then 1 else if bias + 26 ≤ k then 26 else k - bias

theorem threshold_bounds (k bias : Nat) : 1 ≤ threshold k bias ∧ threshold k bias ≤ 26 := by
  unfold threshold
  split
  · omega
  · split <;> omega

/-- A distance in digits, from place `k` on. -/
def number (bias k q : Nat) : List Char :=
  let t := threshold k bias
  if q < t then [digit q]
  else digit (t + (q - t) % (36 - t)) :: number bias (k + 36) ((q - t) / (36 - t))
termination_by q
decreasing_by
  have := threshold_bounds k bias
  exact Nat.lt_of_le_of_lt (Nat.div_le_self _ _) (by omega)

/-- Divides a distance by 35 until it is at most 455, 36 being counted for each time. -/
def scaleDown (k delta : Nat) : Nat × Nat :=
  if delta ≤ 455 then (k, delta) else scaleDown (k + 36) (delta / 35)
termination_by delta
decreasing_by omega

/-- The bias after a distance, of `count` characters written. -/
def adapt (delta count : Nat) (first : Bool) : Nat :=
  let delta := if first then delta / 700 else delta / 2
  let (k, delta) := scaleDown 0 (delta + delta / count)
  k + 36 * delta / (delta + 38)

/-- How far writing has come. -/
structure State where
  delta : Nat
  bias : Nat
  /-- The characters written. -/
  count : Nat
  /-- The output, the last character first. -/
  output : List Char

/-- Passes over one character of the label while code point `n` is written. -/
def visit (basic n : Nat) (s : State) (code : Nat) : State :=
  if code < n then { s with delta := s.delta + 1 }
  else if code = n then
    ⟨0, adapt s.delta (s.count + 1) (s.count == basic), s.count + 1,
      (number s.bias 36 s.delta).reverse ++ s.output⟩
  else s

/-- Writes all occurrences of the code points in `pending`, the last one before which was
`n - 1`. -/
def writeAll (label : List Nat) (basic : Nat) (n : Nat) (s : State) : List Nat → State
  | [] => s
  | code :: pending =>
    let s := { s with delta := s.delta + (code - n) * (s.count + 1) }
    let s := label.foldl (visit basic code) s
    writeAll label basic (code + 1) { s with delta := s.delta + 1 } pending

/-- The text of a sequence of code points. -/
def encode (label : List Nat) : List Char :=
  let basic := (label.filter (· < 0x80)).map Char.ofNat
  let others := ((label.filter (0x80 ≤ ·)).mergeSort (· ≤ ·)).eraseDups
  let front := if basic.isEmpty then [] else basic ++ ['-']
  let s := writeAll label basic.length 0x80 ⟨0, 72, basic.length, []⟩ others
  front ++ s.output.reverse

end SelectorScan.Dns.Punycode
