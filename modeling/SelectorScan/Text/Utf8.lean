import SelectorScan.Text

/-!
# UTF-8

Texts as bytes. `decodeUnits` reads bytes into characters and faults, one fault for each maximal
part of a sequence that could have been continued but is not; a strict reader refuses faults, a
lenient one puts U+FFFD in their place.
-/

namespace SelectorScan.Text.Utf8

/-! ## Algorithm -/

def encodeChar (c : Char) : List UInt8 :=
  let n := c.toNat
  if n < 0x80 then [n.toUInt8]
  else if n < 0x800 then [(0xC0 + n / 64).toUInt8, (0x80 + n % 64).toUInt8]
  else if n < 0x10000 then
    [(0xE0 + n / 4096).toUInt8, (0x80 + n / 64 % 64).toUInt8, (0x80 + n % 64).toUInt8]
  else
    [(0xF0 + n / 262144).toUInt8, (0x80 + n / 4096 % 64).toUInt8, (0x80 + n / 64 % 64).toUInt8,
      (0x80 + n % 64).toUInt8]

def encode (t : Text) : List UInt8 :=
  t.flatMap encodeChar

/-- What a first byte announces: how many bytes follow, the value of its own bits, and the bounds
of the second byte, which leave out overlong forms, surrogates and what lies above U+10FFFF. -/
structure Lead where
  following : Nat
  bits : Nat
  low : Nat
  high : Nat

/-- The announcement of a first byte above 0x7F, if it is one. -/
def lead? (b : Nat) : Option Lead :=
  if b < 0xC2 then none
  else if b < 0xE0 then some ⟨1, b - 0xC0, 0x80, 0xBF⟩
  else if b = 0xE0 then some ⟨2, 0, 0xA0, 0xBF⟩
  else if b = 0xED then some ⟨2, 0xD, 0x80, 0x9F⟩
  else if b < 0xF0 then some ⟨2, b - 0xE0, 0x80, 0xBF⟩
  else if b = 0xF0 then some ⟨3, 0, 0x90, 0xBF⟩
  else if b < 0xF4 then some ⟨3, b - 0xF0, 0x80, 0xBF⟩
  else if b = 0xF4 then some ⟨3, 4, 0x80, 0x8F⟩
  else none

/-- Reads `following` more bytes, the next one within the bounds, and gives the code point, or
`none` at the first byte that does not fit; that byte is not consumed. -/
def follow (following bits low high : Nat) (bytes : List UInt8) :
    Option Nat × List UInt8 :=
  match following, bytes with
  | 0, bytes => (some bits, bytes)
  | _ + 1, [] => (none, [])
  | n + 1, b :: rest =>
    if low ≤ b.toNat ∧ b.toNat ≤ high then follow n (bits * 64 + (b.toNat - 0x80)) 0x80 0xBF rest
    else (none, b :: rest)

theorem follow_length_le (n bits low high : Nat) (bytes : List UInt8) :
    (follow n bits low high bytes).2.length ≤ bytes.length := by
  fun_induction follow n bits low high bytes with
  | case1 => exact Nat.le_refl _
  | case2 => exact Nat.le_refl _
  | case3 _ _ _ _ _ _ _ ih => exact Nat.le_trans ih (Nat.le_succ _)
  | case4 => exact Nat.le_refl _

/-- One character, or `none` for a maximal invalid part, and the bytes behind it. -/
def decodeUnit (b : UInt8) (rest : List UInt8) : Option Char × List UInt8 :=
  if b.toNat < 0x80 then (some (Char.ofNat b.toNat), rest)
  else
    match lead? b.toNat with
    | none => (none, rest)
    | some l =>
      let read := follow l.following l.bits l.low l.high rest
      (read.1.map Char.ofNat, read.2)

theorem decodeUnit_length_le (b : UInt8) (rest : List UInt8) :
    (decodeUnit b rest).2.length ≤ rest.length := by
  unfold decodeUnit
  split
  · exact Nat.le_refl _
  · split
    · exact Nat.le_refl _
    · exact follow_length_le ..

/-- All characters and faults of the bytes, in order. -/
def decodeUnits : List UInt8 → List (Option Char)
  | [] => []
  | b :: rest => (decodeUnit b rest).1 :: decodeUnits (decodeUnit b rest).2
termination_by bytes => bytes.length
decreasing_by exact Nat.lt_succ_of_le (decodeUnit_length_le b rest)

def decode? (bytes : List UInt8) : Option Text :=
  (decodeUnits bytes).mapM id

def replacement : Char := '\ufffd'

def decodeLossy (bytes : List UInt8) : Text :=
  (decodeUnits bytes).map fun unit => unit.getD replacement

end SelectorScan.Text.Utf8
