import SelectorScan.Text

/-!
# Base 64

Bytes as text, six bits to a character. Writing is canonical: groups of four characters, the last
one filled up with equals signs. Reading is lenient (`decode?`): characters that carry no bits are
skipped, a group that has been padded ends the text, and only a group that stays incomplete or a
character that is not ASCII makes the text undecodable.
-/

namespace SelectorScan.Key.Base64

/-! ## Characters -/

def digit (n : Nat) : Char :=
  if n < 26 then Char.ofNat (65 + n)
  else if n < 52 then Char.ofNat (71 + n)
  else if n < 62 then Char.ofNat (n - 4)
  else if n = 62 then '+'
  else '/'

def value? (c : Char) : Option Nat :=
  let n := c.toNat
  if 65 ≤ n ∧ n ≤ 90 then some (n - 65)
  else if 97 ≤ n ∧ n ≤ 122 then some (n - 71)
  else if 48 ≤ n ∧ n ≤ 57 then some (n + 4)
  else if c = '+' then some 62
  else if c = '/' then some 63
  else none

/-! ## Writing -/

def encode : List UInt8 → Text
  | [] => []
  | [a] =>
    [digit (a.toNat / 4), digit (a.toNat % 4 * 16), '=', '=']
  | [a, b] =>
    [digit (a.toNat / 4), digit (a.toNat % 4 * 16 + b.toNat / 16), digit (b.toNat % 16 * 4), '=']
  | a :: b :: c :: rest =>
    digit (a.toNat / 4) :: digit (a.toNat % 4 * 16 + b.toNat / 16) ::
      digit (b.toNat % 16 * 4 + c.toNat / 64) :: digit (c.toNat % 64) :: encode rest

/-! ## Reading -/

/-- The characters of the current group that have been read: how many, and the bits of theirs that
are not yet part of a byte. -/
structure Group where
  count : Nat
  bits : Nat
deriving DecidableEq, Repr

def Group.empty : Group := ⟨0, 0⟩

/-- The byte that six more bits complete, if any, and the group after them. -/
def Group.push (g : Group) (v : Nat) : Option UInt8 × Group :=
  match g.count with
  | 0 => (none, ⟨1, v⟩)
  | 1 => (some (g.bits * 4 + v / 16).toUInt8, ⟨2, v % 16⟩)
  | 2 => (some (g.bits * 16 + v / 4).toUInt8, ⟨3, v % 4⟩)
  | _ => (some (g.bits * 64 + v).toUInt8, .empty)

/-- Reads on within a group, after `pads` equals signs that did not end it. -/
def decodeFrom (g : Group) (pads : Nat) : Text → Option (List UInt8)
  | [] => if g.count = 0 then some [] else none
  | c :: rest =>
    if c = '=' then
      if g.count < 2 then decodeFrom g pads rest
      else if 4 ≤ g.count + (pads + 1) then some []
      else decodeFrom g (pads + 1) rest
    else
      match value? c with
      | none => decodeFrom g pads rest
      | some v =>
        match g.push v with
        | (none, g) => decodeFrom g 0 rest
        | (some byte, g) => (decodeFrom g 0 rest).map (byte :: ·)

/-- The bytes of a text, read leniently. -/
def decode? (t : Text) : Option (List UInt8) :=
  if t.all fun c => c.toNat < 0x80 then decodeFrom .empty 0 t else none

end SelectorScan.Key.Base64
