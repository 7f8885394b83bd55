import SelectorScan.Text

/-!
# Distinguished encoding

The encoding of the few kinds of values that RSA keys are made of. Each value has one encoding: an
identifier byte, the length of the contents in the fewest bytes, and the contents. Readers accept
that one and nothing else, and give the bytes behind it.
-/

namespace SelectorScan.Key.Der

/-! ## Big-endian numbers -/

/-- The number whose base 256 digits are the bytes. -/
def ofBytes (bytes : List UInt8) : Nat :=
  bytes.foldl (fun n b => n * 256 + b.toNat) 0

/-- The base 256 digits of a number, none for zero, in front of `rest`. -/
def bytesBefore (n : Nat) (rest : List UInt8) : List UInt8 :=
  if n = 0 then rest else bytesBefore (n / 256) ((n % 256).toUInt8 :: rest)

/-- The base 256 digits of a number, none for zero. -/
def toBytes (n : Nat) : List UInt8 :=
  bytesBefore n []

/-! ## Writing -/

/-- The identifier bytes of the kinds in use. -/
inductive Kind where
  | integer
  | bitString
  | null
  | objectIdentifier
  | sequence
deriving DecidableEq, Repr

def Kind.byte : Kind → UInt8
  | .integer => 0x02
  | .bitString => 0x03
  | .null => 0x05
  | .objectIdentifier => 0x06
  | .sequence => 0x30

/-- A length: itself up to 127, and the number of its bytes in front of them above. -/
def writeLength (n : Nat) : List UInt8 :=
  if n < 128 then [n.toUInt8]
  else (128 + (toBytes n).length).toUInt8 :: toBytes n

def write (kind : Kind) (contents : List UInt8) : List UInt8 :=
  kind.byte :: writeLength contents.length ++ contents

/-- The contents of a natural number: its bytes, with a zero in front when there are none or the
first would make it negative. -/
def naturalContents (n : Nat) : List UInt8 :=
  match toBytes n with
  | [] => [0]
  | b :: rest => if b < 128 then b :: rest else 0 :: b :: rest

def writeNatural (n : Nat) : List UInt8 :=
  write .integer (naturalContents n)

/-! ## Reading -/

/-- A length in the fewest bytes. -/
def readLength? : List UInt8 → Option (Nat × List UInt8)
  | [] => none
  | b :: rest =>
    if b < 128 then some (b.toNat, rest)
    else
      let count := b.toNat - 128
      let digits := rest.take count
      let n := ofBytes digits
      if count = 0 ∨ digits.length < count ∨ digits.head? = some 0 ∨ n < 128 then none
      else some (n, rest.drop count)

/-- The contents of a value of the given kind, and what follows it. -/
def read? (kind : Kind) : List UInt8 → Option (List UInt8 × List UInt8)
  | [] => none
  | b :: rest =>
    if b = kind.byte then
      match readLength? rest with
      | none => none
      | some (n, rest) => if n ≤ rest.length then some (rest.take n, rest.drop n) else none
    else none

/-- The contents of a value of the given kind that nothing follows. -/
def readWhole? (kind : Kind) (bytes : List UInt8) : Option (List UInt8) :=
  match read? kind bytes with
  | some (contents, []) => some contents
  | _ => none

/-- The natural number with the given contents, if they are the shortest ones. -/
def naturalOfContents? : List UInt8 → Option Nat
  | [] => none
  | [b] => if b < 128 then some b.toNat else none
  | b :: c :: rest =>
    if b < 128 ∧ ¬(b = 0 ∧ c < 128) then some (ofBytes (b :: c :: rest)) else none

/-- A natural number, and what follows it. -/
def readNatural? (bytes : List UInt8) : Option (Nat × List UInt8) :=
  match read? .integer bytes with
  | none => none
  | some (contents, rest) => (naturalOfContents? contents).map fun n => (n, rest)

end SelectorScan.Key.Der
