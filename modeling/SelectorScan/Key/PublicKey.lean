import SelectorScan.Key.Der

/-!
# RSA keys

A key is a modulus and an exponent. It is published either bare, as the sequence of the two, or
within a frame that names the algorithm; the frame allows for a plain RSA key with null parameters
or with none, and for one that is set aside for probabilistic signatures with no parameters or an
empty sequence of them.
-/

namespace SelectorScan.Key

open Der

structure PublicKey where
  modulus : Nat
  exponent : Nat
deriving DecidableEq, Repr

namespace PublicKey

/-! ## Algorithm -/

/-- Whether the numbers can be those of a key: an odd exponent between 3 and the modulus. -/
def isSound (k : PublicKey) : Bool :=
  3 ≤ k.modulus && 3 ≤ k.exponent && k.exponent < k.modulus && k.exponent % 2 == 1

def rsaIdentifier : List UInt8 := [0x2A, 0x86, 0x48, 0x86, 0xF7, 0x0D, 0x01, 0x01, 0x01]

/-- The identifier of RSA with probabilistic signatures. -/
def pssIdentifier : List UInt8 := [0x2A, 0x86, 0x48, 0x86, 0xF7, 0x0D, 0x01, 0x01, 0x0A]

/-- The bare encoding: a sequence of the modulus and the exponent. -/
def writeBare (k : PublicKey) : List UInt8 :=
  write .sequence (writeNatural k.modulus ++ writeNatural k.exponent)

/-- The key in a frame that names an algorithm and its parameters. -/
def writeFramed (identifier parameters : List UInt8) (k : PublicKey) : List UInt8 :=
  write .sequence
    (write .sequence (write .objectIdentifier identifier ++ parameters) ++
      write .bitString (0 :: k.writeBare))

/-- The usual encoding: framed as plain RSA with null parameters. -/
def encode (k : PublicKey) : List UInt8 :=
  k.writeFramed rsaIdentifier (write .null [])

/-- The numbers in a bare encoding. -/
def readBare? (bytes : List UInt8) : Option PublicKey :=
  match readWhole? .sequence bytes with
  | none => none
  | some contents =>
    match readNatural? contents with
    | none => none
    | some (n, rest) =>
      match readNatural? rest with
      | some (e, []) => some ⟨n, e⟩
      | _ => none

/-- The identifier and the parameters of an algorithm. -/
def readAlgorithm? (contents : List UInt8) : Option (List UInt8 × List UInt8) :=
  read? .objectIdentifier contents

/-- Whether an algorithm with its parameters is one that RSA keys are framed in. -/
def isRsa (identifier parameters : List UInt8) : Bool :=
  (identifier == rsaIdentifier && (parameters == [] || parameters == write .null [])) ||
    (identifier == pssIdentifier && (parameters == [] || parameters == write .sequence []))

def readFrame? (bytes : List UInt8) : Option ((List UInt8 × List UInt8) × List UInt8) :=
  match readWhole? .sequence bytes with
  | none => none
  | some contents =>
    match read? .sequence contents with
    | none => none
    | some (algorithm, rest) =>
      match readAlgorithm? algorithm, readWhole? .bitString rest with
      | some named, some (0 :: bits) => some (named, bits)
      | _, _ => none

/-- The numbers in a framed encoding. -/
def readFramed? (bytes : List UInt8) : Option PublicKey :=
  match readFrame? bytes with
  | none => none
  | some ((identifier, parameters), bits) =>
    if isRsa identifier parameters then readBare? bits else none

/-- The key in an encoding of either form. -/
def read? (bytes : List UInt8) : Option PublicKey :=
  ((readFramed? bytes).filter isSound).or ((readBare? bytes).filter isSound)

/-- The bits of the bytes that the modulus takes. -/
def bits (k : PublicKey) : Nat :=
  8 * (toBytes k.modulus).length

end PublicKey

end SelectorScan.Key
