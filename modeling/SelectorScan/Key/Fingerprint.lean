import SelectorScan.Text

/-!
# Fingerprints

The fingerprint of a key is the SHA-1 digest of its encoding, in lower case hexadecimal. The message
is padded to blocks of 64 bytes, and each block is mixed into five words of 32 bits in 80 rounds.
-/

namespace SelectorScan.Key.Fingerprint

/-! ## Words -/

def rotate (x : UInt32) (n : UInt32) : UInt32 :=
  (x <<< n) ||| (x >>> (32 - n))

/-- The word of four bytes, the most significant first. -/
def word (a b c d : UInt8) : UInt32 :=
  (a.toUInt32 <<< 24) ||| (b.toUInt32 <<< 16) ||| (c.toUInt32 <<< 8) ||| d.toUInt32

/-- The words of bytes; up to three bytes at the end are dropped. -/
def words : List UInt8 → List UInt32
  | a :: b :: c :: d :: rest => word a b c d :: words rest
  | _ => []

/-- The bytes of a number of 64 bits. -/
def bytes64 (n : Nat) : List UInt8 :=
  (List.range 8).map fun i => (n >>> (8 * (7 - i)) % 256).toUInt8

/-! ## Padding -/

/-- The message, a byte 0x80, zeros, and the length of the message in bits, up to a multiple of 64
bytes. -/
def pad (message : List UInt8) : List UInt8 :=
  let n := message.length
  message ++ 0x80 :: List.replicate ((119 - n % 64) % 64) 0 ++ bytes64 (8 * n)

/-! ## Rounds -/

/-- The five words that blocks are mixed into. -/
structure State where
  a : UInt32
  b : UInt32
  c : UInt32
  d : UInt32
  e : UInt32

/-- The words before the first block. -/
def State.initial : State :=
  ⟨0x67452301, 0xEFCDAB89, 0x98BADCFE, 0x10325476, 0xC3D2E1F0⟩

def State.add (s t : State) : State :=
  ⟨s.a + t.a, s.b + t.b, s.c + t.c, s.d + t.d, s.e + t.e⟩

/-- The mix of three words, and the constant, of a round. -/
def mix (round : Nat) (s : State) : UInt32 :=
  if round < 20 then ((s.b &&& s.c) ||| (~~~s.b &&& s.d)) + 0x5A827999
  else if round < 40 then (s.b ^^^ s.c ^^^ s.d) + 0x6ED9EBA1
  else if round < 60 then ((s.b &&& s.c) ||| (s.b &&& s.d) ||| (s.c &&& s.d)) + 0x8F1BBCDC
  else (s.b ^^^ s.c ^^^ s.d) + 0xCA62C1D6

def State.round (s : State) (round : Nat) (w : UInt32) : State :=
  ⟨rotate s.a 5 + mix round s + s.e + w, s.a, rotate s.b 30, s.c, s.d⟩

/-- The word that follows sixteen words of the schedule. -/
def nextWord (window : List UInt32) : UInt32 :=
  rotate (window.getD 13 0 ^^^ window.getD 8 0 ^^^ window.getD 2 0 ^^^ window.getD 0 0) 1

/-- Runs rounds on the words of the schedule, of which sixteen at a time are known. -/
def rounds (s : State) (round : Nat) (window : List UInt32) : Nat → State
  | 0 => s
  | more + 1 =>
    rounds (s.round round (window.getD 0 0)) (round + 1) (window.drop 1 ++ [nextWord window]) more

/-- Mixes all blocks of sixteen words, of which there are `n`, into the state. -/
def blocks (s : State) (ws : List UInt32) : Nat → State
  | 0 => s
  | n + 1 => blocks (s.add (rounds s 0 (ws.take 16) 80)) (ws.drop 16) n

/-! ## Digest -/

/-- A word in eight hexadecimal digits. -/
def hex (w : UInt32) : Text :=
  Text.padZeros 8 (Nat.toDigits 16 w.toNat)

/-- The digest of a message, in hexadecimal. -/
def ofBytes (message : List UInt8) : Text :=
  let ws := words (pad message)
  let s := blocks .initial ws (ws.length / 16)
  hex s.a ++ hex s.b ++ hex s.c ++ hex s.d ++ hex s.e

end SelectorScan.Key.Fingerprint
