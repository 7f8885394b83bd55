import SelectorScan.Key.Base64
import SelectorScan.Key.Fingerprint
import SelectorScan.Key.Pem
import SelectorScan.Key.PublicKey
import SelectorScan.KeyRecord.TagList
import SelectorScan.Number.Integer
import SelectorScan.Log

/-!
# Findings

A finding is a record that publishes a usable RSA key, with what is known about the key. A key text
that does not decode, or that is no RSA key, gives no finding and no error; the one error is a
modulus too long to be written in decimal.
-/

namespace SelectorScan.Key

open KeyRecord

/-- Where a key was found. -/
structure Source where
  /-- The full name of the record. -/
  name : Text
  /-- The record as it is shown. -/
  record : Text
  domain : Text
  selector : Text
  mode : Text
deriving DecidableEq, Repr

/-- A usable RSA key that a record publishes. -/
structure Finding where
  source : Source
  /-- The key as the record gives it. -/
  key : Text
  modulus : Text
  exponent : Text
  bits : Nat
  fingerprint : Text
  pem : Text
deriving DecidableEq, Repr

namespace Finding

def summary (f : Finding) : Text :=
  Text.join [' '] [f.fingerprint, Text.padLeft 4 (Text.ofNat f.bits), f.source.domain,
    f.source.selector, f.source.mode]

end Finding

/-- Why the inspection of a key fails. -/
inductive InspectionError where
  /-- A number has more digits than may be written. -/
  | tooManyDigits
deriving DecidableEq, Repr

/-- What is said about a failed inspection. -/
def InspectionError.message : InspectionError → String
  | .tooManyDigits =>
    "Exceeds the limit (4300 digits) for integer string conversion; " ++
      "use sys.set_int_max_str_digits() to increase the limit"

/-- A number in decimal, if it may be written. -/
def decimal (n : Nat) : Except InspectionError Text :=
  if n < Nat.pow 10 Number.maxDigits then .ok (Text.ofNat n) else .error .tooManyDigits

/-- What becomes of a key text. -/
inductive Verdict where
  | found (finding : Finding)
  /-- The text is not base 64. -/
  | undecodable
  /-- The bytes are no key. -/
  | unloadable
  /-- The bytes are a key of another algorithm. -/
  | foreign (algorithm : String)
deriving DecidableEq, Repr

/-- The identifiers of other algorithms whose keys are known by name. -/
def foreignAlgorithms : List (List UInt8 × String) := [
  ([0x2A, 0x86, 0x48, 0xCE, 0x3D, 0x02, 0x01], "ECPublicKey"),
  ([0x2B, 0x65, 0x70], "Ed25519PublicKey"),
  ([0x2B, 0x65, 0x71], "Ed448PublicKey"),
  ([0x2B, 0x65, 0x6E], "X25519PublicKey"),
  ([0x2B, 0x65, 0x6F], "X448PublicKey")]

/-- The name of another algorithm that the bytes are framed in. -/
def foreignAlgorithm? (bytes : List UInt8) : Option String :=
  (PublicKey.readFrame? bytes).bind fun frame => foreignAlgorithms.lookup frame.1.1

/-- The finding about a key whose encoding is `bytes`. -/
def describe (source : Source) (key : Text) (bytes : List UInt8) (k : PublicKey) :
    Except InspectionError Finding := do
  let modulus ← decimal k.modulus
  let exponent ← decimal k.exponent
  return {
    source
    key
    modulus
    exponent
    bits := k.bits
    fingerprint := Fingerprint.ofBytes bytes
    pem := Pem.frame Pem.publicKeyLabel (Base64.encode k.encode) }

/-- What becomes of a key text found at `source`. -/
def judge (source : Source) (key : Text) : Except InspectionError Verdict :=
  match Base64.decode? key with
  | none => .ok .undecodable
  | some bytes =>
    match PublicKey.read? bytes with
    | some k => (describe source key bytes k).map .found
    | none =>
      match foreignAlgorithm? bytes with
      | some algorithm => .ok (.foreign algorithm)
      | none => .ok .unloadable

def Verdict.finding? : Verdict → Option Finding
  | .found f => some f
  | _ => none

/-- What is said about a key that is passed over. Why a key cannot be decoded or loaded is put in
the words of a library. -/
def Verdict.notes (name : Text) : Verdict → List Log.Entry
  | .found _ => []
  | .undecodable => [note ("Could not decode public key for " ++ String.ofList name ++ ": ...")]
  | .unloadable => [note ("Could not load public key for " ++ String.ofList name ++ ": ...")]
  | .foreign algorithm =>
    [note ("Public key for " ++ String.ofList name ++ " is not RSA (" ++ algorithm ++
      "), skipping")]
where
  note (message : String) : Log.Entry :=
    .plain "dkimscan.keys" .debug message

/-- The finding in a key text, if there is one. -/
def inspect (source : Source) (key : Text) : Except InspectionError (Option Finding) :=
  (judge source key).map Verdict.finding?

end SelectorScan.Key
