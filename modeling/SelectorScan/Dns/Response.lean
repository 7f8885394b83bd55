import SelectorScan.Dns.Name
import SelectorScan.Text.Utf8

/-!
# Responses

What a resolver answers: the question it answers, a response code, and sets of records. Of the
records only texts matter. A text record is a list of character strings of at most 255 bytes, and
equal records of one set count once.
-/

namespace SelectorScan.Dns

abbrev TextRecord := List (List UInt8)

namespace TextRecord

/-- The bytes in pieces of 255, at least one. -/
def cut (bytes : List UInt8) : TextRecord :=
  if _h : bytes.length ≤ 255 then [bytes] else bytes.take 255 :: cut (bytes.drop 255)
termination_by bytes.length
decreasing_by
  rw [List.length_drop]
  omega

/-- Cutting loses nothing. -/
theorem flatten_cut (bytes : List UInt8) : (cut bytes).flatten = bytes := by
  fun_induction cut bytes with
  | case1 bytes => simp
  | case2 bytes long ih => rw [List.flatten_cons, ih, List.take_append_drop]

def ofText (t : Text) : TextRecord :=
  cut (Text.Utf8.encode t)

/-- The text in a record: its strings joined, read leniently. -/
def value (r : TextRecord) : Text :=
  Text.Utf8.decodeLossy r.flatten

/-- One byte of a string as it is shown. -/
def byteText (b : UInt8) : Text :=
  let n := b.toNat
  if n = 0x22 ∨ n = 0x5C then ['\\', Char.ofNat n]
  else if 0x20 ≤ n ∧ n < 0x7F then [Char.ofNat n]
  else '\\' :: Text.padZeros 3 (Text.ofNat n)

/-- The record as it is shown: its strings in quotation marks. -/
def shown (r : TextRecord) : Text :=
  Text.join [' '] (r.map fun s => '\x22' :: s.flatMap byteText ++ ['\x22'])

end TextRecord

inductive RecordSet where
  | texts (records : List TextRecord)
  | other
deriving DecidableEq, Repr

def RecordSet.ofTexts (records : List TextRecord) : RecordSet :=
  .texts records.eraseDups

def RecordSet.textRecords : RecordSet → List TextRecord
  | .texts records => records
  | .other => []

structure Response where
  /-- The name that was asked for, if the response says. -/
  question : Option Name
  /-- The name of the response code. -/
  code : String
  answer : List RecordSet
deriving DecidableEq, Repr

namespace Response

/-- The response code for a name that does not exist. -/
def noSuchName : String := "NXDOMAIN"

def noError : String := "NOERROR"

def textRecords (r : Response) : List TextRecord :=
  r.answer.flatMap RecordSet.textRecords

end Response

end SelectorScan.Dns
