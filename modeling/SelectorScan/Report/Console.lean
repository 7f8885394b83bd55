import SelectorScan.Key.Finding
import SelectorScan.Log

/-!
# Reports on the console

Coloured lines about findings, and plain lines of candidates. Each function gives the text that is
printed, line ends included.
-/

namespace SelectorScan.Report

open Key

/-! ## Messages -/

/-- The tone of a message, which its colour shows. -/
inductive Tone where
  | good
  | warning
  | bad
  | indifferent
  | error
  | info
deriving DecidableEq, Repr

/-- The tone with a name; an unknown one is plain information. -/
def Tone.ofName (name : Text) : Tone :=
  if name = "good".toList then .good
  else if name = "warning".toList then .warning
  else if name = "bad".toList then .bad
  else if name = "indifferent".toList then .indifferent
  else if name = "error".toList then .error
  else .info

/-- The sequence that asks a terminal for a colour or a weight. -/
def control (code : String) : Text :=
  '\x1b' :: '[' :: code.toList ++ ['m']

/-- What stands before a message of a tone: its colour, bright, and for errors a mark. -/
def Tone.opening : Tone → Text
  | .good => control "32" ++ control "1"
  | .warning => control "33" ++ control "1"
  | .bad => control "31" ++ control "1"
  | .indifferent => control "34" ++ control "1"
  | .error => control "31" ++ control "1" ++ "!!! ".toList
  | .info => control "37" ++ control "1"

/-- A message behind a symbol, on a line of its own. -/
def message (symbol text : Text) (tone : Tone) : Text :=
  tone.opening ++ symbol ++ ' ' :: text ++ control "0" ++ ['\n']

/-! ## Findings -/

/-- A finding as it is discovered; only the key itself when quiet. -/
def finding (f : Finding) (quiet : Bool) : Text :=
  if quiet then f.pem ++ ['\n']
  else
    message "# fqdn:".toList f.source.name .indifferent ++
    message "# txt: ".toList f.source.record .info ++
    message "# key: ".toList f.key .info ++
    message "# size:".toList (Text.padLeft 4 (Text.ofNat f.bits) ++ " bits".toList)
      (if f.bits < 1024 then .bad else .info) ++
    message "# n:   ".toList f.modulus .info ++
    message "# e:   ".toList f.exponent .info ++
    message "# fp:  ".toList f.summary
      (if f.source.mode = KeyRecord.Mode.test.name then .warning else .good) ++
    '\n' :: f.pem ++ ['\n']

/-- How many keys were found for a domain. -/
def total (count : Nat) (domain : Text) : Text :=
  message "[*]".toList (Text.ofNat count ++ " DKIM key(s) found for ".toList ++ domain) .info

/-! ## Candidates -/

def candidates (texts : List Text) : Text :=
  texts.flatMap fun t => t ++ ['\n']

/-- The entry about candidates that have been listed. -/
def listedNote (count : Nat) : Log.Entry :=
  .plain "dkimscan.report" .debug ("Listed " ++ toString count ++ " candidates")

end SelectorScan.Report
