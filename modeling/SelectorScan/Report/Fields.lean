import SelectorScan.Key.Finding

/-!
# Fields of a finding

The fields by which findings are written to files, in order.
-/

namespace SelectorScan.Report

open Key

inductive Value where
  | text (t : Text)
  | number (n : Nat)
deriving DecidableEq, Repr

def Value.toText : Value → Text
  | .text t => t
  | .number n => Text.ofNat n

def fields (f : Finding) : List (String × Value) := [
  ("fqdn", .text f.source.name),
  ("raw_txt", .text f.source.record),
  ("domain", .text f.source.domain),
  ("selector", .text f.source.selector),
  ("mode", .text f.source.mode),
  ("key", .text f.key),
  ("modulus", .text f.modulus),
  ("exponent", .text f.exponent),
  ("bits", .number f.bits),
  ("fingerprint", .text f.fingerprint),
  ("pem", .text f.pem)]

def fieldNames : List String :=
  ["fqdn", "raw_txt", "domain", "selector", "mode", "key", "modulus", "exponent", "bits",
    "fingerprint", "pem"]

theorem map_fst_fields (f : Finding) : (fields f).map Prod.fst = fieldNames := rfl

def values (f : Finding) : List Value :=
  (fields f).map Prod.snd

end SelectorScan.Report
