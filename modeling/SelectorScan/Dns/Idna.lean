import SelectorScan.Text
import SelectorScan.Dns.Nameprep.Prepare
import SelectorScan.Dns.Punycode

/-!
# Internationalized labels

A label with characters beyond ASCII travels as the Punycode of its prepared form behind the prefix
`xn--`. A label that has become ASCII by preparation travels as it is. Either way it must have from
1 to 63 characters, and a prepared label may not begin with the prefix itself.
-/

namespace SelectorScan.Dns.Idna

/-- What an encoded label begins with. -/
def mark : Text := "xn--".toList

/-- The bytes of ASCII characters, if there are from 1 to 63. -/
def bytes? (t : Text) : Option (List UInt8) :=
  if 0 < t.length ∧ t.length < 64 then some (t.map fun c => c.toNat.toUInt8) else none

/-- The bytes that a label travels as. -/
def encode? (label : Text) : Option (List UInt8) :=
  if label.all (·.toNat < 0x80) then bytes? label
  else
    (Nameprep.prepare? (label.map Char.toNat)).bind fun codes =>
      let prepared := codes.map Char.ofNat
      if codes.all (· < 0x80) then bytes? prepared
      else if (Text.after? mark prepared).isSome then none
      else bytes? (mark ++ Punycode.encode codes)

end SelectorScan.Dns.Idna
