import SelectorScan.Text

/-!
# Framed keys

Base 64 text between two lines that say what it is, cut into lines of 64 characters.
-/

namespace SelectorScan.Key.Pem

/-- The characters on a line of the body. -/
def lineWidth : Nat := 64

def publicKeyLabel : Text := "PUBLIC KEY".toList

/-- The text in pieces of `width` characters, the last one shorter, none empty. -/
def chunks (width : Nat) (t : Text) : List Text :=
  if _h : t = [] ∨ width = 0 then []
  else t.take width :: chunks width (t.drop width)
termination_by t.length
decreasing_by
  rw [List.length_drop]
  have := List.length_pos_iff.2 (fun h => _h (.inl h))
  omega

def frameLine (word label : Text) : Text :=
  "-----".toList ++ word ++ ' ' :: label ++ "-----".toList

/-- The body in lines within its frame, a line feed behind each line. -/
def frame (label body : Text) : Text :=
  let lines := frameLine "BEGIN".toList label :: chunks lineWidth body ++
    [frameLine "END".toList label]
  Text.join ['\n'] lines ++ ['\n']

end SelectorScan.Key.Pem
