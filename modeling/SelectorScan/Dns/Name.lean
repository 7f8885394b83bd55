import SelectorScan.Text.Digit
import SelectorScan.Text.Quoted
import SelectorScan.Dns.Idna

/-!
# Domain names

A name is the sequence of its labels, which are sequences of bytes, without the empty label of the
root. In text, labels end in dots, the last dot being optional, and a backslash introduces either
three decimal digits or a character that is to be taken as it is. The digits are those of a byte if
the text is ASCII, else those of a code point. A label has at most 63 bytes and a name at most 255
with a length byte for each label and for the root.

A digit that is no decimal, such as a superscript, counts as a digit behind a backslash, but has no
value there: reading such a text fails altogether, which is not the same as finding no name in it.
-/

namespace SelectorScan.Dns

abbrev Label := List UInt8

/-- A name, the root's own empty label left out. -/
structure Name where
  labels : List Label
deriving DecidableEq, Repr

inductive NameError where
  | emptyLabel
  | labelTooLong
  | nameTooLong
  | badEscape
deriving DecidableEq, Repr

def NameError.message : NameError → String
  | emptyLabel => "A DNS label is empty."
  | labelTooLong => "A DNS label is > 63 octets long."
  | nameTooLong => "A DNS name is > 255 octets long."
  | badEscape => "An escaped code in a text format of DNS name is invalid."

/-- What keeps a text from being read as a name. -/
inductive Misreading where
  /-- It is no name. -/
  | refused (error : NameError)
  /-- A digit in an escape is no decimal. -/
  | noDecimal (c : Char)
deriving DecidableEq, Repr

def noDecimalMessage (c : Char) : String :=
  "invalid literal for int() with base 10: " ++ String.ofList (Text.quoted [c])

namespace Name

/-! ## Reading -/

/-- Whether a character may separate labels: the dot, and in text that is not all ASCII the full
stops of East Asian scripts too. -/
def isSeparator (ascii : Bool) (c : Char) : Bool :=
  c = '.' || (!ascii && (c = '\u3002' || c = '\uff0e' || c = '\uff61'))

/-- The bytes of a label: its characters when the name is ASCII, its internationalized form when
not. -/
def encodeLabel (ascii : Bool) (label : Text) : Except Misreading Label :=
  if ascii then .ok (label.map fun c => c.toNat.toUInt8)
  else
    match Idna.encode? label with
    | some bytes => .ok bytes
    | none => .error (.refused .labelTooLong)

def escapeDigit (c : Char) : Except Misreading Nat :=
  match Text.digit? c with
  | some d => .ok d
  | none => .error (if Text.isOtherDigit c then .noDecimal c else .refused .badEscape)

def escapeNumber (digits : Text) : Except Misreading Nat :=
  digits.foldlM (fun n c => (escapeDigit c).map (10 * n + ·)) 0

/-- The character with the given digits in an escape. -/
def escaped (ascii : Bool) (digits : Text) : Except Misreading Char :=
  match escapeNumber digits with
  | .error e => .error e
  | .ok n =>
    if digits.length < 3 ∨ ascii ∧ 255 < n then .error (.refused .badEscape)
    else .ok (Char.ofNat n)

/-- Reads labels behind the characters `label` of the current one (the latest first). -/
def readLabels (ascii : Bool) (label : Text) : Text → Except Misreading (List Label)
  | [] =>
    if label.isEmpty then .ok []
    else (encodeLabel ascii label.reverse).map fun bytes => [bytes]
  | ['\\'] => .error (.refused .badEscape)
  | '\\' :: c :: rest =>
    if Text.isDigit c || Text.isOtherDigit c then
      match rest with
      | d :: e :: rest =>
        match escaped ascii [c, d, e] with
        | .ok c => readLabels ascii (c :: label) rest
        | .error e => .error e
      | _ => (escaped ascii (c :: rest)).map fun _ => []
    else readLabels ascii (c :: label) rest
  | c :: rest =>
    if isSeparator ascii c then
      if label.isEmpty then .error (.refused .emptyLabel)
      else
        match encodeLabel ascii label.reverse with
        | .error e => .error e
        | .ok bytes => (readLabels ascii [] rest).map (bytes :: ·)
    else readLabels ascii (c :: label) rest

/-- The bytes that a name takes in a message. -/
def wireLength : List Label → Nat
  | [] => 1
  | l :: rest => l.length + 1 + wireLength rest

/-- The name with the given labels, if they are short enough. -/
def ofLabels (labels : List Label) : Except NameError Name :=
  if labels.any fun l => 63 < l.length then .error .labelTooLong
  else if 255 < wireLength labels then .error .nameTooLong
  else .ok ⟨labels⟩

/-- Whether a text is the root by itself: nothing, an at sign, or a lone separator. -/
def isRootText (ascii : Bool) : Text → Bool
  | [] => true
  | [c] => c = '@' || isSeparator ascii c
  | _ => false

/-- Reads the name that a text writes. -/
def read (t : Text) : Except Misreading Name :=
  let ascii := t.all (·.toNat < 0x80)
  if isRootText ascii t then .ok ⟨[]⟩
  else
    match readLabels ascii [] t with
    | .error e => .error e
    | .ok labels => (ofLabels labels).mapError .refused

/-- The name that a text writes. A text that cannot be read at all counts as one with a bad escape;
lookups tell the two apart (`read`). -/
def ofText (t : Text) : Except NameError Name :=
  match read t with
  | .ok name => .ok name
  | .error (.refused e) => .error e
  | .error (.noDecimal _) => .error .badEscape

/-! ## Writing -/

/-- Whether a byte in a label is written with a backslash in front. -/
def isSpecial (n : Nat) : Bool :=
  n = 0x22 || n = 0x28 || n = 0x29 || n = 0x2E || n = 0x3B || n = 0x5C || n = 0x40 || n = 0x24

def byteText (b : UInt8) : Text :=
  let n := b.toNat
  if isSpecial n then ['\\', Char.ofNat n]
  else if 0x20 < n ∧ n < 0x7F then [Char.ofNat n]
  else '\\' :: Text.padZeros 3 (Text.ofNat n)

def labelText (l : Label) : Text :=
  l.flatMap byteText

/-- The name without the dot of the root, which alone is a dot. -/
def toText (name : Name) : Text :=
  if name.labels.isEmpty then ['.'] else Text.join ['.'] (name.labels.map labelText)

/-- The name with the dot of the root. -/
def toAbsoluteText (name : Name) : Text :=
  if name.labels.isEmpty then ['.'] else name.toText ++ ['.']

end Name

end SelectorScan.Dns
