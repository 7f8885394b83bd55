import SelectorScan.Domain
import SelectorScan.Rule.Token
import SelectorScan.Number.Integer
import SelectorScan.Text.Point

/-!
# Values of a token

A token together with a domain stands for a sequence of values, which may be very long: the values
not yet taken are kept in a form that yields them one by one (`next?`), and `toList` is the
sequence itself (`toList_of_next?`). A value is a text but for the surrogates that a range of
letters runs over, so values are sequences of code points.
-/

namespace SelectorScan.Candidate

open Rule

/-! ## Algorithm -/

/-- The values not yet taken. -/
inductive Values where
  | listed (values : List Points)
  /-- Single code points from one on. -/
  | letters (code : Nat) (count : Nat)
  /-- Numbers from an integer on, padded to a width. -/
  | numbers (first : Int) (count : Nat) (width : Nat)
deriving DecidableEq, Repr

namespace Values

def count : Values → Nat
  | listed values => values.length
  | letters _ n => n
  | numbers _ n _ => n

def next? : Values → Option (Points × Values)
  | listed [] => none
  | listed (v :: rest) => some (v, listed rest)
  | letters _ 0 => none
  | letters code (n + 1) => some ([.ofCode code], letters (code + 1) n)
  | numbers _ 0 _ => none
  | numbers i (n + 1) width => some (Number.writeInt width i, numbers (i + 1) n width)

def toList : Values → List Points
  | listed values => values
  | letters code n => (List.range n).map fun k => [.ofCode (code + k)]
  | numbers i n width => (List.range n).map fun k => Number.writeInt width (i + (k : Nat))

end Values

/-- Why a token has no values. A token that a rule compiles to always has them. -/
inductive ExpansionError where
  /-- An end of a range is neither a letter nor an integer. -/
  | notANumber (text : Text)
  /-- A run of labels has more than two ends. -/
  | tooManyIndexes
deriving DecidableEq, Repr

def rangeEnd (t : Text) : Except ExpansionError Int :=
  match Number.readInt? t with
  | some i => .ok i
  | none => .error (.notANumber t)

def rangeValues (r : Range) : Except ExpansionError Values :=
  match r.isLetters, r.first, r.last with
  | true, [a], [b] => .ok (.letters a.toNat (b.toNat + 1 - a.toNat))
  | _, _, _ => do
    let first ← rangeEnd r.first
    let last ← rangeEnd r.last
    return .numbers first (last - first + 1).toNat r.padWidth

def tokenValues (domain : Domain) : Token → Except ExpansionError Values
  | .literal text => .ok (.listed [text])
  | .range r => rangeValues r
  | .domainParts [] => .ok (.listed [domain.text])
  | .domainParts [index] => .ok (.listed [domain.label index])
  | .domainParts [first, last] => .ok (.listed [domain.slice first last])
  | .domainParts (_ :: _ :: _ :: _) => .error .tooManyIndexes
  | .items texts => .ok (.listed (texts.map Points.ofText))
  | .optional suffix => .ok (.listed [[], suffix])

/-! ## Lemmas -/

namespace Values

theorem toList_of_next?_none {v : Values} (h : v.next? = none) : v.toList = [] := by
  cases v with
  | listed values => cases values <;> simp_all [next?, toList]
  | letters code n => cases n <;> simp_all [next?, toList]
  | numbers i n width => cases n <;> simp_all [next?, toList]

theorem toList_of_next? {v rest : Values} {p : Points} (h : v.next? = some (p, rest)) :
    v.toList = p :: rest.toList := by
  cases v with
  | listed values =>
    cases values with
    | nil => simp [next?] at h
    | cons a as =>
      simp only [next?, Option.some.injEq, Prod.mk.injEq] at h
      obtain ⟨rfl, rfl⟩ := h
      rfl
  | letters code n =>
    cases n with
    | zero => simp [next?] at h
    | succ n =>
      simp only [next?, Option.some.injEq, Prod.mk.injEq] at h
      obtain ⟨rfl, rfl⟩ := h
      simp [toList, List.range_succ_eq_map, Function.comp_def, Nat.add_assoc, Nat.add_comm 1]
  | numbers i n width =>
    cases n with
    | zero => simp [next?] at h
    | succ n =>
      simp only [next?, Option.some.injEq, Prod.mk.injEq] at h
      obtain ⟨rfl, rfl⟩ := h
      simp [toList, List.range_succ_eq_map, Function.comp_def, Int.add_assoc, Int.add_comm 1]

@[simp] theorem length_toList (v : Values) : v.toList.length = v.count := by
  cases v <;> simp [toList, count]

theorem count_of_next? {v rest : Values} {p : Points} (h : v.next? = some (p, rest)) :
    v.count = rest.count + 1 := by
  rw [← length_toList, toList_of_next? h, List.length_cons, length_toList]

end Values

end SelectorScan.Candidate
