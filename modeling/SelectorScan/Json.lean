import SelectorScan.Text.Quoted
import SelectorScan.Number.Binary64

/-!
# JSON values

Values as a web service sends them. Their texts are made of characters, or of code points, as an
escape may write a surrogate. Two values are the same when they are equal as data: a truth value
counts as the number 0 or 1, whole and floating point numbers are compared by value, what is not a
number is the same as itself, and the order of an object's members does not matter.
-/

namespace SelectorScan

/-- A JSON value with texts that are made of `γ`; an object has each name once. -/
inductive Json (γ : Type := Char) where
  | null
  | bool (value : Bool)
  | int (value : Int)
  | real (value : Number.Binary64)
  | text (value : List γ)
  | list (values : List (Json γ))
  | object (members : List (List γ × Json γ))
deriving Repr

namespace Json

variable {γ : Type}

def member? [BEq γ] (name : List γ) : Json γ → Option (Json γ)
  | object members => members.lookup name
  | _ => none

/-! ## Code points -/

mutual

/-- A value without surrogates as one that may hold some. -/
def points : Json → Json Point
  | null => null
  | bool b => bool b
  | int i => int i
  | real x => real x
  | text t => text (Points.ofText t)
  | list values => list (pointsList values)
  | object members => object (pointsMembers members)

def pointsList : List Json → List (Json Point)
  | [] => []
  | x :: xs => points x :: pointsList xs

def pointsMembers : List (Text × Json) → List (Points × Json Point)
  | [] => []
  | (name, x) :: xs => (Points.ofText name, points x) :: pointsMembers xs

end

/-! ## Truth -/

/-- Whether a value is more than nothing: not null, false, zero or empty. -/
def isTruthy : Json γ → Bool
  | null => false
  | bool b => b
  | int i => i != 0
  | real (.finite _ m _) => m != 0
  | real _ => true
  | text t => !t.isEmpty
  | list values => !values.isEmpty
  | object members => !members.isEmpty

/-! ## Equality -/

/-- A number as a whole number, if it is one, truth values included. -/
def whole? : Json γ → Option Int
  | bool b => some (if b then 1 else 0)
  | int i => some i
  | real x => x.toInt?
  | _ => none

section
variable [BEq γ]

mutual

/-- Whether two values are equal as data. -/
def same : Json γ → Json γ → Bool
  | null, null => true
  | text s, text t => s == t
  | list xs, list ys => sameList xs ys
  | object xs, object ys => xs.length == ys.length && sameMembers xs ys
  | real x, real y =>
    match x.toInt?, y.toInt? with
    | some i, some j => i == j
    | _, _ => x == y
  | x, y =>
    match x.whole?, y.whole? with
    | some i, some j => i == j
    | _, _ => false

/-- Whether two lists have equal values in order. -/
def sameList : List (Json γ) → List (Json γ) → Bool
  | [], [] => true
  | x :: xs, y :: ys => same x y && sameList xs ys
  | _, _ => false

/-- Whether every member of the first object has an equal one in the second. -/
def sameMembers : List (List γ × Json γ) → List (List γ × Json γ) → Bool
  | [], _ => true
  | (name, x) :: xs, ys =>
    (match ys.lookup name with
      | some y => same x y
      | none => false) && sameMembers xs ys

end

end

/-! ## Text -/

mutual

/-- A value within a list or an object, texts in quotation marks. -/
def inner : Json Point → Text
  | null => "None".toList
  | bool b => (if b then "True" else "False").toList
  | int i => Text.ofInt i
  | real x => x.write
  | text p => Points.quoted p
  | list values => '[' :: innerList values ++ [']']
  | object members => '\x7b' :: innerMembers members ++ ['\x7d']

/-- The values of a list with commas between them. -/
def innerList : List (Json Point) → Text
  | [] => []
  | [x] => inner x
  | x :: y :: rest => inner x ++ [',', ' '] ++ innerList (y :: rest)

/-- The members of an object with commas between them. -/
def innerMembers : List (Points × Json Point) → Text
  | [] => []
  | [(name, x)] => Points.quoted name ++ [':', ' '] ++ inner x
  | (name, x) :: y :: rest =>
    Points.quoted name ++ [':', ' '] ++ inner x ++ [',', ' '] ++ innerMembers (y :: rest)

end

/-- The text that stands for a value: a text itself, any other value as it is written. -/
def display : Json Point → Points
  | text p => p
  | x => inner x

end Json

end SelectorScan
