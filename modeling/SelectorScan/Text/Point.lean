import SelectorScan.Text

/-!
# Code points

A text is made of characters. What is put together from code points may be none: the surrogates,
which UTF-16 writes a character with two of, are no characters by themselves, and a sequence that
holds one can be kept and compared, but not be written in UTF-8. So `Points` has a text just when
it holds no surrogate (`text?_eq_some_iff`).
-/

namespace SelectorScan

inductive Point where
  | char (c : Char)
  /-- A surrogate, by its place behind the first one. -/
  | surrogate (place : Fin 0x800)
deriving DecidableEq, Repr

abbrev Points := List Point

/-! ## Single code points -/

namespace Point

theorem toNat_le (c : Char) : c.toNat ≤ 0x10FFFF := by
  have valid : c.toNat < 0xD800 ∨ 0xDFFF < c.toNat ∧ c.toNat < 0x110000 := c.valid
  omega

def firstSurrogate : Nat := 0xD800

def ofCode (code : Nat) : Point :=
  if h : firstSurrogate ≤ code ∧ code < firstSurrogate + 0x800 then
    .surrogate ⟨code - firstSurrogate, by omega⟩
  else .char (Char.ofNat code)

def code : Point → Nat
  | char c => c.toNat
  | surrogate place => firstSurrogate + place

def char? : Point → Option Char
  | char c => some c
  | surrogate _ => none

/-- The character that is shown for a code point: U+FFFD for a surrogate. -/
def shown : Point → Char
  | char c => c
  | surrogate _ => '\ufffd'

/-- Code points in the order of their numbers. -/
instance : LT Point := ⟨fun p q => p.code < q.code⟩

theorem code_ofCode {n : Nat} (h : n ≤ 0x10FFFF) : (ofCode n).code = n := by
  unfold ofCode
  split
  · next inside =>
    show firstSurrogate + (n - firstSurrogate) = n
    omega
  · next outside =>
    have valid : n.isValidChar := by
      unfold firstSurrogate at outside
      unfold Nat.isValidChar
      omega
    show (Char.ofNat n).toNat = n
    rw [Char.ofNat, dif_pos valid]
    rfl

end Point

/-! ## Sequences of code points -/

namespace Points

def ofText (t : Text) : Points :=
  t.map .char

instance : Coe Text Points := ⟨ofText⟩

/-- The text, if there is no surrogate. -/
def text? (p : Points) : Option Text :=
  p.mapM Point.char?

/-- What is shown for code points. -/
def shown (p : Points) : Text :=
  p.map Point.shown

@[simp] theorem ofText_nil : ofText [] = [] := rfl

@[simp] theorem ofText_append (s t : Text) : ofText (s ++ t) = ofText s ++ ofText t :=
  List.map_append

theorem mem_ofText {c : Char} {t : Text} : .char c ∈ ofText t ↔ c ∈ t := by
  simp [ofText]

theorem ofText_lt {s t : Text} (h : s < t) : ofText s < ofText t := by
  induction h with
  | nil => exact .nil
  | rel less => exact .rel less
  | cons _ ih => exact .cons ih

theorem ofText_injective {s t : Text} (h : ofText s = ofText t) : s = t :=
  (List.map_inj_right fun _ _ => Point.char.inj).1 h

@[simp] theorem shown_ofText (t : Text) : shown (ofText t) = t := by
  simp [shown, ofText, Function.comp_def, Point.shown]

theorem text?_eq_some_iff {p : Points} {t : Text} : text? p = some t ↔ p = ofText t := by
  induction p generalizing t with
  | nil => cases t <;> simp [text?, ofText]
  | cons c p ih =>
    cases c with
    | surrogate place => cases t <;> simp [text?, ofText, Point.char?]
    | char c =>
      have more : text? (.char c :: p) = (text? p).map (c :: ·) := by
        simp only [text?, List.mapM_cons, Point.char?]
        cases p.mapM Point.char? <;> rfl
      rw [more, Option.map_eq_some_iff]
      cases t with
      | nil => simp [ofText]
      | cons d t =>
        simp only [List.cons.injEq, ih, ofText, List.map_cons, Point.char.injEq]
        constructor
        · rintro ⟨u, rfl, rfl, rfl⟩
          exact ⟨rfl, rfl⟩
        · rintro ⟨rfl, h⟩
          exact ⟨t, h, rfl, rfl⟩

theorem text?_ofText (t : Text) : text? (ofText t) = some t :=
  text?_eq_some_iff.2 rfl

end Points

end SelectorScan
