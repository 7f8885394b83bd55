/-!
# Text

Text is the list of its characters: every format of this library is read from the left, one
character at a time, and each reader stands beside the writer it undoes.

* `split` cuts at a separator and `join` puts the pieces back (`join_split`); no other pieces that
  are without separators do so (`split_eq_iff`).
* `breakOn` cuts at the first occurrence of a marker (`breakOn_eq_some_iff`), and only a text
  without the marker is not cut (`breakOn_eq_none_iff`).
-/

namespace SelectorScan

/-- A text, character by character. -/
abbrev Text := List Char

namespace Text

/-! ## Algorithm -/

/-- The pieces between the separators, of which there is one more than separators. -/
def split (sep : Char) : Text → List Text
  | [] => [[]]
  | c :: rest =>
    if c = sep then [] :: split sep rest
    else
      match split sep rest with
      | [] => [[c]]
      | piece :: pieces => (c :: piece) :: pieces

/-- The pieces with a separator between neighbours. -/
def join (sep : Text) : List Text → Text
  | [] => []
  | [piece] => piece
  | piece :: next :: rest => piece ++ sep ++ join sep (next :: rest)

/-- What follows `marker` in a text that begins with it. -/
def after? : Text → Text → Option Text
  | [], t => some t
  | _ :: _, [] => none
  | m :: ms, c :: cs => if m = c then after? ms cs else none

/-- What stands before and after the first occurrence of `marker`. -/
def breakOn (marker : Text) : Text → Option (Text × Text)
  | [] => if marker.isEmpty then some ([], []) else none
  | c :: rest =>
    match after? marker (c :: rest) with
    | some after => some ([], after)
    | none => (breakOn marker rest).map fun parts => (c :: parts.1, parts.2)

/-- The text is cut in two by the marker, and the marker does not stand further left in it. -/
def CutFirst (marker t front back : Text) : Prop :=
  t = front ++ marker ++ back ∧
    ∀ front' back', t = front' ++ marker ++ back' → front.length ≤ front'.length

/-- Drops the longest tail whose characters all satisfy `p`. -/
def trimEnd (p : Char → Bool) (t : Text) : Text :=
  (t.reverse.dropWhile p).reverse

/-- Drops the characters that satisfy `p` at both ends. -/
def trim (p : Char → Bool) (t : Text) : Text :=
  trimEnd p (t.dropWhile p)

/-- A natural number in decimal digits, without leading zeros. -/
def ofNat (n : Nat) : Text :=
  Nat.toDigits 10 n

/-- An integer in decimal digits, with a sign when it is negative. -/
def ofInt (i : Int) : Text :=
  if i < 0 then '-' :: ofNat i.natAbs else ofNat i.natAbs

/-- The text with zeros in front up to `width` characters. -/
def padZeros (width : Nat) (t : Text) : Text :=
  List.replicate (width - t.length) '0' ++ t

/-- The text with spaces in front up to `width` characters. -/
def padLeft (width : Nat) (t : Text) : Text :=
  List.replicate (width - t.length) ' ' ++ t

/-- The order of texts by code point, a prefix first. -/
def before : Text → Text → Bool
  | _, [] => false
  | [], _ :: _ => true
  | a :: as, b :: bs => if a = b then before as bs else a < b

/-! ## Lemmas -/

@[simp] theorem split_nil (sep : Char) : split sep [] = [[]] := rfl

theorem split_ne_nil (sep : Char) (t : Text) : split sep t ≠ [] := by
  cases t with
  | nil => simp
  | cons c rest =>
    unfold split
    split
    · simp
    · split <;> simp

@[simp] theorem split_sep (sep : Char) (t : Text) : split sep (sep :: t) = [] :: split sep t := by
  simp [split]

theorem split_cons {sep c : Char} (h : c ≠ sep) {t : Text} {piece : Text} {pieces : List Text}
    (ht : split sep t = piece :: pieces) : split sep (c :: t) = (c :: piece) :: pieces := by
  simp [split, h, ht]

/-- Putting the pieces back gives the text that was cut. -/
theorem join_split (sep : Char) (t : Text) : join [sep] (split sep t) = t := by
  induction t with
  | nil => rfl
  | cons c rest ih =>
    obtain ⟨piece, pieces, h⟩ := List.exists_cons_of_ne_nil (split_ne_nil sep rest)
    by_cases hc : c = sep
    · subst hc
      rw [split_sep, h, join, ← h, ih]
      rfl
    · rw [split_cons hc h]
      rw [h] at ih
      cases pieces with
      | nil => simpa [join] using ih
      | cons next more => simpa [join] using ih

theorem not_mem_of_mem_split {sep : Char} {t piece : Text} (h : piece ∈ split sep t) :
    sep ∉ piece := by
  induction t generalizing piece with
  | nil =>
    rw [split_nil, List.mem_singleton] at h
    rw [h]
    exact List.not_mem_nil
  | cons c rest ih =>
    by_cases hc : c = sep
    · rw [hc, split_sep] at h
      rcases List.mem_cons.1 h with rfl | h
      · exact List.not_mem_nil
      · exact ih h
    · obtain ⟨first, pieces, hs⟩ := List.exists_cons_of_ne_nil (split_ne_nil sep rest)
      rw [split_cons hc hs] at h
      rw [hs] at ih
      rcases List.mem_cons.1 h with rfl | h
      · rw [List.mem_cons, not_or]
        exact ⟨Ne.symm hc, ih List.mem_cons_self⟩
      · exact ih (List.mem_cons_of_mem _ h)

theorem join_cons {pieces : List Text} (h : pieces ≠ []) (sep piece : Text) :
    join sep (piece :: pieces) = piece ++ sep ++ join sep pieces := by
  obtain ⟨next, rest, rfl⟩ := List.exists_cons_of_ne_nil h
  rfl

theorem mem_join {sep : Text} {pieces : List Text} {c : Char} (h : c ∈ join sep pieces) :
    c ∈ sep ∨ ∃ piece ∈ pieces, c ∈ piece := by
  induction pieces with
  | nil => cases h
  | cons piece rest ih =>
    by_cases last : rest = []
    · rw [last] at h
      exact .inr ⟨piece, List.mem_cons_self, h⟩
    · rw [join_cons last, List.mem_append, List.mem_append] at h
      rcases h with (h | h) | h
      · exact .inr ⟨piece, List.mem_cons_self, h⟩
      · exact .inl h
      · rcases ih h with h | ⟨p, hp, h⟩
        · exact .inl h
        · exact .inr ⟨p, List.mem_cons_of_mem _ hp, h⟩

theorem mem_join_of_mem {pieces : List Text} {piece : Text} (h : piece ∈ pieces) (sep : Text)
    {c : Char} (hc : c ∈ piece) : c ∈ join sep pieces := by
  induction pieces with
  | nil => cases h
  | cons first rest ih =>
    by_cases last : rest = []
    · rw [last, List.mem_singleton] at h
      rw [last, ← h]
      exact hc
    · rw [join_cons last, List.mem_append, List.mem_append]
      rcases List.mem_cons.1 h with rfl | h
      · exact .inl (.inl hc)
      · exact .inr (ih h)

theorem split_of_not_mem {sep : Char} {t : Text} (h : sep ∉ t) : split sep t = [t] := by
  induction t with
  | nil => rfl
  | cons c rest ih =>
    rw [List.mem_cons, not_or] at h
    exact split_cons (Ne.symm h.1) (ih h.2)

theorem split_append_sep {sep : Char} {t : Text} (h : sep ∉ t) (rest : Text) :
    split sep (t ++ sep :: rest) = t :: split sep rest := by
  induction t with
  | nil => exact split_sep sep rest
  | cons c t ih =>
    rw [List.mem_cons, not_or] at h
    exact split_cons (Ne.symm h.1) (ih h.2)

/-- The pieces are the only ones without separators that give the text that was cut. -/
theorem split_eq_iff {sep : Char} {t : Text} {pieces : List Text} :
    split sep t = pieces ↔
      pieces ≠ [] ∧ (∀ piece ∈ pieces, sep ∉ piece) ∧ join [sep] pieces = t := by
  constructor
  · rintro rfl
    exact ⟨split_ne_nil sep t, fun piece => not_mem_of_mem_split, join_split sep t⟩
  · rintro ⟨filled, free, rfl⟩
    induction pieces with
    | nil => exact absurd rfl filled
    | cons piece rest ih =>
      have free' : sep ∉ piece := free piece List.mem_cons_self
      by_cases last : rest = []
      · rw [last]
        exact split_of_not_mem free'
      · rw [join_cons last, List.append_assoc, List.singleton_append, split_append_sep free',
          ih last fun p hp => free p (List.mem_cons_of_mem _ hp)]

theorem after?_eq_some_iff {marker t rest : Text} :
    after? marker t = some rest ↔ t = marker ++ rest := by
  induction marker generalizing t with
  | nil => simp [after?, eq_comm]
  | cons m ms ih =>
    cases t with
    | nil => simp [after?]
    | cons c cs =>
      by_cases h : m = c
      · simp [after?, h, ih]
      · simp [after?, h, Ne.symm h]

theorem breakOn_eq_some {marker t front back : Text} (h : breakOn marker t = some (front, back)) :
    t = front ++ marker ++ back := by
  induction t generalizing front with
  | nil =>
    simp only [breakOn] at h
    split at h
    · simp_all
    · simp at h
  | cons c rest ih =>
    simp only [breakOn] at h
    split at h
    · next after hp =>
      simp only [Option.some.injEq, Prod.mk.injEq] at h
      obtain ⟨rfl, rfl⟩ := h
      simpa using after?_eq_some_iff.1 hp
    · simp only [Option.map_eq_some_iff, Prod.mk.injEq] at h
      obtain ⟨⟨f, b⟩, hb, rfl, rfl⟩ := h
      simpa using ih hb

/-- A text that holds the marker is cut no further right than there. -/
theorem exists_breakOn {marker t front back : Text} (h : t = front ++ marker ++ back) :
    ∃ front' back', breakOn marker t = some (front', back') ∧ front'.length ≤ front.length := by
  induction t generalizing front with
  | nil =>
    have hm : marker = [] := by
      have hl := congrArg List.length h
      simp only [List.length_append, List.length_nil] at hl
      exact List.eq_nil_of_length_eq_zero (by omega)
    exact ⟨[], [], by simp [breakOn, hm], Nat.zero_le _⟩
  | cons c rest ih =>
    cases ha : after? marker (c :: rest) with
    | some after => exact ⟨[], after, by simp [breakOn, ha], Nat.zero_le _⟩
    | none =>
      cases front with
      | nil =>
        -- the marker stands right here, so it would have been seen
        rw [after?_eq_some_iff.2 (by simpa using h)] at ha
        cases ha
      | cons d front =>
        simp only [List.cons_append, List.cons.injEq] at h
        obtain ⟨front', back', hb, hle⟩ := ih h.2
        refine ⟨c :: front', back', by simp [breakOn, ha, hb], ?_⟩
        simp only [List.length_cons]
        omega

theorem breakOn_eq_some_iff {marker t front back : Text} :
    breakOn marker t = some (front, back) ↔ CutFirst marker t front back := by
  constructor
  · intro h
    refine ⟨breakOn_eq_some h, ?_⟩
    intro front' back' h'
    obtain ⟨f, b, hb, hle⟩ := exists_breakOn h'
    rw [h] at hb
    cases hb
    exact hle
  · rintro ⟨h, least⟩
    obtain ⟨f, b, hb, hle⟩ := exists_breakOn h
    have cut := breakOn_eq_some hb
    have hlen : f.length = front.length := Nat.le_antisymm hle (least f b cut)
    have same : f ++ marker = front ++ marker ∧ b = back := by
      apply List.append_inj (cut.symm.trans h)
      simp [hlen]
    rw [hb, List.append_cancel_right same.1, same.2]

theorem breakOn_eq_none_iff {marker t : Text} : breakOn marker t = none ↔ ¬marker <:+: t := by
  constructor
  · rintro h ⟨front, back, ht⟩
    obtain ⟨f, b, hb, -⟩ := exists_breakOn ht.symm
    rw [h] at hb
    cases hb
  · intro h
    cases hb : breakOn marker t with
    | none => rfl
    | some parts => exact absurd ⟨parts.1, parts.2, (breakOn_eq_some hb).symm⟩ h

end Text

end SelectorScan
