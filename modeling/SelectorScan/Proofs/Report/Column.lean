import SelectorScan.Proofs.Number.Binary64
import SelectorScan.Report.Sheet

/-!
# Columns that are read again

A column is read as numbers, as truth values, or cell by cell, whichever all of its values allow
first. So texts are read as they were written only when none of them stands for a missing value,
they are not all numbers (but for infinite ones, which are written as words), and not all truth
words. Whatever it is read as, a column has empty cells where there was no value, and only there
(`readColumn_empty_iff`). A column of whole numbers below `2 ^ 53` is read as it was written.

    readColumn (ts.map .ofText) = ts.map .ofText ↔ Kept ts                 (readColumn_texts_iff)
-/

namespace SelectorScan.Report.Sheet

open Key Number

/-! ## Kinds of columns -/

/-- The cells of a column that have a value when they are read. -/
def present (column : List Cell) : List Cell :=
  column.filter fun c => !c.isMissing

theorem mem_present {column : List Cell} {c : Cell} :
    c ∈ present column ↔ c ∈ column ∧ c.isMissing = false := by
  simp [present]

/-- The whole numbers among the values of a column. -/
def wholes (column : List Cell) : List Int :=
  ((present column).filterMap Cell.quantity?).filterMap Quantity.whole?

/-- A column is read as numbers: all values are numbers, and the whole ones fit into 64 bits
together. -/
structure Numeric (column : List Cell) : Prop where
  numbers : ∀ c ∈ present column, c.quantity?.isSome = true
  fits : fit (wholes column) = true

/-- All values of a column are words for truth values. -/
def Truthful (column : List Cell) : Prop :=
  ∀ c ∈ present column, c.truth?.isSome = true

/-- A cell of a column of numbers when it is read. -/
def Cell.asNumber (c : Cell) : Cell :=
  if c.isMissing then .empty
  else
    match c.quantity? with
    | some q => .ofReal q.toReal
    | none => c

/-- A cell of a column of truth values when it is read. -/
def Cell.asTruth (c : Cell) : Cell :=
  if c.isMissing then .empty
  else
    match c.truth? with
    | some b => .truth b
    | none => c

theorem mapM_eq_filterMap {α β : Type} (f : α → Option β) (l : List α) :
    l.mapM f = if ∀ a ∈ l, (f a).isSome = true then some (l.filterMap f) else none := by
  induction l with
  | nil => simp
  | cons a l ih =>
    cases h : f a with
    | none => simp [List.mapM_cons, h]
    | some b =>
      rw [List.mapM_cons, ih, h, List.filterMap_cons_some h]
      simp only [List.forall_mem_cons, h, Option.isSome_some, true_and]
      split <;> rfl

variable {column : List Cell}

theorem numbers?_of_numeric (h : Numeric column) :
    numbers? column = some (column.map Cell.asNumber) := by
  have found := mapM_eq_filterMap Cell.quantity? (present column)
  rw [if_pos h.numbers] at found
  have fits := h.fits
  unfold wholes present at fits
  unfold present at found
  simp only [numbers?, found, fits, if_true]
  rfl

theorem numbers?_of_not_numeric (h : ¬Numeric column) : numbers? column = none := by
  have found := mapM_eq_filterMap Cell.quantity? (present column)
  by_cases all : ∀ c ∈ present column, c.quantity?.isSome = true
  · have unfit : ¬fit (wholes column) = true := fun fits => h ⟨all, fits⟩
    rw [if_pos all] at found
    unfold present at found
    unfold wholes present at unfit
    simp only [numbers?, found, if_neg unfit]
  · rw [if_neg all] at found
    unfold present at found
    simp only [numbers?, found]

theorem truthful_iff :
    (column.all fun c => c.isMissing || c.truth?.isSome) = true ↔ Truthful column := by
  simp only [Truthful, mem_present, List.all_eq_true, Bool.or_eq_true, and_imp,
    ← Bool.not_eq_true, or_iff_not_imp_left]

theorem readColumn_of_numeric (h : Numeric column) :
    readColumn column = column.map Cell.asNumber := by
  rw [readColumn, numbers?_of_numeric h]
  rfl

theorem readColumn_of_truthful (h : ¬Numeric column) (truthful : Truthful column) :
    readColumn column = column.map Cell.asTruth := by
  rw [readColumn, numbers?_of_not_numeric h, truths?, if_pos (truthful_iff.2 truthful)]
  rfl

theorem readColumn_of_mixed (h : ¬Numeric column) (mixed : ¬Truthful column) :
    readColumn column = column.map Cell.cleared := by
  rw [readColumn, numbers?_of_not_numeric h, truths?, if_neg (mt truthful_iff.1 mixed)]
  rfl

theorem length_readColumn (column : List Cell) : (readColumn column).length = column.length := by
  by_cases numeric : Numeric column
  · rw [readColumn_of_numeric numeric, List.length_map]
  by_cases truthful : Truthful column
  · rw [readColumn_of_truthful numeric truthful, List.length_map]
  · rw [readColumn_of_mixed numeric truthful, List.length_map]

/-! ## Columns of texts -/

/-- The texts can stand in a column and be read again: none stands for a missing value, if they are
numbers then infinite ones, and some of them is no truth word. -/
structure Kept (ts : List Text) : Prop where
  present : ∀ t ∈ ts, t ≠ [] → (Cell.text t).isMissing = false
  numbers : Numeric (ts.map .ofText) → ∀ t ∈ ts, t ≠ [] → t = "inf".toList ∨ t = "-inf".toList
  truths : (∃ t ∈ ts, t ≠ []) → ∃ t ∈ ts, t ≠ [] ∧ (Cell.text t).truth? = none

theorem ofText_of_ne_nil {t : Text} (filled : t ≠ []) : Cell.ofText t = .text t := by
  rw [Cell.ofText, if_neg (mt List.isEmpty_iff.1 filled)]

theorem ne_nil_of_present {t : Text} (h : (Cell.ofText t).isMissing = false) : t ≠ [] := by
  rintro rfl
  cases h

/-- The cell of a floating point number is a text only for infinities. -/
theorem ofReal_eq_text_iff {x : Binary64} {t : Text} : Cell.ofReal x = .text t ↔
    ∃ negative, x = .infinite negative ∧ t = if negative then "-inf".toList else "inf".toList := by
  cases x with
  | finite => exact iff_of_false nofun nofun
  | infinite negative =>
    constructor
    · intro h
      exact ⟨negative, rfl, (Cell.text.inj h).symm⟩
    · rintro ⟨_, ⟨⟩, rfl⟩
      rfl
  | notANumber => exact iff_of_false nofun nofun

/-- A text that is a number is read as itself only if it is an infinite one. -/
theorem asNumber_text_iff {t : Text} (number : (quantityOfText? t).isSome = true)
    (present : (Cell.text t).isMissing = false) :
    (Cell.text t).asNumber = .text t ↔ t = "inf".toList ∨ t = "-inf".toList := by
  obtain ⟨q, hq⟩ := Option.isSome_iff_exists.1 number
  have read : (Cell.text t).asNumber = .ofReal q.toReal := by
    rw [Cell.asNumber, present, if_neg Bool.false_ne_true, Cell.quantity?, hq]
  rw [read, ofReal_eq_text_iff]
  constructor
  · rintro ⟨negative, -, rfl⟩
    cases negative
    · exact .inl rfl
    · exact .inr rfl
  · have positive : quantityOfText? "inf".toList = some (.real (.infinite false)) := by decide
    have negative : quantityOfText? "-inf".toList = some (.real (.infinite true)) := by decide
    rintro (rfl | rfl)
    · cases hq.symm.trans positive
      exact ⟨false, rfl, rfl⟩
    · cases hq.symm.trans negative
      exact ⟨true, rfl, rfl⟩

theorem asTruth_text_ne {t : Text} (truth : (Cell.text t).truth?.isSome = true) :
    (Cell.text t).asTruth ≠ .text t := by
  obtain ⟨b, hb⟩ := Option.isSome_iff_exists.1 truth
  rw [Cell.asTruth, hb]
  split
  · nofun
  · nofun

variable {ts : List Text}

/-- A column without values is one of numbers. -/
theorem exists_present (h : ¬Numeric (ts.map .ofText)) :
    ∃ t ∈ ts, (Cell.ofText t).isMissing = false := by
  by_contra none
  have nothing : present (ts.map .ofText) = [] := by
    rw [present, List.filter_eq_nil_iff]
    intro c hc
    obtain ⟨t, ht, rfl⟩ := List.mem_map.1 hc
    simpa using fun here => none ⟨t, ht, here⟩
  exact h ⟨by rw [nothing]; nofun, by rw [wholes, nothing]; rfl⟩

theorem asNumber_ofText_iff {t : Text} (number : t ≠ [] → (Cell.text t).isMissing = false →
    (quantityOfText? t).isSome = true) : (Cell.ofText t).asNumber = .ofText t ↔
      (t ≠ [] → (Cell.text t).isMissing = false ∧ (t = "inf".toList ∨ t = "-inf".toList)) := by
  by_cases filled : t = []
  · subst filled
    exact iff_of_true rfl fun h => absurd rfl h
  rw [ofText_of_ne_nil filled]
  cases missing : (Cell.text t).isMissing with
  | true =>
    rw [Cell.asNumber, missing, if_pos rfl]
    exact iff_of_false nofun fun h => nomatch (h filled).1
  | false =>
    rw [asNumber_text_iff (number filled missing) missing]
    exact ⟨fun h _ => ⟨rfl, h⟩, fun h => (h filled).2⟩

theorem readColumn_numeric_iff (numeric : Numeric (ts.map .ofText)) :
    readColumn (ts.map .ofText) = ts.map .ofText ↔ Kept ts := by
  have number : ∀ t ∈ ts, t ≠ [] → (Cell.text t).isMissing = false →
      (quantityOfText? t).isSome = true := by
    intro t ht filled missing
    have cell : Cell.text t ∈ ts.map .ofText :=
      List.mem_map.2 ⟨t, ht, ofText_of_ne_nil filled⟩
    exact numeric.numbers _ (mem_present.2 ⟨cell, missing⟩)
  have each : readColumn (ts.map .ofText) = ts.map .ofText ↔ ∀ t ∈ ts, t ≠ [] →
      (Cell.text t).isMissing = false ∧ (t = "inf".toList ∨ t = "-inf".toList) := by
    rw [readColumn_of_numeric numeric, List.map_map, List.map_inj_left]
    exact forall₂_congr fun t ht => asNumber_ofText_iff (number t ht)
  rw [each]
  constructor
  · intro h
    refine ⟨fun t ht filled => (h t ht filled).1, fun _ t ht filled => (h t ht filled).2, ?_⟩
    rintro ⟨t, ht, filled⟩
    refine ⟨t, ht, filled, ?_⟩
    rcases (h t ht filled).2 with rfl | rfl
    · decide
    · decide
  · intro kept t ht filled
    exact ⟨kept.present t ht filled, kept.numbers numeric t ht filled⟩

theorem readColumn_truthful_iff (numeric : ¬Numeric (ts.map .ofText))
    (truthful : Truthful (ts.map .ofText)) :
    readColumn (ts.map .ofText) = ts.map .ofText ↔ Kept ts := by
  have truth : ∀ t ∈ ts, (Cell.ofText t).isMissing = false → (Cell.ofText t).truth?.isSome := by
    intro t ht missing
    exact truthful _ (mem_present.2 ⟨List.mem_map_of_mem ht, missing⟩)
  obtain ⟨t, ht, missing⟩ := exists_present numeric
  have filled := ne_nil_of_present missing
  refine iff_of_false ?_ ?_
  · rw [readColumn_of_truthful numeric truthful, List.map_map, List.map_inj_left]
    intro same
    have word := truth t ht missing
    have kept := same t ht
    rw [Function.comp_apply, ofText_of_ne_nil filled] at kept
    rw [ofText_of_ne_nil filled] at word
    exact asTruth_text_ne word kept
  · intro kept
    obtain ⟨u, hu, filled, none⟩ := kept.truths ⟨t, ht, filled⟩
    have word := truth u hu (by rw [ofText_of_ne_nil filled]; exact kept.present u hu filled)
    rw [ofText_of_ne_nil filled, none] at word
    cases word

theorem readColumn_mixed_iff (numeric : ¬Numeric (ts.map .ofText))
    (mixed : ¬Truthful (ts.map .ofText)) :
    readColumn (ts.map .ofText) = ts.map .ofText ↔ Kept ts := by
  have each : readColumn (ts.map .ofText) = ts.map .ofText ↔
      ∀ t ∈ ts, t ≠ [] → (Cell.text t).isMissing = false := by
    rw [readColumn_of_mixed numeric mixed, List.map_map, List.map_inj_left]
    refine forall₂_congr fun t ht => ?_
    by_cases filled : t = []
    · subst filled
      exact iff_of_true rfl fun h => absurd rfl h
    · rw [Function.comp_apply, ofText_of_ne_nil filled, Cell.cleared]
      cases (Cell.text t).isMissing <;> simp [filled]
  rw [each]
  constructor
  · intro h
    refine ⟨h, fun all => absurd all numeric, fun _ => ?_⟩
    by_contra words
    apply mixed
    intro c hc
    obtain ⟨hc, missing⟩ := mem_present.1 hc
    obtain ⟨t, ht, rfl⟩ := List.mem_map.1 hc
    have filled := ne_nil_of_present missing
    rw [ofText_of_ne_nil filled, Option.isSome_iff_ne_none]
    exact fun none => words ⟨t, ht, filled, none⟩
  · exact fun kept => kept.present

/-- Exactly the columns that are kept are read as they were written. -/
theorem readColumn_texts_iff :
    readColumn (ts.map .ofText) = ts.map .ofText ↔ Kept ts := by
  by_cases numeric : Numeric (ts.map .ofText)
  · exact readColumn_numeric_iff numeric
  by_cases truthful : Truthful (ts.map .ofText)
  · exact readColumn_truthful_iff numeric truthful
  · exact readColumn_mixed_iff numeric truthful

/-! ## Cells that become empty -/

theorem roundQuotient_ne_notANumber (negative : Bool) (num den : Nat) :
    Binary64.roundQuotient negative num den ≠ .notANumber := by
  unfold Binary64.roundQuotient
  simp only
  split
  · nofun
  · split <;> split <;> nofun

/-- A text is never read as something that is not a number. -/
theorem toReal_ne_notANumber {t : Text} {q : Quantity} (h : quantityOfText? t = some q) :
    q.toReal ≠ .notANumber := by
  unfold quantityOfText? at h
  simp only at h
  split at h
  · cases h
  · split at h
    · cases h
      exact roundQuotient_ne_notANumber _ _ _
    · split at h
      · cases h
      · cases h
      · split at h
        · cases h
          nofun
        · cases h
      · cases h
        nofun

theorem asNumber_ofText_eq_empty_iff {t : Text} :
    (Cell.ofText t).asNumber = .empty ↔ (Cell.ofText t).isMissing = true := by
  rw [Cell.asNumber]
  split
  · next missing => exact iff_of_true rfl missing
  · next missing =>
    have filled := ne_nil_of_present (Bool.eq_false_iff.2 missing)
    refine iff_of_false ?_ missing
    rw [ofText_of_ne_nil filled]
    split
    · next q hq =>
      have number := toReal_ne_notANumber hq
      cases hx : q.toReal with
      | notANumber => exact absurd hx number
      | _ => nofun
    · nofun

theorem asTruth_eq_empty_iff {c : Cell} : c.asTruth = .empty ↔ c.isMissing = true := by
  rw [Cell.asTruth]
  split
  · next missing => exact iff_of_true rfl missing
  · next missing =>
    refine iff_of_false ?_ missing
    split
    · nofun
    · rintro rfl
      exact missing rfl

theorem cleared_eq_empty_iff {c : Cell} : c.cleared = .empty ↔ c.isMissing = true := by
  rw [Cell.cleared]
  split
  · next missing => exact iff_of_true rfl missing
  · next missing =>
    refine iff_of_false ?_ missing
    rintro rfl
    exact missing rfl

/-- A text in a column becomes an empty cell exactly when it has no value, whatever the column is
taken for. -/
theorem readColumn_empty_iff {k : Nat} {t : Text} (h : ts[k]? = some t) :
    (readColumn (ts.map .ofText))[k]? = some .empty ↔ (Cell.ofText t).isMissing = true := by
  have each (read : Cell → Cell) : ((ts.map .ofText).map read)[k]? = some .empty ↔
      read (.ofText t) = .empty := by
    rw [List.map_map, List.getElem?_map, h]
    exact Option.some_inj
  by_cases numeric : Numeric (ts.map .ofText)
  · rw [readColumn_of_numeric numeric, each, asNumber_ofText_eq_empty_iff]
  by_cases truthful : Truthful (ts.map .ofText)
  · rw [readColumn_of_truthful numeric truthful, each, asTruth_eq_empty_iff]
  · rw [readColumn_of_mixed numeric truthful, each, cleared_eq_empty_iff]

/-! ## Columns of whole numbers -/

section
variable {n : Nat} (small : n < 2 ^ 53)
include small

theorem ofReal_realOfInt : Cell.ofReal (realOfInt n) = .number (Text.ofNat n) := by
  obtain ⟨k, whole⟩ := Binary64.roundQuotient_whole small
  have real : realOfInt n = Binary64.roundQuotient false n 1 := by
    rw [realOfInt, decide_eq_false (by omega), Int.natAbs_natCast]
  rw [real, ← Binary64.writePlain_whole small, whole]
  rfl

theorem quantity?_number : (Cell.number (Text.ofNat n)).quantity? = some (.whole n) := by
  have few : (Text.ofNat n).length ≤ 16 :=
    (Nat.length_toDigits_le_iff (by decide) (by decide)).2 (Nat.lt_trans small (by decide))
  rw [Cell.quantity?, Binary64.read?_ofNat (Nat.le_trans few (by decide)), Option.map_some,
    Quantity.ofReal, Binary64.toInt?_whole small]

theorem asNumber_number : (Cell.number (Text.ofNat n)).asNumber = .number (Text.ofNat n) := by
  have present : (Cell.number (Text.ofNat n)).isMissing = false := rfl
  rw [Cell.asNumber, present, if_neg Bool.false_ne_true, quantity?_number small]
  exact ofReal_realOfInt small

end

/-- Whole numbers that are not negative fit into 64 bits without a sign. -/
theorem fit_of_nonneg {wholes : List Int} (h : ∀ i ∈ wholes, 0 ≤ i ∧ i < 2 * halfRange) :
    fit wholes = true := by
  simp only [fit, Bool.and_eq_true, Bool.or_eq_true, List.all_eq_true, decide_eq_true_eq]
  refine ⟨fun i hi => ?_, .inr fun i hi => (h i hi).1⟩
  have := h i hi
  unfold halfRange at *
  omega

/-- A column of natural numbers of 64 bits at most is one of numbers. -/
theorem numeric_of_naturals
    (h : ∀ c ∈ column, ∃ n : Nat, n < 2 ^ 64 ∧ c.quantity? = some (.whole n)) :
    Numeric column where
  numbers := by
    intro c hc
    obtain ⟨n, -, read⟩ := h c (mem_present.1 hc).1
    rw [read]
    rfl
  fits := by
    apply fit_of_nonneg
    intro i hi
    obtain ⟨q, hq, whole⟩ := List.mem_filterMap.1 hi
    obtain ⟨c, hc, read⟩ := List.mem_filterMap.1 hq
    obtain ⟨n, small, read'⟩ := h c (mem_present.1 hc).1
    cases read.symm.trans read'
    cases whole
    unfold halfRange
    omega

/-- Columns of whole numbers are kept. -/
theorem readColumn_wholes {ns : List Nat} (small : ∀ n ∈ ns, n < 2 ^ 53) :
    readColumn (ns.map fun n => .number (Text.ofNat n)) =
      ns.map fun n => .number (Text.ofNat n) := by
  have numeric : Numeric (ns.map fun n => .number (Text.ofNat n)) := by
    apply numeric_of_naturals
    intro c hc
    obtain ⟨n, hn, rfl⟩ := List.mem_map.1 hc
    exact ⟨n, Nat.lt_trans (small n hn) (by decide), quantity?_number (small n hn)⟩
  rw [readColumn_of_numeric numeric, List.map_map]
  exact List.map_congr_left fun n hn => asNumber_number (small n hn)

/-! ## Decimals -/

theorem quantityOfText?_ofNat {n : Nat} (small : n < 10 ^ maxDigits) :
    quantityOfText? (Text.ofNat n) = some (.whole n) := by
  have digit {c : Char} (hc : c ∈ Text.ofNat n) := isDigit_bounds (isDigit_of_mem_ofNat hc)
  have inside : ∀ c ∈ Text.ofNat n, isCellMargin c = false := by
    intro c hc
    have bounds := digit hc
    have visible : c ≠ ' ' := by
      rintro rfl
      exact absurd bounds.1 (by decide)
    simp only [isCellMargin, visible, decide_false, Bool.false_or, Bool.and_eq_false_iff,
      decide_eq_false_iff_not]
    omega
  have whole := Text.trim_eq_self (fun c hc => inside c (List.mem_of_head? hc))
    fun c hc => inside c (List.mem_of_getLast? hc)
  have plain : (Text.ofNat n).any (fun c => c = '_' || 0x80 ≤ c.toNat) = false := by
    rw [List.any_eq_false]
    intro c hc
    have bounds := digit hc
    have other : c ≠ '_' := by
      rintro rfl
      exact absurd bounds.2 (by decide)
    simp only [other, decide_false, Bool.false_or, decide_eq_true_eq]
    omega
  have read : readInt? (Text.ofNat n) = some (n : Int) := readInt?_ofInt (i := n) small
  rw [quantityOfText?, whole]
  simp only [plain, read]
  rfl

/-- Decimals that fit into 64 bits are not kept: they become numbers. -/
theorem not_kept_of_decimals (filled : ts ≠ [])
    (decimals : ∀ t ∈ ts, ∃ n < 2 ^ 64, t = Text.ofNat n) : ¬Kept ts := by
  have numeric : Numeric (ts.map .ofText) := by
    apply numeric_of_naturals
    intro c hc
    obtain ⟨t, ht, rfl⟩ := List.mem_map.1 hc
    obtain ⟨n, small, rfl⟩ := decimals t ht
    have digits : Text.ofNat n ≠ [] := Nat.toDigits_ne_nil
    have most : 2 ^ 64 < 10 ^ maxDigits :=
      Nat.lt_of_lt_of_le (by decide : 2 ^ 64 < 10 ^ 20)
        (Nat.pow_le_pow_right (by decide) (by decide))
    rw [ofText_of_ne_nil digits]
    exact ⟨n, small, quantityOfText?_ofNat (Nat.lt_trans small most)⟩
  intro kept
  obtain ⟨t, ht⟩ := List.exists_mem_of_ne_nil ts filled
  obtain ⟨n, -, rfl⟩ := decimals t ht
  have letter : 'i' ∈ Text.ofNat n := by
    rcases kept.numbers numeric _ ht Nat.toDigits_ne_nil with e | e
    · rw [e]; decide
    · rw [e]; decide
  exact absurd (isDigit_of_mem_ofNat letter) (by decide)

end SelectorScan.Report.Sheet
