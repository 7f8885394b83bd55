import Mathlib.Data.Nat.Digits.Defs
import SelectorScan.Number.Integer
import SelectorScan.Proofs.Text.Blank

/-!
# Reading back integers

Whatever its width, an integer is written in ASCII decimals (`isDecimal_writeInt`), which are read
back unless they have too many digits (`IsDecimal.readInt?_eq`). An integer that was read from a
text has few enough digits to be written in canonical decimals and read again:

    readInt? t = some i → readInt? (ofInt i) = some i                     (readInt?_ofInt_of_read)
-/

namespace SelectorScan.Number

open Text

/-! ## Size -/

theorem ofDigits_lt {ds : List Nat} (h : ∀ d ∈ ds, d < 10) : ofDigits ds < 10 ^ ds.length := by
  have reversed : ofDigits ds = Nat.ofDigits 10 ds.reverse := by
    rw [Nat.ofDigits_eq_foldr, List.foldr_reverse, ofDigits]
    simp only [Nat.cast_id, Nat.add_comm]
  rw [reversed, ← List.length_reverse]
  exact Nat.ofDigits_lt_base_pow_length (by decide) fun d hd => h d (List.mem_reverse.1 hd)

theorem lt_of_mem_readDigits? {t : Text} {ds : List Nat} (h : readDigits? t = some ds) :
    ∀ d ∈ ds, d < 10 := by
  induction t using readDigits?.induct generalizing ds with
  | case1 => cases h
  | case2 c rest ih =>
    rw [readDigits?] at h
    obtain ⟨d, hd, he⟩ := Option.bind_eq_some_iff.1 h
    have digits : ∀ ds', (∀ e ∈ ds', e < 10) → ∀ e ∈ d :: ds', e < 10 := by
      intro ds' small e he
      rcases List.mem_cons.1 he with rfl | he
      · exact digit?_lt hd
      · exact small e he
    split at he
    · cases he
      exact digits [] nofun
    · obtain ⟨ds', hr, rfl⟩ := Option.map_eq_some_iff.1 he
      exact digits ds' (ih hr)
    · next filled plain =>
      obtain ⟨ds', hr, rfl⟩ := Option.map_eq_some_iff.1 he
      split at ih
      · exact absurd rfl filled
      · exact absurd rfl (plain _)
      · exact digits ds' (ih hr)

theorem readNat?_lt {t : Text} {n : Nat} (h : readNat? t = some n) : n < 10 ^ maxDigits := by
  obtain ⟨ds, hd, he⟩ := Option.bind_eq_some_iff.1 h
  split at he
  · next few =>
    cases he
    exact Nat.lt_of_lt_of_le (ofDigits_lt (lt_of_mem_readDigits? hd))
      (Nat.pow_le_pow_right (by decide) few)
  · cases he

/-- What is read as an integer is one of at most `maxDigits` digits. -/
theorem natAbs_lt_of_readInt? {t : Text} {i : Int} (h : readInt? t = some i) :
    i.natAbs < 10 ^ maxDigits := by
  unfold readInt? at h
  split at h
  · obtain ⟨_, hm, rfl⟩ := Option.map_eq_some_iff.1 h
    obtain ⟨n, hn, hi⟩ := Option.bind_eq_some_iff.1 hm
    cases hi
    rw [Int.natAbs_neg]
    exact readNat?_lt hn
  · obtain ⟨n, hn, rfl⟩ := Option.map_eq_some_iff.1 h
    exact readNat?_lt hn
  · obtain ⟨n, hn, rfl⟩ := Option.map_eq_some_iff.1 h
    exact readNat?_lt hn

/-! ## Decimals -/

theorem isDigit_bounds {c : Char} (h : c.isDigit = true) : 0x30 ≤ c.toNat ∧ c.toNat ≤ 0x39 := by
  simp only [Char.isDigit, Bool.and_eq_true, decide_eq_true_eq] at h
  exact h

theorem not_isBlank_of_isDigit {c : Char} (h : c.isDigit = true) : isBlank c = false := by
  have := isDigit_bounds h
  simp only [isBlank, Bool.or_eq_false_iff, Bool.and_eq_false_iff, decide_eq_false_iff_not,
    beq_eq_false_iff_ne]
  omega

theorem digit?_of_isDigit {c : Char} (h : c.isDigit = true) :
    digit? c = some (c.toNat - '0'.toNat) := by
  have bounds : 0x30 ≤ c.toNat ∧ c.toNat < 0x30 + 10 := by
    have := isDigit_bounds h
    omega
  rw [digit?, zeros, List.findSome?_cons, if_pos bounds]
  rfl

theorem readDigits?_of_isDigit {t : Text} (filled : t ≠ []) (h : ∀ c ∈ t, c.isDigit = true) :
    readDigits? t = some (t.map fun c => c.toNat - '0'.toNat) := by
  induction t with
  | nil => exact absurd rfl filled
  | cons c rest ih =>
    have hc := digit?_of_isDigit (h c List.mem_cons_self)
    cases rest with
    | nil =>
      rw [readDigits?, hc]
      rfl
    | cons next more =>
      have ih := ih (List.cons_ne_nil _ _) fun d hd => h d (List.mem_cons_of_mem _ hd)
      have plain : next ≠ '_' := by
        intro e
        have hn := h next (List.mem_cons_of_mem _ List.mem_cons_self)
        rw [e] at hn
        exact absurd hn (by decide)
      rw [readDigits?, hc, Option.bind_some]
      split
      · next e => cases e
      · next e =>
        cases e
        exact absurd rfl plain
      · rw [ih]
        rfl

theorem isDigit_of_mem_ofNat {c : Char} {n : Nat} (h : c ∈ ofNat n) : c.isDigit = true :=
  Nat.isDigit_of_mem_toDigits (by decide) (by decide) h

/-- A number is told by its digits. -/
theorem ofNat_inj {m n : Nat} (h : ofNat m = ofNat n) : m = n := by
  have value (k : Nat) : Nat.ofDigitChars 10 (ofNat k) 0 = k := Nat.ofDigitChars_ten_toDigits
  rw [← value m, h, value]

theorem lt_pow_length (n : Nat) : n < 10 ^ (ofNat n).length :=
  (Nat.length_toDigits_le_iff (by decide) Nat.length_toDigits_pos).1 (Nat.le_refl _)

theorem length_ofNat_le {m n : Nat} (h : m ≤ n) : (ofNat m).length ≤ (ofNat n).length :=
  (Nat.length_toDigits_le_iff (by decide) Nat.length_toDigits_pos).2
    (Nat.lt_of_le_of_lt h (lt_pow_length n))

theorem ofDigits_map (ds : Text) :
    ofDigits (ds.map fun c => c.toNat - '0'.toNat) = Nat.ofDigitChars 10 ds 0 := by
  rw [ofDigits, List.foldl_map, ← Nat.ofDigitChars_eq_foldl]

/-- Digits are read as the number that they make up, unless they are too many. -/
theorem readNat?_of_isDigit {ds : Text} (filled : ds ≠ []) (h : ∀ c ∈ ds, c.isDigit = true) :
    readNat? ds = if ds.length ≤ maxDigits then some (Nat.ofDigitChars 10 ds 0) else none := by
  rw [readNat?, readDigits?_of_isDigit filled h, Option.bind_some, List.length_map, ofDigits_map]

/-- A text without blanks has no margin. -/
theorem trim_isMargin {t : Text} (h : ∀ c ∈ t, isBlank c = false) : trim isMargin t = t := by
  have inside : ∀ c ∈ t, isMargin c = false := by
    intro c hc
    rw [isMargin, h c hc, Bool.false_and]
  exact trim_eq_self (fun c hc => inside c (List.mem_of_head? hc))
    fun c hc => inside c (List.mem_of_getLast? hc)

/-- A text is an integer in ASCII decimals: digits that make up its size, with zeros in front of
them or not, behind a minus sign when it is negative. -/
def IsDecimal (t : Text) (i : Int) : Prop :=
  ∃ ds : Text, ds ≠ [] ∧ (∀ c ∈ ds, c.isDigit = true) ∧ Nat.ofDigitChars 10 ds 0 = i.natAbs ∧
    t = if i < 0 then '-' :: ds else ds

namespace IsDecimal

variable {t : Text} {i : Int}

theorem mem (h : IsDecimal t i) {c : Char} (hc : c ∈ t) : c = '-' ∨ c.isDigit = true := by
  obtain ⟨ds, -, digits, -, rfl⟩ := h
  split at hc
  · rcases List.mem_cons.1 hc with rfl | hc
    · exact .inl rfl
    · exact .inr (digits c hc)
  · exact .inr (digits c hc)

theorem ne_nil (h : IsDecimal t i) : t ≠ [] := by
  obtain ⟨ds, filled, -, -, rfl⟩ := h
  split
  · exact List.cons_ne_nil _ _
  · exact filled

theorem not_isBlank (h : IsDecimal t i) {c : Char} (hc : c ∈ t) : isBlank c = false := by
  rcases h.mem hc with rfl | digit
  · decide
  · exact not_isBlank_of_isDigit digit

/-- Decimals are read back, unless they have too many digits. -/
theorem readInt?_eq (h : IsDecimal t i) : readInt? t =
    if t.length ≤ maxDigits + (if i < 0 then 1 else 0) then some i else none := by
  have whole : trim isMargin t = t := trim_isMargin fun c hc => h.not_isBlank hc
  obtain ⟨ds, filled, digits, size, text⟩ := h
  rw [readInt?, whole, text]
  by_cases negative : i < 0
  · simp only [if_pos negative, List.length_cons, Nat.add_le_add_iff_right]
    rw [readNat?_of_isDigit filled digits, size]
    have value : -(i.natAbs : Int) = i := by omega
    split
    · exact congrArg some value
    · rfl
  · simp only [if_neg negative, Nat.add_zero]
    have value : (i.natAbs : Int) = i := by omega
    split
    · next e =>
      exact absurd (digits '-' List.mem_cons_self) (by decide)
    · next e =>
      exact absurd (digits '+' List.mem_cons_self) (by decide)
    · rw [readNat?_of_isDigit filled digits, size]
      split
      · exact congrArg some value
      · rfl

/-- A text is one integer in decimals at most. -/
theorem unique (h : IsDecimal t i) {j : Int} (h' : IsDecimal t j) : i = j := by
  obtain ⟨ds, -, digits, size, rfl⟩ := h
  obtain ⟨es, -, digits', size', text⟩ := h'
  have minus : ∀ us : Text, (∀ c ∈ us, c.isDigit = true) → ∀ vs : Text, us ≠ '-' :: vs := by
    rintro us hu vs rfl
    exact absurd (hu '-' List.mem_cons_self) (by decide)
  split at text
  · split at text
    · cases text
      omega
    · exact absurd text.symm (minus es digits' ds)
  · split at text
    · exact absurd text (minus ds digits es)
    · cases text
      omega

end IsDecimal

/-- Integers are written in decimals, whatever their width. -/
theorem isDecimal_writeInt (width : Nat) (i : Int) : IsDecimal (writeInt width i) i := by
  have padded (width : Nat) : padZeros width (ofNat i.natAbs) ≠ [] ∧
      (∀ c ∈ padZeros width (ofNat i.natAbs), c.isDigit = true) ∧
      Nat.ofDigitChars 10 (padZeros width (ofNat i.natAbs)) 0 = i.natAbs := by
    refine ⟨List.append_ne_nil_of_right_ne_nil _ Nat.toDigits_ne_nil, ?_, ?_⟩
    · intro c hc
      rcases List.mem_append.1 hc with hc | hc
      · rw [List.eq_of_mem_replicate hc]
        rfl
      · exact isDigit_of_mem_ofNat hc
    · rw [padZeros, Nat.ofDigitChars_append, Nat.ofDigitChars_replicate_zero, Nat.mul_zero]
      exact Nat.ofDigitChars_ten_toDigits
  unfold writeInt
  by_cases negative : i < 0
  · obtain ⟨filled, digits, size⟩ := padded (width - 1)
    exact ⟨_, filled, digits, size, by rw [if_pos negative, if_pos negative]⟩
  · obtain ⟨filled, digits, size⟩ := padded width
    exact ⟨_, filled, digits, size, by rw [if_neg negative, if_neg negative]⟩

/-- Without a width integers are written in canonical decimals. -/
theorem writeInt_zero (i : Int) : writeInt 0 i = ofInt i := by
  have unpadded (t : Text) : padZeros 0 t = t := by
    rw [padZeros, Nat.zero_sub, List.replicate_zero, List.nil_append]
  rw [writeInt, ofInt, Nat.zero_sub, unpadded]

theorem isDecimal_ofInt (i : Int) : IsDecimal (ofInt i) i := by
  rw [← writeInt_zero]
  exact isDecimal_writeInt 0 i

theorem mem_ofInt {c : Char} {i : Int} (h : c ∈ ofInt i) : c = '-' ∨ c.isDigit = true :=
  (isDecimal_ofInt i).mem h

theorem ofInt_ne_nil (i : Int) : ofInt i ≠ [] :=
  (isDecimal_ofInt i).ne_nil

theorem not_isBlank_of_mem_ofInt {c : Char} {i : Int} (h : c ∈ ofInt i) : isBlank c = false :=
  (isDecimal_ofInt i).not_isBlank h

/-- Canonical decimals are read back. -/
theorem readInt?_ofInt {i : Int} (h : i.natAbs < 10 ^ maxDigits) : readInt? (ofInt i) = some i := by
  have few : (ofNat i.natAbs).length ≤ maxDigits :=
    (Nat.length_toDigits_le_iff (by decide) (by decide)).2 h
  have length : (ofInt i).length = (ofNat i.natAbs).length + (if i < 0 then 1 else 0) := by
    unfold ofInt
    split
    · rfl
    · rfl
  rw [(isDecimal_ofInt i).readInt?_eq, length, if_pos (Nat.add_le_add_right few _)]

theorem readInt?_ofInt_of_read {t : Text} {i : Int} (h : readInt? t = some i) :
    readInt? (ofInt i) = some i :=
  readInt?_ofInt (natAbs_lt_of_readInt? h)

end SelectorScan.Number
