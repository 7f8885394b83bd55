import SelectorScan.Proofs.Number.Integer

/-!
# Integers padded with zeros

A width only puts zeros in front of digits that are fewer, so a text has the width or as many
characters as there are digits (`length_writeInt`), and without a width no zero is to spare
(`ofInt_canonical`). Texts of one length are in the order of the numbers that they stand for:

    0 ≤ i → i < j → (ofNat j.natAbs).length ≤ width → writeInt width i < writeInt width j
                                                                                (writeInt_lt)
-/

namespace SelectorScan.Number

open Text

/-! ## Widths -/

theorem length_padZeros (width : Nat) (t : Text) :
    (padZeros width t).length = max width t.length := by
  rw [padZeros, List.length_append, List.length_replicate]
  omega

theorem length_writeInt {i : Int} (nonneg : 0 ≤ i) (width : Nat) :
    (writeInt width i).length = max width (ofNat i.natAbs).length := by
  rw [writeInt, if_neg (by omega), length_padZeros]

/-- Only the digits of zero begin with a zero. -/
theorem eq_zero_of_head?_ofNat {n : Nat} (h : (ofNat n).head? = some '0') : n = 0 := by
  induction n using Nat.strongRecOn with
  | ind n ih =>
    rw [ofNat, Nat.toDigits_eq_if (by decide)] at h
    split at h
    · next small =>
      have digits : ∀ m < 10, [Nat.digitChar m].head? = some '0' → m = 0 := by decide
      exact digits n small h
    · next large =>
      have front : (Nat.toDigits 10 (n / 10)).head? = some '0' := by
        rwa [List.head?_append_of_ne_nil _ Nat.toDigits_ne_nil] at h
      have := ih (n / 10) (by omega) front
      omega

/-- In canonical decimals a zero in front is the whole number, and none stands behind a sign. -/
theorem ofInt_canonical (i : Int) :
    ((ofInt i).head? = some '0' → ofInt i = ['0']) ∧ ∀ rest, ofInt i ≠ '-' :: '0' :: rest := by
  unfold ofInt
  constructor
  · intro h
    split at h
    · cases h
    · next nonneg =>
      rw [if_neg nonneg, eq_zero_of_head?_ofNat h]
      rfl
  · intro rest h
    split at h
    · next negative =>
      cases h' : ofNat i.natAbs with
      | nil => exact absurd h' Nat.toDigits_ne_nil
      | cons c ds =>
        rw [h'] at h
        cases h
        have zero := eq_zero_of_head?_ofNat (congrArg List.head? h')
        omega
    · have minus : '-' ∈ ofNat i.natAbs := by rw [h]; exact List.mem_cons_self
      exact absurd (isDigit_of_mem_ofNat minus) (by decide)

/-! ## Order -/

theorem ofDigitChars_lt {ds : Text} (digits : ∀ c ∈ ds, c.isDigit = true) :
    Nat.ofDigitChars 10 ds 0 < 10 ^ ds.length := by
  have small : ∀ d ∈ ds.map (fun c => c.toNat - '0'.toNat), d < 10 := by
    intro d hd
    obtain ⟨c, hc, rfl⟩ := List.mem_map.1 hd
    have bounds := isDigit_bounds (digits c hc)
    have zero : '0'.toNat = 0x30 := rfl
    omega
  have bound := ofDigits_lt small
  rwa [List.length_map, ofDigits_map] at bound

theorem ofDigitChars_cons_zero (c : Char) (ds : Text) : Nat.ofDigitChars 10 (c :: ds) 0 =
    10 ^ ds.length * (c.toNat - '0'.toNat) + Nat.ofDigitChars 10 ds 0 := by
  rw [Nat.ofDigitChars_cons, Nat.ofDigitChars_eq_ofDigitChars_zero, Nat.mul_zero, Nat.zero_add]

/-- Of two texts with as many digits the smaller number comes first. -/
theorem lt_of_ofDigitChars_lt {ds es : Text} (hd : ∀ c ∈ ds, c.isDigit = true)
    (he : ∀ c ∈ es, c.isDigit = true) (same : ds.length = es.length)
    (h : Nat.ofDigitChars 10 ds 0 < Nat.ofDigitChars 10 es 0) : ds < es := by
  induction ds generalizing es with
  | nil =>
    obtain rfl := List.eq_nil_of_length_eq_zero same.symm
    exact absurd h (Nat.lt_irrefl _)
  | cons c ds ih =>
    cases es with
    | nil => cases same
    | cons d es =>
      obtain ⟨hc, hds⟩ := List.forall_mem_cons.1 hd
      obtain ⟨hc', hes⟩ := List.forall_mem_cons.1 he
      have lengths : ds.length = es.length := Nat.succ.inj same
      have boundC := isDigit_bounds hc
      have boundD := isDigit_bounds hc'
      have zero : '0'.toNat = 0x30 := rfl
      rw [List.cons_lt_cons_iff]
      rw [ofDigitChars_cons_zero, ofDigitChars_cons_zero, lengths] at h
      rcases Nat.lt_trichotomy c.toNat d.toNat with less | equal | greater
      · exact .inl less
      · have first : c = d := Char.toNat_inj.1 equal
        subst first
        exact .inr ⟨rfl, ih hds hes lengths (Nat.lt_of_add_lt_add_left h)⟩
      · -- a greater first digit outweighs all digits behind the other one
        have behind := ofDigitChars_lt hes
        have digit : d.toNat - '0'.toNat + 1 ≤ c.toNat - '0'.toNat := by omega
        have weight := Nat.mul_le_mul_left (10 ^ es.length) digit
        rw [Nat.mul_add, Nat.mul_one] at weight
        omega

/-- Numbers that do not outgrow the width are ordered like their texts. -/
theorem writeInt_lt {i j : Int} (nonneg : 0 ≤ i) (lt : i < j) {width : Nat}
    (fits : (ofNat j.natAbs).length ≤ width) : writeInt width i < writeInt width j := by
  obtain ⟨ds, -, hd, sizeI, textI⟩ := isDecimal_writeInt width i
  obtain ⟨es, -, he, sizeJ, textJ⟩ := isDecimal_writeInt width j
  rw [if_neg (by omega)] at textI textJ
  have fewer : (ofNat i.natAbs).length ≤ (ofNat j.natAbs).length := length_ofNat_le (by omega)
  have lengths : ds.length = es.length := by
    rw [← textI, ← textJ, length_writeInt nonneg, length_writeInt (by omega)]
    omega
  rw [textI, textJ]
  exact lt_of_ofDigitChars_lt hd he lengths (by omega)

/-! ## Signs -/

/-- What begins with a zero is read as a number that is not negative. -/
theorem nonneg_of_readInt? {t : Text} {i : Int} (zero : t.head? = some '0')
    (h : readInt? t = some i) : 0 ≤ i := by
  have kept : (trim isMargin t).head? = some '0' := by
    cases t with
    | nil => cases zero
    | cons c rest =>
      cases zero
      have last : ∀ us : Text, ((us ++ ['0']).dropWhile isMargin).getLast? = some '0' := by
        intro us
        rw [List.dropWhile_append]
        split
        · rfl
        · exact List.getLast?_concat
      rw [trim, List.dropWhile_cons_of_neg (by decide), trimEnd, List.head?_reverse,
        List.reverse_cons]
      exact last rest.reverse
  unfold readInt? at h
  split at h
  · next e =>
    rw [e] at kept
    cases kept
  · next e =>
    rw [e] at kept
    cases kept
  · obtain ⟨n, -, rfl⟩ := Option.map_eq_some_iff.1 h
    exact Int.natCast_nonneg n

end SelectorScan.Number
