import SelectorScan.Number.Binary64
import SelectorScan.Proofs.Number.Integer

/-!
# Whole numbers in binary

A whole number below `2 ^ 53` fits into the mantissa, so it is a binary number exactly
(`roundQuotient_whole`), and as it has at most 16 digits it is written in all of them, without a
point or an exponent, and read back from there:

    n < 2 ^ 53 → (roundQuotient false n 1).writePlain = ofNat n                (writePlain_whole)
    n < 2 ^ 53 → read? (ofNat n) = some (roundQuotient false n 1)                   (read?_ofNat)
-/

namespace SelectorScan.Number.Binary64

open Text

variable {n : Nat}

/-! ## Scales -/

theorem scale_natCast (base num den k : Nat) :
    scale base num den (k : Int) = (num, den * base ^ k) := by
  rw [scale, if_neg (by omega), Int.natAbs_natCast]
  rfl

theorem scale_neg_natCast (base num den k : Nat) :
    scale base num den (-(k : Int)) = (num * base ^ k, den) := by
  cases k with
  | zero => simp [scale]
  | succ k =>
    rw [scale, if_pos (by omega), Int.natAbs_neg, Int.natAbs_natCast]
    rfl

theorem quotient_neg_natCast (m k : Nat) : quotient m (-(k : Int)) = (m, 2 ^ k) := by
  cases k with
  | zero => simp [quotient]
  | succ k =>
    rw [quotient, if_pos (by omega), Int.natAbs_neg, Int.natAbs_natCast]
    rfl

theorem roundHalfEven_mul (q : Nat) {den : Nat} (pos : 0 < den) :
    roundHalfEven (q * den) den = q := by
  simp only [roundHalfEven, Nat.mul_div_cancel q pos, Nat.mul_mod_left]
  rw [if_pos (by omega)]

/-! ## Digits -/

theorem pow_length_le (filled : n ≠ 0) : 10 ^ ((ofNat n).length - 1) ≤ n := by
  by_cases one : (ofNat n).length - 1 = 0
  · rw [one]
    omega
  · apply Nat.le_of_not_lt
    intro less
    have fewer : (ofNat n).length ≤ (ofNat n).length - 1 :=
      (Nat.length_toDigits_le_iff (by decide) (by omega)).2 less
    omega

/-- A power of ten behind a number puts as many zeros behind its digits. -/
theorem ofNat_mul_pow (filled : n ≠ 0) (k : Nat) :
    ofNat (n * 10 ^ k) = ofNat n ++ List.replicate k '0' := by
  induction k with
  | zero => simp
  | succ k ih =>
    have tenfold : n * 10 ^ (k + 1) = 10 * (n * 10 ^ k) := by ring
    have positive : 0 < n * 10 ^ k := by positivity
    rw [List.replicate_succ', ← List.append_assoc, ← ih, tenfold, ofNat,
      Nat.toDigits_eq_if (by decide), if_neg (by omega), Nat.mul_div_cancel_left _ (by decide),
      Nat.mul_mod_right]
    rfl

/-- A product has as many digits as its factors together, or one less. -/
theorem length_ofNat_mul {m : Nat} (hn : n ≠ 0) (hm : m ≠ 0) :
    (ofNat (n * m)).length ≤ (ofNat n).length + (ofNat m).length ∧
      (ofNat n).length + (ofNat m).length ≤ (ofNat (n * m)).length + 1 := by
  have filled (k : Nat) : 0 < (ofNat k).length := Nat.length_toDigits_pos
  have hnFilled := filled n
  have hmFilled := filled m
  constructor
  · rw [ofNat, Nat.length_toDigits_le_iff (by decide) (by omega), Nat.pow_add]
    exact Nat.mul_lt_mul'' (lt_pow_length n) (lt_pow_length m)
  · apply Nat.le_of_not_lt
    intro less
    have high := lt_pow_length (n * m)
    have low := Nat.mul_le_mul (pow_length_le hn) (pow_length_le hm)
    rw [← Nat.pow_add] at low
    have grown : 10 ^ (ofNat (n * m)).length ≤
        10 ^ ((ofNat n).length - 1 + ((ofNat m).length - 1)) :=
      Nat.pow_le_pow_right (by decide) (by omega)
    omega

/-- The logarithm of a number is one less than it has digits, whatever fraction it is written
as. -/
theorem floorLog_whole (filled : n ≠ 0) {den : Nat} (pos : 0 < den) :
    floorLog 10 (n * den) den (((ofNat (n * den)).length : Int) - (ofNat den).length) =
      ((ofNat n).length : Int) - 1 := by
  have digits : 0 < (ofNat n).length := Nat.length_toDigits_pos
  obtain ⟨high, low⟩ := length_ofNat_mul filled (Nat.ne_of_gt pos)
  by_cases carried : (ofNat (n * den)).length = (ofNat n).length + (ofNat den).length
  · have guess : ((ofNat (n * den)).length : Int) - (ofNat den).length = (ofNat n).length := by
      omega
    have less : n * den < den * 10 ^ (ofNat n).length := by
      rw [Nat.mul_comm]
      exact Nat.mul_lt_mul_of_pos_left (lt_pow_length n) pos
    rw [guess, floorLog, scale_natCast]
    simp only
    rw [if_neg (by omega)]
  · have guess : ((ofNat (n * den)).length : Int) - (ofNat den).length =
        ((ofNat n).length - 1 : Nat) := by omega
    have least : den * 10 ^ ((ofNat n).length - 1) ≤ n * den := by
      rw [Nat.mul_comm n]
      exact Nat.mul_le_mul_left den (pow_length_le filled)
    rw [guess, floorLog, scale_natCast]
    simp only
    rw [if_pos least]
    omega

/-! ## Rounding -/

/-- A whole number that fits into the mantissa stays what it is. -/
theorem roundQuotient_whole (small : n < 2 ^ 53) :
    ∃ k : Nat, roundQuotient false n 1 = finite false (n * 2 ^ k) (-(k : Int)) := by
  by_cases filled : n = 0
  · subst filled
    exact ⟨1074, by rw [Nat.zero_mul]; rfl⟩
  have bits : n.log2 < 53 := (Nat.log2_lt filled).2 small
  have top : floorLog 2 n 1 ((n.log2 : Int) - (1 : Nat).log2) = n.log2 := by
    have log : ((n.log2 : Int) - (1 : Nat).log2) = n.log2 := Int.sub_zero _
    rw [log, floorLog, scale_natCast]
    simp only [Nat.one_mul]
    rw [if_pos (Nat.log2_self_le filled)]
  have exponent : max minExponent ((n.log2 : Int) - 52) = -((52 - n.log2 : Nat) : Int) := by
    unfold minExponent
    omega
  have mantissa : n * 2 ^ (52 - n.log2) < Nat.pow 2 53 := by
    have full : 2 ^ (n.log2 + 1) * 2 ^ (52 - n.log2) = Nat.pow 2 53 := by
      rw [← Nat.pow_add]
      congr 1
      omega
    rw [← full]
    exact Nat.mul_lt_mul_of_pos_right Nat.lt_log2_self (by positivity)
  have exact := roundHalfEven_mul (n * 2 ^ (52 - n.log2)) Nat.one_pos
  rw [Nat.mul_one] at exact
  refine ⟨52 - n.log2, ?_⟩
  rw [roundQuotient, if_neg filled]
  simp only [top, exponent, scale_neg_natCast, exact, if_neg (Nat.ne_of_lt mantissa)]
  rw [if_neg (by unfold maxExponent; omega)]

theorem toInt?_whole (small : n < 2 ^ 53) : (roundQuotient false n 1).toInt? = some (n : Int) := by
  obtain ⟨k, whole⟩ := roundQuotient_whole small
  rw [whole, toInt?]
  simp only [quotient_neg_natCast]
  rw [if_pos (Nat.mul_mod_left _ _), Nat.mul_div_cancel _ (by positivity)]
  rfl

/-! ## Writing -/

/-- Zeros taken away at the end can be put back when it is known how many they were. -/
theorem trimEnd_append_zeros (t : Text) :
    trimEnd (· == '0') t ++ List.replicate (t.length - (trimEnd (· == '0') t).length) '0' = t := by
  have parts : trimEnd (· == '0') t ++ (t.reverse.takeWhile (· == '0')).reverse = t := by
    rw [trimEnd, ← List.reverse_append, List.takeWhile_append_dropWhile, List.reverse_reverse]
  have zeros : ∀ c ∈ (t.reverse.takeWhile (· == '0')).reverse, c = '0' := by
    intro c hc
    exact beq_iff_eq.1 (List.all_eq_true.1 List.all_takeWhile c (List.mem_reverse.1 hc))
  have length := congrArg List.length parts
  rw [List.length_append] at length
  rw [← Nat.eq_sub_of_add_eq' length, ← List.eq_replicate_of_mem zeros, parts]

/-- So many leading digits of a whole number that has no more. -/
theorem leading_whole (filled : n ≠ 0) (k : Nat) {count : Nat} (few : (ofNat n).length ≤ count) :
    leading count (n * 2 ^ k) (-(k : Int)) = ⟨trimEnd (· == '0') (ofNat n), (ofNat n).length⟩ := by
  have kept : n * 2 ^ k ≠ 0 := by positivity
  have pos : 0 < 2 ^ k := by positivity
  have exponent : ((ofNat n).length : Int) - 1 + 1 - count =
      -((count - (ofNat n).length : Nat) : Int) := by omega
  have exact := roundHalfEven_mul (n * 10 ^ (count - (ofNat n).length)) pos
  rw [Nat.mul_right_comm] at exact
  have zeros : ∀ c ∈ List.replicate (count - (ofNat n).length) '0', (c == '0') = true := by
    intro c hc
    rw [List.eq_of_mem_replicate hc]
    rfl
  rw [leading, if_neg kept]
  simp only [quotient_neg_natCast, floorLog_whole filled pos, exponent, scale_neg_natCast, exact,
    ofNat_mul_pow filled, trimEnd_append zeros, List.length_append, List.length_replicate]
  congr 1
  omega

theorem writePlain_whole (small : n < 2 ^ 53) :
    (roundQuotient false n 1).writePlain = ofNat n := by
  by_cases zero : n = 0
  · subst zero
    rfl
  obtain ⟨k, whole⟩ := roundQuotient_whole small
  have few : (ofNat n).length ≤ 16 :=
    (Nat.length_toDigits_le_iff (by decide) (by decide)).2 (Nat.lt_trans small (by decide))
  have digits : 0 < (ofNat n).length := Nat.length_toDigits_pos
  have rest := trimEnd_append_zeros (ofNat n)
  have fewer : (trimEnd (· == '0') (ofNat n)).length ≤ (ofNat n).length := by
    conv_rhs => rw [← rest]
    rw [List.length_append]
    omega
  have gap : (((ofNat n).length : Int) - (trimEnd (· == '0') (ofNat n)).length).natAbs =
      (ofNat n).length - (trimEnd (· == '0') (ofNat n)).length := by omega
  rw [whole, writePlain, leading_whole zero k few, layOutPlain]
  simp only [gap, rest]
  rw [if_neg Bool.false_ne_true, if_pos (by omega), List.nil_append]

/-! ## Reading -/

theorem dropUnderscores_digits {ds : Text} (digits : ∀ c ∈ ds, c.isDigit = true)
    (afterDigit : Bool) : dropUnderscores afterDigit ds = some ds := by
  induction ds generalizing afterDigit with
  | nil => rfl
  | cons c ds ih =>
    obtain ⟨hc, digits⟩ := List.forall_mem_cons.1 digits
    have plain : c ≠ '_' := by
      rintro rfl
      exact absurd hc (by decide)
    simp only [dropUnderscores, if_neg plain, ih digits, Option.map_some]

theorem spanDigits_digits {ds : Text} (digits : ∀ c ∈ ds, c.isDigit = true) :
    spanDigits ds = (ds.map fun c => c.toNat - '0'.toNat, []) := by
  induction ds with
  | nil => rfl
  | cons c ds ih =>
    obtain ⟨hc, digits⟩ := List.forall_mem_cons.1 digits
    rw [spanDigits, digit?_of_isDigit hc, ih digits]
    rfl

/-- Digits are read as the number that they make up. -/
theorem readDecimal?_digits {ds : Text} (filled : ds ≠ []) (digits : ∀ c ∈ ds, c.isDigit = true)
    (negative : Bool) : readDecimal? negative ds =
      some (ofDecimal negative (Nat.ofDigitChars 10 ds 0) 0) := by
  have present : (ds.map fun c => c.toNat - '0'.toNat).isEmpty = false := by
    rw [List.isEmpty_map, List.isEmpty_eq_false_iff]
    exact filled
  simp only [readDecimal?, spanDigits_digits digits, present, List.append_nil, ofDigits_map,
    readExponent?]
  rfl

theorem read?_digits {ds : Text} (filled : ds ≠ []) (digits : ∀ c ∈ ds, c.isDigit = true) :
    read? ds = some (ofDecimal false (Nat.ofDigitChars 10 ds 0) 0) := by
  have whole := trim_isMargin fun c hc => not_isBlank_of_isDigit (digits c hc)
  have unsigned : spanSign ds = (false, ds) := by
    unfold spanSign
    split
    · exact absurd (digits '-' List.mem_cons_self) (by decide)
    · exact absurd (digits '+' List.mem_cons_self) (by decide)
    · rfl
  have lower : ds.map Char.toLower = ds := by
    conv_rhs => rw [← List.map_id ds]
    refine List.map_congr_left fun c hc => ?_
    refine dif_neg ?_
    rintro ⟨capital, -⟩
    have bounds := isDigit_bounds (digits c hc)
    have high : 'A'.toNat ≤ c.toNat := capital
    have first : 'A'.toNat = 65 := rfl
    omega
  have wordless (c : Char) (rest : Text) (letter : c.isDigit = false) : ds ≠ c :: rest := by
    rintro rfl
    rw [digits c List.mem_cons_self] at letter
    cases letter
  rw [read?, whole, unsigned]
  simp only [lower, wordless 'i' _ rfl, wordless 'n' _ rfl, or_self, if_false,
    dropUnderscores_digits digits, Option.bind_some]
  exact readDecimal?_digits filled digits false

theorem ofDecimal_whole (few : (ofNat n).length ≤ 400) :
    ofDecimal false n 0 = roundQuotient false n 1 := by
  by_cases zero : n = 0
  · subst zero
    rfl
  · rw [ofDecimal, if_neg zero]
    rw [if_neg (by omega), if_neg (by omega), if_neg (by omega)]
    exact congrArg (roundQuotient false · 1) (Nat.mul_one n)

theorem read?_ofNat (few : (ofNat n).length ≤ 400) :
    read? (ofNat n) = some (roundQuotient false n 1) := by
  have filled : ofNat n ≠ [] := Nat.toDigits_ne_nil
  have digits : ∀ c ∈ ofNat n, c.isDigit = true := fun c hc => isDigit_of_mem_ofNat hc
  have value : Nat.ofDigitChars 10 (ofNat n) 0 = n := Nat.ofDigitChars_ten_toDigits
  rw [read?_digits filled digits, value, ofDecimal_whole few]

end SelectorScan.Number.Binary64
