import SelectorScan.Key.PublicKey
import SelectorScan.Proofs.Text.Utf8

/-!
# Reading what was written in distinguished encoding

A number is the sum of its base 256 digits, and its digits are the fewest that are (`ofBytes_toBytes`,
`toBytes_bounds`). So lengths and numbers are written in their shortest form, the one that readers
accept; and what a reader has taken, it gives back together with the bytes behind it:

    readLength? (writeLength n ++ rest) = some (n, rest)              (readLength?_writeLength)
    read? kind (write kind contents ++ rest) = some (contents, rest)              (read?_write)
    readNatural? (writeNatural n ++ rest) = some (n, rest)            (readNatural?_writeNatural)

A length may itself take 127 bytes at most, which bounds what can be written.
-/

namespace SelectorScan.Key.Der

open Text.Utf8 (toNat_toUInt8)

/-! ## Digits of a number -/

@[simp] theorem ofBytes_nil : ofBytes [] = 0 := rfl

@[simp] theorem ofBytes_concat (bytes : List UInt8) (b : UInt8) :
    ofBytes (bytes ++ [b]) = ofBytes bytes * 256 + b.toNat := by
  simp [ofBytes]

/-- A zero in front changes nothing. -/
theorem ofBytes_zero_cons (bytes : List UInt8) : ofBytes (0 :: bytes) = ofBytes bytes := rfl

theorem bytesBefore_eq_append (n : Nat) (rest : List UInt8) :
    bytesBefore n rest = bytesBefore n [] ++ rest := by
  induction n using Nat.strong_induction_on generalizing rest with
  | h n ih =>
    by_cases h : n = 0
    · rw [bytesBefore, if_pos h, bytesBefore, if_pos h]
      rfl
    · have smaller : n / 256 < n := Nat.div_lt_self (by omega) (by omega)
      rw [bytesBefore, if_neg h, ih _ smaller, bytesBefore.eq_def n, if_neg h,
        ih _ smaller [(n % 256).toUInt8]]
      simp

@[simp] theorem toBytes_zero : toBytes 0 = [] := by
  rw [toBytes, bytesBefore, if_pos rfl]

/-- The last digit is the remainder by 256. -/
theorem toBytes_eq_concat {n : Nat} (h : n ≠ 0) :
    toBytes n = toBytes (n / 256) ++ [(n % 256).toUInt8] := by
  rw [toBytes, bytesBefore, if_neg h, bytesBefore_eq_append]
  rfl

theorem ofBytes_toBytes (n : Nat) : ofBytes (toBytes n) = n := by
  induction n using Nat.strong_induction_on with
  | h n ih =>
    by_cases h : n = 0
    · rw [h, toBytes_zero, ofBytes_nil]
    · have smaller : n / 256 < n := Nat.div_lt_self (by omega) (by omega)
      rw [toBytes_eq_concat h, ofBytes_concat, ih _ smaller, toNat_toUInt8 (by omega)]
      omega

theorem toBytes_ne_nil {n : Nat} (h : n ≠ 0) : toBytes n ≠ [] := by
  rw [toBytes_eq_concat h]
  simp

/-- The first digit is not zero. -/
theorem head?_toBytes_ne_zero (n : Nat) : (toBytes n).head? ≠ some 0 := by
  induction n using Nat.strong_induction_on with
  | h n ih =>
    by_cases h : n = 0
    · rw [h, toBytes_zero]
      exact nofun
    · have smaller : n / 256 < n := Nat.div_lt_self (by omega) (by omega)
      rw [toBytes_eq_concat h]
      by_cases hd : n / 256 = 0
      · -- the number is its only digit
        rw [hd, toBytes_zero]
        intro h0
        have digit : (n % 256).toUInt8 = 0 := by simpa using h0
        have value : (n % 256).toUInt8.toNat = n % 256 := toNat_toUInt8 (by omega)
        rw [digit] at value
        have : (0 : UInt8).toNat = 0 := rfl
        omega
      · have first := ih _ smaller
        cases hb : toBytes (n / 256) with
        | nil => exact absurd hb (toBytes_ne_nil hd)
        | cons b rest =>
          rw [hb] at first
          exact first

/-- The number of digits is the least one that does. -/
theorem toBytes_bounds (n : Nat) :
    n < 256 ^ (toBytes n).length ∧ (n ≠ 0 → 256 ^ ((toBytes n).length - 1) ≤ n) := by
  induction n using Nat.strong_induction_on with
  | h n ih =>
    by_cases h : n = 0
    · rw [h, toBytes_zero]
      exact ⟨by decide, fun h => absurd rfl h⟩
    · have smaller : n / 256 < n := Nat.div_lt_self (by omega) (by omega)
      obtain ⟨below, least⟩ := ih _ smaller
      rw [toBytes_eq_concat h, List.length_append, List.length_singleton]
      constructor
      · rw [Nat.pow_succ]
        omega
      · intro _
        rw [Nat.add_sub_cancel]
        by_cases hd : n / 256 = 0
        · rw [hd, toBytes_zero]
          exact Nat.pos_of_ne_zero h
        · have least := least hd
          have filled : (toBytes (n / 256)).length ≠ 0 := fun e =>
            toBytes_ne_nil hd (List.eq_nil_of_length_eq_zero e)
          have split : 256 ^ (toBytes (n / 256)).length =
              256 ^ ((toBytes (n / 256)).length - 1) * 256 := by
            rw [← Nat.pow_succ]
            congr 1
            omega
          rw [split]
          omega

theorem length_toBytes_le {n k : Nat} (h : n < 256 ^ k) : (toBytes n).length ≤ k := by
  by_cases h0 : n = 0
  · rw [h0, toBytes_zero]
    exact Nat.zero_le k
  · have least := (toBytes_bounds n).2 h0
    have lt : (toBytes n).length - 1 < k :=
      (Nat.pow_lt_pow_iff_right (by decide : 1 < 256)).1 (Nat.lt_of_le_of_lt least h)
    omega

/-! ## Lengths -/

/-- The lengths that can be written. -/
def Writable (n : Nat) : Prop :=
  (toBytes n).length < 128

theorem writable_of_lt {n : Nat} (h : n < 256 ^ 127) : Writable n :=
  Nat.lt_succ_of_le (length_toBytes_le h)

theorem readLength?_writeLength {n : Nat} (h : Writable n) (rest : List UInt8) :
    readLength? (writeLength n ++ rest) = some (n, rest) := by
  unfold Writable at h
  by_cases short : n < 128
  · have hb : n.toUInt8.toNat = n := toNat_toUInt8 (by omega)
    have low : n.toUInt8 < 128 := UInt8.lt_iff_toNat_lt.2 (by rw [hb]; exact short)
    rw [writeLength, if_pos short, List.singleton_append, readLength?, if_pos low, hb]
  · have hb : (128 + (toBytes n).length).toUInt8.toNat = 128 + (toBytes n).length :=
      toNat_toUInt8 (by omega)
    have high : ¬(128 + (toBytes n).length).toUInt8 < 128 := by
      rw [UInt8.lt_iff_toNat_lt, hb]
      exact Nat.not_lt.2 (Nat.le_add_right 128 _)
    have digits : (toBytes n).length ≠ 0 := fun e =>
      toBytes_ne_nil (by omega) (List.eq_nil_of_length_eq_zero e)
    have taken : (toBytes n ++ rest).take (toBytes n).length = toBytes n := List.take_left
    have dropped : (toBytes n ++ rest).drop (toBytes n).length = rest := List.drop_left
    have sound : ¬((toBytes n).length = 0 ∨ (toBytes n).length < (toBytes n).length ∨
        (toBytes n).head? = some 0 ∨ n < 128) := by
      rintro (e | e | e | e)
      · exact digits e
      · omega
      · exact head?_toBytes_ne_zero n e
      · exact short e
    rw [writeLength, if_neg short, List.cons_append, readLength?, if_neg high]
    simp only [hb, Nat.add_sub_cancel_left, taken, dropped, ofBytes_toBytes]
    rw [if_neg sound]

theorem length_writeLength_le {n : Nat} (h : Writable n) : (writeLength n).length ≤ 128 := by
  unfold writeLength Writable at *
  split
  · exact Nat.le_add_left 1 127
  · rw [List.length_cons]
    exact h

/-! ## Values -/

theorem read?_write {contents : List UInt8} (kind : Kind) (h : Writable contents.length)
    (rest : List UInt8) : read? kind (write kind contents ++ rest) = some (contents, rest) := by
  have bytes : write kind contents ++ rest =
      kind.byte :: (writeLength contents.length ++ (contents ++ rest)) := by
    simp [write]
  rw [bytes, read?, if_pos rfl, readLength?_writeLength h]
  simp

theorem readWhole?_write {contents : List UInt8} (kind : Kind) (h : Writable contents.length) :
    readWhole? kind (write kind contents) = some contents := by
  have read := read?_write kind h []
  rw [List.append_nil] at read
  rw [readWhole?, read]

/-- An encoding is no shorter than its contents. -/
theorem length_le_write (kind : Kind) (contents : List UInt8) :
    contents.length ≤ (write kind contents).length := by
  simp only [write, List.length_cons, List.length_append]
  omega

theorem length_write_le {kind : Kind} {contents : List UInt8} (h : Writable contents.length) :
    (write kind contents).length ≤ contents.length + 129 := by
  have := length_writeLength_le h
  simp only [write, List.length_cons, List.length_append]
  omega

/-! ## Natural numbers -/

theorem length_naturalContents_le (n : Nat) :
    (naturalContents n).length ≤ (toBytes n).length + 1 := by
  unfold naturalContents
  split
  · exact Nat.le_add_left 1 _
  · next b rest e =>
    rw [e]
    split
    · exact Nat.le_succ _
    · exact Nat.le_refl _

/-- The contents that are written are the shortest ones, and not negative. -/
theorem naturalOfContents?_naturalContents (n : Nat) :
    naturalOfContents? (naturalContents n) = some n := by
  have value := ofBytes_toBytes n
  have first := head?_toBytes_ne_zero n
  unfold naturalContents
  cases h : toBytes n with
  | nil =>
    rw [h] at value
    simp only [naturalOfContents?]
    rw [← value]
    rfl
  | cons b rest =>
    rw [h] at value first
    have nonzero : b ≠ 0 := fun e => first (by rw [e]; rfl)
    simp only
    by_cases low : b < 128
    · rw [if_pos low]
      cases rest with
      | nil =>
        rw [naturalOfContents?, if_pos low, ← value]
        simp [ofBytes]
      | cons c rest => rw [naturalOfContents?, if_pos ⟨low, fun e => nonzero e.1⟩, value]
    · rw [if_neg low, naturalOfContents?, if_pos ⟨by decide, fun e => low e.2⟩, ofBytes_zero_cons,
        value]

theorem readNatural?_writeNatural {n : Nat} (h : Writable (naturalContents n).length)
    (rest : List UInt8) : readNatural? (writeNatural n ++ rest) = some (n, rest) := by
  rw [readNatural?, writeNatural, read?_write .integer h]
  simp only [naturalOfContents?_naturalContents, Option.map_some]

end SelectorScan.Key.Der
