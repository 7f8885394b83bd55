import Mathlib.Data.List.Induction
import SelectorScan.Proofs.Key.Der

/-!
# Readers take only what was written

Distinguished encoding is strict: lengths and numbers are read in their shortest form only, and that
is the one that is written. So what a reader takes is the encoding of what it gives, and the bytes
behind it are those it gives back:

    readLength? bytes = some (n, rest) ↔
      Writable n ∧ bytes = writeLength n ++ rest                        (readLength?_eq_some_iff)
    read? kind bytes = some (contents, rest) ↔
      Writable contents.length ∧ bytes = write kind contents ++ rest          (read?_eq_some_iff)
    readNatural? bytes = some (n, rest) ↔
      Writable (naturalContents n).length ∧ bytes = writeNatural n ++ rest
                                                                       (readNatural?_eq_some_iff)
-/

namespace SelectorScan.Key.Der

/-! ## Digits -/

/-- Digits of which the first is not zero are those of their number. -/
theorem toBytes_ofBytes {bytes : List UInt8} (h : bytes.head? ≠ some 0) :
    toBytes (ofBytes bytes) = bytes := by
  induction bytes using List.reverseRecOn with
  | nil => rw [ofBytes_nil, toBytes_zero]
  | append_singleton bytes b ih =>
    have byte := b.toNat_lt
    have last : b.toNat.toUInt8 = b := UInt8.ofNat_toNat
    rw [ofBytes_concat]
    cases bytes with
    | nil =>
      have nonzero : b.toNat ≠ 0 := by
        intro e
        exact h (congrArg some (UInt8.toNat_inj.1 e))
      rw [ofBytes_nil, Nat.zero_mul, Nat.zero_add, toBytes_eq_concat nonzero,
        Nat.div_eq_of_lt byte, toBytes_zero, Nat.mod_eq_of_lt byte, last]
    | cons a bytes =>
      have read := ih h
      have nonzero : ofBytes (a :: bytes) ≠ 0 := by
        intro e
        rw [e, toBytes_zero] at read
        cases read
      have quotient : (ofBytes (a :: bytes) * 256 + b.toNat) / 256 = ofBytes (a :: bytes) := by
        omega
      have remainder : (ofBytes (a :: bytes) * 256 + b.toNat) % 256 = b.toNat := by omega
      rw [toBytes_eq_concat (by omega), quotient, remainder, read, last]

/-! ## Lengths -/

theorem writable_iff {n : Nat} : Writable n ↔ n < 256 ^ 127 := by
  refine ⟨fun h => ?_, writable_of_lt⟩
  have few : (toBytes n).length ≤ 127 := Nat.le_of_lt_succ h
  exact Nat.lt_of_lt_of_le (toBytes_bounds n).1 (Nat.pow_le_pow_right (by decide) few)

theorem Writable.mono {m n : Nat} (h : Writable n) (le : m ≤ n) : Writable m :=
  writable_iff.2 (Nat.lt_of_le_of_lt le (writable_iff.1 h))

/-- A length is read in its shortest form, and only in that. -/
theorem readLength?_eq_some_iff {n : Nat} {bytes rest : List UInt8} :
    readLength? bytes = some (n, rest) ↔ Writable n ∧ bytes = writeLength n ++ rest := by
  constructor
  · intro h
    cases bytes with
    | nil => cases h
    | cons b bytes =>
      rw [readLength?] at h
      split at h
      · next low =>
        obtain ⟨rfl, rfl⟩ := Prod.mk.inj (Option.some.inj h)
        have short : b.toNat < 128 := UInt8.lt_iff_toNat_lt.1 low
        refine ⟨writable_of_lt (Nat.lt_of_lt_of_le short (by decide)), ?_⟩
        rw [writeLength, if_pos short]
        exact congrArg (· :: bytes) UInt8.ofNat_toNat.symm
      · next high =>
        simp only at h
        split at h
        · cases h
        · next sound =>
          obtain ⟨hn, rfl⟩ := Prod.mk.inj (Option.some.inj h)
          have byte := b.toNat_lt
          have above : 128 ≤ b.toNat := Nat.le_of_not_lt fun low => high (UInt8.lt_iff_toNat_lt.2 low)
          obtain ⟨-, full, first, long⟩ : _ ∧ _ ∧ _ ∧ _ := by simpa only [not_or] using sound
          -- the digits that stand there are the fewest for their number
          have digits : toBytes n = bytes.take (b.toNat - 128) := by
            rw [← hn]
            exact toBytes_ofBytes first
          have count : (toBytes n).length = b.toNat - 128 := by
            have := List.length_take_le (b.toNat - 128) bytes
            rw [digits]
            omega
          have length : 128 + (toBytes n).length = b.toNat := by omega
          refine ⟨?_, ?_⟩
          · unfold Writable
            omega
          · rw [writeLength, if_neg (hn ▸ long), length, digits, List.cons_append,
              List.take_append_drop]
            exact congrArg (· :: bytes) UInt8.ofNat_toNat.symm
  · rintro ⟨h, rfl⟩
    exact readLength?_writeLength h rest

/-! ## Values -/

/-- The contents of a value are read from its encoding, and only from that. -/
theorem read?_eq_some_iff {kind : Kind} {contents bytes rest : List UInt8} :
    read? kind bytes = some (contents, rest) ↔
      Writable contents.length ∧ bytes = write kind contents ++ rest := by
  constructor
  · intro h
    cases bytes with
    | nil => cases h
    | cons b bytes =>
      rw [read?] at h
      split at h
      · next hb =>
        cases hl : readLength? bytes with
        | none =>
          rw [hl] at h
          cases h
        | some found =>
          obtain ⟨n, behind⟩ := found
          rw [hl] at h
          simp only at h
          split at h
          · next enough =>
            obtain ⟨rfl, rfl⟩ := Prod.mk.inj (Option.some.inj h)
            obtain ⟨writable, rfl⟩ := readLength?_eq_some_iff.1 hl
            have length : (behind.take n).length = n := List.length_take_of_le enough
            rw [length]
            refine ⟨writable, ?_⟩
            rw [write, length, hb, List.cons_append, List.cons_append, List.append_assoc,
              List.take_append_drop]
          · cases h
      · cases h
  · rintro ⟨h, rfl⟩
    exact read?_write kind h rest

theorem readWhole?_eq_some_iff {kind : Kind} {contents bytes : List UInt8} :
    readWhole? kind bytes = some contents ↔
      Writable contents.length ∧ bytes = write kind contents := by
  have whole : readWhole? kind bytes = some contents ↔ read? kind bytes = some (contents, []) := by
    unfold readWhole?
    split <;> simp_all
  rw [whole, read?_eq_some_iff, List.append_nil]

/-! ## Natural numbers -/

/-- The contents of a number are the shortest that are not negative. -/
theorem naturalOfContents?_eq_some_iff {contents : List UInt8} {n : Nat} :
    naturalOfContents? contents = some n ↔ contents = naturalContents n := by
  constructor
  · intro h
    unfold naturalOfContents? at h
    split at h
    · cases h
    · next b =>
      split at h
      · next low =>
        obtain rfl := Option.some.inj h
        by_cases zero : b = 0
        · rw [zero, naturalContents, show (0 : UInt8).toNat = 0 from rfl, toBytes_zero]
        · have digits : toBytes b.toNat = [b] := by
            have first : [b].head? ≠ some 0 := by simpa using zero
            simpa [ofBytes] using toBytes_ofBytes first
          rw [naturalContents, digits]
          simp only [if_pos low]
      · cases h
    · next b c rest =>
      split at h
      · next sound =>
        obtain rfl := Option.some.inj h
        by_cases zero : b = 0
        · -- the zero in front keeps the number from being negative
          have high : ¬c < 128 := fun low => sound.2 ⟨zero, low⟩
          have first : (c :: rest).head? ≠ some 0 := by
            intro e
            rw [Option.some.inj e] at high
            exact high (by decide)
          rw [zero, ofBytes_zero_cons, naturalContents, toBytes_ofBytes first]
          simp only [if_neg high]
        · have first : (b :: c :: rest).head? ≠ some 0 := by simpa using zero
          rw [naturalContents, toBytes_ofBytes first]
          simp only [if_pos sound.1]
      · cases h
  · rintro rfl
    exact naturalOfContents?_naturalContents n

theorem readNatural?_eq_some_iff {n : Nat} {bytes rest : List UInt8} :
    readNatural? bytes = some (n, rest) ↔
      Writable (naturalContents n).length ∧ bytes = writeNatural n ++ rest := by
  constructor
  · intro h
    unfold readNatural? at h
    cases hr : read? .integer bytes with
    | none =>
      rw [hr] at h
      cases h
    | some found =>
      obtain ⟨contents, behind⟩ := found
      rw [hr] at h
      obtain ⟨n', hn, e⟩ := Option.map_eq_some_iff.1 h
      obtain ⟨rfl, rfl⟩ := Prod.mk.inj e
      obtain rfl := naturalOfContents?_eq_some_iff.1 hn
      exact read?_eq_some_iff.1 hr
  · rintro ⟨h, rfl⟩
    exact readNatural?_writeNatural h rest

end SelectorScan.Key.Der
