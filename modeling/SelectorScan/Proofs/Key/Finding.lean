import SelectorScan.Key.Finding
import SelectorScan.Proofs.Key.Base64
import SelectorScan.Proofs.Key.PublicKey

/-!
# The finding of a published key

What a key text makes a finding of is told by the bytes and the key that are read from it
(`inspect_eq_some_iff`). A sound key whose modulus may be written in decimal is found in the base 64
text of either of its encodings (`judge_encode`). A modulus that may not be written is the one thing
that an inspection fails on (`exists_inspect_eq_error_iff`).
-/

namespace SelectorScan.Key

open Der

/-- The finding about a key that is published as `bytes`. -/
def findingOf (source : Source) (bytes : List UInt8) (k : PublicKey) : Finding where
  source := source
  key := Base64.encode bytes
  modulus := Text.ofNat k.modulus
  exponent := Text.ofNat k.exponent
  bits := k.bits
  fingerprint := Fingerprint.ofBytes bytes
  pem := Pem.frame Pem.publicKeyLabel (Base64.encode k.encode)

@[simp] theorem findingOf_key (source : Source) (bytes : List UInt8) (k : PublicKey) :
    (findingOf source bytes k).key = Base64.encode bytes := rfl

@[simp] theorem findingOf_pem (source : Source) (bytes : List UInt8) (k : PublicKey) :
    (findingOf source bytes k).pem = Pem.frame Pem.publicKeyLabel (Base64.encode k.encode) := rfl

/-- A number of few enough digits is written. -/
theorem decimal_of_lt {n : Nat} (h : n < 10 ^ Number.maxDigits) :
    decimal n = .ok (Text.ofNat n) := by
  rw [decimal, Nat.pow_eq, if_pos h]

/-- A number of too many digits is not. -/
theorem decimal_of_not_lt {n : Nat} (h : ¬n < 10 ^ Number.maxDigits) :
    decimal n = .error .tooManyDigits := by
  rw [decimal, Nat.pow_eq, if_neg h]

/-- A key is described when both of its numbers are written. -/
theorem describe_eq_ok_iff {source : Source} {key : Text} {bytes : List UInt8} {k : PublicKey}
    {f : Finding} :
    describe source key bytes k = .ok f ↔ k.modulus < 10 ^ Number.maxDigits ∧
      k.exponent < 10 ^ Number.maxDigits ∧ f = { findingOf source bytes k with key := key } := by
  unfold describe
  by_cases modulus : k.modulus < 10 ^ Number.maxDigits
  · rw [decimal_of_lt modulus]
    by_cases exponent : k.exponent < 10 ^ Number.maxDigits
    · rw [decimal_of_lt exponent]
      constructor
      · intro h
        cases h
        exact ⟨modulus, exponent, rfl⟩
      · rintro ⟨-, -, rfl⟩
        rfl
    · rw [decimal_of_not_lt exponent]
      refine iff_of_false ?_ fun h => exponent h.2.1
      intro h
      cases h
  · rw [decimal_of_not_lt modulus]
    refine iff_of_false ?_ fun h => modulus h.1
    intro h
    cases h

/-- A finding comes from the bytes and the key in its key text. -/
theorem inspect_eq_some_iff {source : Source} {key : Text} {f : Finding} :
    inspect source key = .ok (some f) ↔ ∃ bytes k, Base64.decode? key = some bytes ∧
      PublicKey.read? bytes = some k ∧ describe source key bytes k = .ok f := by
  unfold inspect judge
  cases hd : Base64.decode? key with
  | none => simp [Except.map, Verdict.finding?]
  | some bytes =>
    cases hk : PublicKey.read? bytes with
    | none =>
      cases ha : foreignAlgorithm? bytes <;> simp [hk, ha, Except.map, Verdict.finding?]
    | some k =>
      cases hf : describe source key bytes k <;> simp [hk, hf, Except.map, Verdict.finding?]

/-- A finding is about the place where its key was found. -/
theorem source_of_inspect {source : Source} {key : Text} {f : Finding}
    (h : inspect source key = .ok (some f)) : f.source = source := by
  obtain ⟨bytes, k, -, -, described⟩ := inspect_eq_some_iff.1 h
  rw [(describe_eq_ok_iff.1 described).2.2]
  rfl

/-- The key text holds a key whose modulus has too many digits to be written. -/
def Overlong (key : Text) : Prop :=
  ∃ bytes k, Base64.decode? key = some bytes ∧ PublicKey.read? bytes = some k ∧
    10 ^ Number.maxDigits ≤ k.modulus

theorem PublicKey.isSound_of_read? {bytes : List UInt8} {k : PublicKey}
    (h : PublicKey.read? bytes = some k) : k.isSound = true := by
  rcases Option.or_eq_some_iff.1 h with framed | ⟨-, bare⟩
  · exact (Option.filter_eq_some_iff.1 framed).2
  · exact (Option.filter_eq_some_iff.1 bare).2

/-- The exponent of a key that is read is smaller than the modulus. -/
theorem PublicKey.exponent_lt_of_read? {bytes : List UInt8} {k : PublicKey}
    (h : PublicKey.read? bytes = some k) : k.exponent < k.modulus := by
  have sound := isSound_of_read? h
  simp only [isSound, Bool.and_eq_true, decide_eq_true_eq] at sound
  exact sound.1.2

/-- The inspection of a key fails when its modulus has too many digits, and only then. -/
theorem exists_inspect_eq_error_iff {source : Source} {key : Text} :
    (∃ e, inspect source key = .error e) ↔ Overlong key := by
  unfold inspect judge Overlong
  cases hd : Base64.decode? key with
  | none => simp [Except.map]
  | some bytes =>
    cases hk : PublicKey.read? bytes with
    | none => cases ha : foreignAlgorithm? bytes <;> simp [hk, ha, Except.map]
    | some k =>
      simp only [hk, Option.some.injEq, existsAndEq, true_and]
      cases hf : describe source key bytes k with
      | ok f =>
        have digits := (describe_eq_ok_iff.1 hf).1
        exact iff_of_false (by rintro ⟨_, ⟨⟩⟩) (Nat.not_le.2 digits)
      | error e =>
        refine iff_of_true ⟨e, rfl⟩ (Nat.le_of_not_lt fun digits => ?_)
        have digits' := Nat.lt_trans (PublicKey.exponent_lt_of_read? hk) digits
        rw [describe_eq_ok_iff.2 ⟨digits, digits', rfl⟩] at hf
        cases hf

theorem lt_of_length_ofNat_le {n : Nat} (h : (Text.ofNat n).length ≤ Number.maxDigits) :
    n < 10 ^ Number.maxDigits :=
  (Nat.length_toDigits_le_iff (by decide) (by decide)).1 h

/-- A number of few enough decimal digits has few bytes. -/
theorem length_toBytes_of_lt {n : Nat} (h : n < 10 ^ Number.maxDigits) :
    (toBytes n).length ≤ 65535 := by
  have digits : n < 256 ^ Number.maxDigits :=
    Nat.lt_of_lt_of_le h (Nat.pow_le_pow_left (by decide) _)
  have few : Number.maxDigits ≤ 65535 := by decide
  exact Nat.le_trans (length_toBytes_le digits) few

/-- The bytes that the bits of a key count are those of the modulus. -/
theorem PublicKey.bits_bounds {k : PublicKey} (h : k.modulus ≠ 0) :
    k.bits % 8 = 0 ∧ 256 ^ (k.bits / 8 - 1) ≤ k.modulus ∧ k.modulus < 256 ^ (k.bits / 8) := by
  obtain ⟨below, least⟩ := toBytes_bounds k.modulus
  have bytes : k.bits / 8 = (toBytes k.modulus).length := by
    rw [PublicKey.bits, Nat.mul_div_cancel_left _ (by decide)]
  rw [bytes]
  exact ⟨Nat.mul_mod_right 8 _, least h, below⟩

theorem PublicKey.isSound_of {k : PublicKey} (three : 3 ≤ k.exponent)
    (smaller : k.exponent < k.modulus) (odd : k.exponent % 2 = 1) : k.isSound = true := by
  have modulus : 3 ≤ k.modulus := by omega
  simp [isSound, modulus, three, smaller, odd]

/-- The base 64 text of an encoding of a sound key is judged to be that key. -/
theorem judge_encode {k : PublicKey} (sound : k.isSound = true)
    (smaller : k.exponent < k.modulus) (digits : k.modulus < 10 ^ Number.maxDigits)
    {bytes : List UInt8} (encoded : bytes = k.encode ∨ bytes = k.writeBare) (source : Source) :
    judge source (Base64.encode bytes) = .ok (.found (findingOf source bytes k)) := by
  have digits' : k.exponent < 10 ^ Number.maxDigits := Nat.lt_trans smaller digits
  have compact : k.Compact := ⟨length_toBytes_of_lt digits, length_toBytes_of_lt digits'⟩
  rw [judge, Base64.decode?_encode]
  simp only
  rw [PublicKey.read?_of_encoding compact sound encoded]
  simp only
  rw [describe_eq_ok_iff.2 ⟨digits, digits', rfl⟩]
  rfl

end SelectorScan.Key
