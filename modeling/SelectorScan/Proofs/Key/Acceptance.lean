import SelectorScan.Proofs.Key.Finding
import SelectorScan.Proofs.Number.Integer

/-!
# The key texts that are accepted

A key text gives a finding exactly when it decodes to one of the five encodings of a sound key whose
modulus may be written in decimal; the finding is that key's:

    inspect source key = .ok (some f) ↔ ∃ k form,
      Base64.decode? key = some (k.encoding form) ∧ k.isSound = true ∧ … ∧
        f = { findingOf source (k.encoding form) k with key }      (inspect_eq_some_iff_encoding)

The key and the form are told by the bytes, so there is no choice in what is found
(`inspect_finds_iff`).
-/

namespace SelectorScan.Key

open Der

theorem PublicKey.isSound_iff {k : PublicKey} : k.isSound = true ↔
    3 ≤ k.modulus ∧ k.exponent % 2 = 1 ∧ 3 ≤ k.exponent ∧ k.exponent < k.modulus := by
  simp only [isSound, Bool.and_eq_true, decide_eq_true_eq, beq_iff_eq]
  omega

/-- A sound key whose modulus may be written has numbers of few enough bytes. -/
theorem PublicKey.compact_of_lt {k : PublicKey} (sound : k.isSound = true)
    (digits : k.modulus < 10 ^ Number.maxDigits) : k.Compact := by
  have smaller := (isSound_iff.1 sound).2.2.2
  exact ⟨length_toBytes_of_lt digits, length_toBytes_of_lt (smaller.trans digits)⟩

/-- What is found in a key text is a sound key in one of its encodings. -/
theorem inspect_eq_some_iff_encoding {source : Source} {key : Text} {f : Finding} :
    inspect source key = .ok (some f) ↔ ∃ (k : PublicKey) (form : Form),
      Base64.decode? key = some (k.encoding form) ∧ k.isSound = true ∧
        k.modulus < 10 ^ Number.maxDigits ∧
          f = { findingOf source (k.encoding form) k with key } := by
  rw [inspect_eq_some_iff]
  constructor
  · rintro ⟨bytes, k, decoded, read, described⟩
    obtain ⟨sound, form, rfl⟩ := PublicKey.exists_encoding_of_read? read
    obtain ⟨digits, -, found⟩ := describe_eq_ok_iff.1 described
    exact ⟨k, form, decoded, sound, digits, found⟩
  · rintro ⟨k, form, decoded, sound, digits, found⟩
    have smaller := (PublicKey.isSound_iff.1 sound).2.2.2
    have short := (PublicKey.compact_of_lt sound digits).writable form
    exact ⟨k.encoding form, k, decoded, PublicKey.read?_encoding short sound,
      describe_eq_ok_iff.2 ⟨digits, smaller.trans digits, found⟩⟩

/-- The bits of a sound key are the least multiple of eight that its modulus fits in. -/
theorem PublicKey.bits_least {k : PublicKey} (h : k.modulus ≠ 0) :
    k.bits % 8 = 0 ∧ 2 ^ (k.bits - 8) ≤ k.modulus ∧ k.modulus < 2 ^ k.bits := by
  obtain ⟨whole, least, below⟩ := bits_bounds h
  have byte (m : Nat) : 256 ^ m = 2 ^ (8 * m) := Nat.pow_mul 2 8 m ▸ rfl
  have fewer : 8 * (k.bits / 8 - 1) = k.bits - 8 := by omega
  have all : 8 * (k.bits / 8) = k.bits := by omega
  rw [byte, fewer] at least
  rw [byte, all] at below
  exact ⟨whole, least, below⟩

/-- A modulus and an exponent are found in a key text exactly when the text decodes to one of the
five encodings of them, and they are those of a sound key that may be written. Whatever is found is
a modulus and an exponent, with the bits of the whole bytes that the modulus takes. An encoding has
one form and one key only (that of `256 ^ 127` bytes or more cannot state its length, so it is none),
so the order in which framed and bare encodings are tried does not matter. -/
theorem inspect_finds_iff (source : Source) (key : Text) :
    (∀ n e : Nat,
      (∃ f, inspect source key = .ok (some f) ∧ f.modulus = Text.ofNat n ∧
        f.exponent = Text.ofNat e) ↔
      ∃ bytes, Base64.decode? key = some bytes ∧ 3 ≤ n ∧ e % 2 = 1 ∧ 3 ≤ e ∧ e < n ∧
        (Text.ofNat n).length ≤ 4300 ∧ ∃! form, bytes = (PublicKey.mk n e).encoding form) ∧
    (∀ f, inspect source key = .ok (some f) → ∃ n e : Nat,
      f.modulus = Text.ofNat n ∧ f.exponent = Text.ofNat e ∧
        f.bits % 8 = 0 ∧ 2 ^ (f.bits - 8) ≤ n ∧ n < 2 ^ f.bits) ∧
    (∀ (k l : PublicKey) (form form' : Form), (k.encoding form).length < 256 ^ 127 →
      k.encoding form = l.encoding form' → form = form' ∧ k = l) ∧
    ∀ bytes, PublicKey.read? bytes =
      ((PublicKey.readBare? bytes).filter PublicKey.isSound).or
        ((PublicKey.readFramed? bytes).filter PublicKey.isSound) := by
  refine ⟨fun n e => ⟨?_, ?_⟩, ?_, ?_, PublicKey.read?_comm⟩
  · rintro ⟨f, found, modulus, exponent⟩
    obtain ⟨k, form, decoded, sound, digits, rfl⟩ := inspect_eq_some_iff_encoding.1 found
    obtain rfl : k.modulus = n := Number.ofNat_inj modulus
    obtain rfl : k.exponent = e := Number.ofNat_inj exponent
    obtain ⟨three, odd, three', smaller⟩ := PublicKey.isSound_iff.1 sound
    have short := (PublicKey.compact_of_lt sound digits).writable form
    have few : (Text.ofNat k.modulus).length ≤ Number.maxDigits :=
      (Nat.length_toDigits_le_iff (by decide) (by decide)).2 digits
    refine ⟨_, decoded, three, odd, three', smaller, few, form, rfl, ?_⟩
    intro form' same
    exact (PublicKey.encoding_injective short same).1.symm
  · rintro ⟨bytes, decoded, three, odd, three', smaller, digits, form, rfl, -⟩
    have sound : (PublicKey.mk n e).isSound = true :=
      PublicKey.isSound_iff.2 ⟨three, odd, three', smaller⟩
    exact ⟨_, inspect_eq_some_iff_encoding.2
      ⟨_, form, decoded, sound, lt_of_length_ofNat_le digits, rfl⟩, rfl, rfl⟩
  · intro f found
    obtain ⟨k, form, -, sound, -, rfl⟩ := inspect_eq_some_iff_encoding.1 found
    have three := (PublicKey.isSound_iff.1 sound).1
    exact ⟨k.modulus, k.exponent, rfl, rfl, PublicKey.bits_least (by omega)⟩
  · intro k l form form' short same
    exact PublicKey.encoding_injective (writable_iff.2 short) same

/-- The bare encoding of the modulus 15 and the exponent 3. -/
theorem inspect_finds_iff_bare :
    let source : Source := ⟨"s._domainkey.d".toList, [], "d".toList, "s".toList, "PROD".toList⟩
    let bytes : List UInt8 := [0x30, 6, 2, 1, 15, 2, 1, 3]
    Base64.decode? "MAYCAQ8CAQM=".toList = some bytes ∧ bytes.length < 256 ^ 127 ∧
      (∃ f, inspect source "MAYCAQ8CAQM=".toList = .ok (some f) ∧ f.modulus = "15".toList ∧
        f.exponent = "3".toList ∧ 2 ^ (f.bits - 8) ≤ 15 ∧ 15 < 2 ^ f.bits) ∧
      ∀ form, bytes = (PublicKey.mk 15 3).encoding form → form = .bare := by
  intro source bytes
  have bare : (PublicKey.mk 15 3).encoding .bare = bytes := by decide +kernel
  have decoded : Base64.decode? "MAYCAQ8CAQM=".toList = some bytes := by decide
  have short : ((PublicKey.mk 15 3).encoding .bare).length < 256 ^ 127 := by
    rw [bare]
    decide
  obtain ⟨finds, sizes, one, -⟩ := inspect_finds_iff source "MAYCAQ8CAQM=".toList
  have only : ∀ form, bytes = (PublicKey.mk 15 3).encoding form → form = .bare := by
    intro form same
    exact (one _ _ _ form short (bare.trans same)).1.symm
  obtain ⟨f, found, modulus, exponent⟩ := (finds 15 3).2 ⟨bytes, decoded, by decide, by decide,
    by decide, by decide, by decide +kernel, .bare, bare.symm, only⟩
  obtain ⟨n, e, modulus', -, -, least, below⟩ := sizes f found
  obtain rfl : 15 = n := Number.ofNat_inj (modulus.symm.trans modulus')
  exact ⟨decoded, by decide, ⟨f, found, modulus, exponent, least, below⟩, only⟩

end SelectorScan.Key
