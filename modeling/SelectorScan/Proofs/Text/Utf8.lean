import Mathlib.Tactic.IntervalCases
import SelectorScan.Text.Utf8

/-!
# Reading what was written in UTF-8

The first byte of a character announces how many bytes follow and bounds the second one so that
every character has one form only. The bytes that `encodeChar` writes keep these bounds, so reading
takes them for the character and stops right behind (`decodeUnits_encodeChar_append`):

    decodeLossy (encode t) = t                                              (decodeLossy_encode)
-/

namespace SelectorScan.Text.Utf8

/-- The byte of a number below 256 is that number. -/
theorem toNat_toUInt8 {n : Nat} (h : n < 256) : n.toUInt8.toNat = n :=
  UInt8.toNat_ofNat_of_lt' h

/-! ## Announcements -/

theorem lead?_two {q : Nat} (low : 2 ≤ q) (high : q < 32) :
    lead? (0xC0 + q) = some ⟨1, q, 0x80, 0xBF⟩ := by
  interval_cases q <;> rfl

theorem lead?_three {q : Nat} (high : q < 16) :
    lead? (0xE0 + q) =
      some ⟨2, q, if q = 0 then 0xA0 else 0x80, if q = 13 then 0x9F else 0xBF⟩ := by
  interval_cases q <;> rfl

theorem lead?_four {q : Nat} (high : q < 5) :
    lead? (0xF0 + q) =
      some ⟨3, q, if q = 0 then 0x90 else 0x80, if q = 4 then 0x8F else 0xBF⟩ := by
  interval_cases q <;> rfl

/-- A byte within the bounds adds its six bits. -/
theorem follow_cons {n bits low high d : Nat} {rest : List UInt8} (small : d < 64)
    (above : low ≤ 0x80 + d) (below : 0x80 + d ≤ high) :
    follow (n + 1) bits low high ((0x80 + d).toUInt8 :: rest) =
      follow n (bits * 64 + d) 0x80 0xBF rest := by
  have hb : (0x80 + d).toUInt8.toNat = 0x80 + d := toNat_toUInt8 (by omega)
  rw [follow, hb, if_pos ⟨above, below⟩, Nat.add_sub_cancel_left]

/-- A further byte has no bounds of its own. -/
theorem follow_tail {n bits d : Nat} {rest : List UInt8} (small : d < 64) :
    follow (n + 1) bits 0x80 0xBF ((0x80 + d).toUInt8 :: rest) =
      follow n (bits * 64 + d) 0x80 0xBF rest :=
  follow_cons small (by omega) (by omega)

/-- The first byte of a longer form is followed as it announces. -/
theorem decodeUnit_of_lead? {b : Nat} {l : Lead} {bytes rest : List UInt8} {c : Char}
    (high : 0x80 ≤ b) (small : b < 256) (lead : lead? b = some l)
    (read : follow l.following l.bits l.low l.high bytes = (some c.toNat, rest)) :
    decodeUnit b.toUInt8 bytes = (some c, rest) := by
  have hb : b.toUInt8.toNat = b := toNat_toUInt8 small
  simp only [decodeUnit]
  rw [hb, if_neg (by omega), lead]
  simp only [read, Option.map_some, Char.ofNat_toNat]

/-- A character is no surrogate and lies below U+110000. -/
theorem toNat_cases (c : Char) : c.toNat < 0xD800 ∨ 0xDFFF < c.toNat ∧ c.toNat < 0x110000 :=
  c.valid

/-! ## Characters -/

/-- Reading takes the bytes of a character for that character. -/
theorem decodeUnit_encodeChar (c : Char) (rest : List UInt8) :
    ∃ b tail, encodeChar c = b :: tail ∧ decodeUnit b (tail ++ rest) = (some c, rest) := by
  have valid := toNat_cases c
  unfold encodeChar
  generalize hn : c.toNat = n at valid
  simp only
  by_cases h1 : n < 0x80
  · rw [if_pos h1]
    refine ⟨_, _, rfl, ?_⟩
    have hb : n.toUInt8.toNat = n := toNat_toUInt8 (by omega)
    rw [decodeUnit, hb, if_pos h1, ← hn, Char.ofNat_toNat]
    rfl
  rw [if_neg h1]
  by_cases h2 : n < 0x800
  · rw [if_pos h2]
    refine ⟨_, _, rfl, decodeUnit_of_lead? (by omega) (by omega) (lead?_two (q := n / 64) (by omega)
      (by omega)) ?_⟩
    simp only [List.cons_append, List.nil_append]
    rw [follow_tail (by omega), follow, hn, show n / 64 * 64 + n % 64 = n by omega]
  rw [if_neg h2]
  by_cases h3 : n < 0x10000
  · rw [if_pos h3]
    refine ⟨_, _, rfl, decodeUnit_of_lead? (by omega) (by omega) (lead?_three (q := n / 4096)
      (by omega)) ?_⟩
    simp only [List.cons_append, List.nil_append]
    rw [follow_cons (by omega) (by split <;> omega) (by split <;> omega), follow_tail (by omega),
      follow, hn, show (n / 4096 * 64 + n / 64 % 64) * 64 + n % 64 = n by omega]
  · rw [if_neg h3]
    refine ⟨_, _, rfl, decodeUnit_of_lead? (by omega) (by omega) (lead?_four (q := n / 262144)
      (by omega)) ?_⟩
    simp only [List.cons_append, List.nil_append]
    rw [follow_cons (by omega) (by split <;> omega) (by split <;> omega), follow_tail (by omega),
      follow_tail (by omega), follow, hn,
      show ((n / 262144 * 64 + n / 4096 % 64) * 64 + n / 64 % 64) * 64 + n % 64 = n by omega]

theorem decodeUnits_encodeChar_append (c : Char) (rest : List UInt8) :
    decodeUnits (encodeChar c ++ rest) = some c :: decodeUnits rest := by
  obtain ⟨b, tail, bytes, read⟩ := decodeUnit_encodeChar c rest
  rw [bytes, List.cons_append, decodeUnits, read]

/-! ## Texts -/

/-- The bytes of a text hold its characters and no fault. -/
theorem decodeUnits_encode (t : Text) : decodeUnits (encode t) = t.map some := by
  induction t with
  | nil => simp [encode, decodeUnits]
  | cons c t ih =>
    have step : encode (c :: t) = encodeChar c ++ encode t := rfl
    rw [step, decodeUnits_encodeChar_append, ih]
    rfl

/-- A strict reader gives back what was written. -/
theorem decode?_encode (t : Text) : decode? (encode t) = some t := by
  rw [decode?, decodeUnits_encode]
  induction t with
  | nil => rfl
  | cons c t ih =>
    rw [List.map_cons, List.mapM_cons, ih]
    rfl

theorem decodeLossy_encode (t : Text) : decodeLossy (encode t) = t := by
  rw [decodeLossy, decodeUnits_encode, List.map_map]
  exact List.map_id t

end SelectorScan.Text.Utf8
