import SelectorScan.Key.Base64
import SelectorScan.Proofs.Text.Utf8

/-!
# Reading what was written in base 64

Every group of four characters that `encode` writes is read back as its bytes, the padded one at the
end included:

    decode? (encode bytes) = some bytes                                     (decode?_encode)

A written text consists of digits and at most two equals signs, and its length is a multiple of
four; so what is left of it when equals signs are cut off its end says how many there were. Digits
that leave a single one in their last group are no text of bytes (`decodeFrom_of_one_over`).
-/

namespace SelectorScan.Key.Base64

open Text.Utf8 (toNat_toUInt8)

/-! ## Digits -/

/-- A digit stands for its six bits, and is a letter, a decimal digit, a plus sign or a slash. -/
theorem digit_cases : ∀ n, n < 64 → value? (digit n) = some n ∧ digit n ≠ '=' ∧
    0x20 < (digit n).toNat ∧ (digit n).toNat < 0x80 := by
  decide +kernel

theorem value?_digit {n : Nat} (h : n < 64) : value? (digit n) = some n :=
  (digit_cases n h).1

theorem digit_ne_pad {n : Nat} (h : n < 64) : digit n ≠ '=' :=
  (digit_cases n h).2.1

/-- A digit that does not complete a byte is kept in the group. -/
theorem decodeFrom_first {bits pads v : Nat} {rest : Text} (h : v < 64) :
    decodeFrom ⟨0, bits⟩ pads (digit v :: rest) = decodeFrom ⟨1, v⟩ 0 rest := by
  rw [decodeFrom, if_neg (digit_ne_pad h), value?_digit h]
  rfl

theorem decodeFrom_second {bits pads v : Nat} {rest : Text} (h : v < 64) :
    decodeFrom ⟨1, bits⟩ pads (digit v :: rest) =
      (decodeFrom ⟨2, v % 16⟩ 0 rest).map ((bits * 4 + v / 16).toUInt8 :: ·) := by
  rw [decodeFrom, if_neg (digit_ne_pad h), value?_digit h]
  rfl

theorem decodeFrom_third {bits pads v : Nat} {rest : Text} (h : v < 64) :
    decodeFrom ⟨2, bits⟩ pads (digit v :: rest) =
      (decodeFrom ⟨3, v % 4⟩ 0 rest).map ((bits * 16 + v / 4).toUInt8 :: ·) := by
  rw [decodeFrom, if_neg (digit_ne_pad h), value?_digit h]
  rfl

theorem decodeFrom_fourth {bits pads v : Nat} {rest : Text} (h : v < 64) :
    decodeFrom ⟨3, bits⟩ pads (digit v :: rest) =
      (decodeFrom .empty 0 rest).map ((bits * 64 + v).toUInt8 :: ·) := by
  rw [decodeFrom, if_neg (digit_ne_pad h), value?_digit h]
  rfl

/-- Two equals signs end a group of two characters, and one ends a group of three. -/
theorem decodeFrom_pads (bits : Nat) :
    decodeFrom ⟨2, bits⟩ 0 ['=', '='] = some [] ∧ decodeFrom ⟨3, bits⟩ 0 ['='] = some [] :=
  ⟨rfl, rfl⟩

/-! ## Texts -/

theorem toUInt8_toNat_of_eq {n : Nat} {b : UInt8} (h : n = b.toNat) : n.toUInt8 = b := by
  apply UInt8.toNat_inj.1
  rw [h]
  exact toNat_toUInt8 b.toNat_lt

theorem decodeFrom_encode (bytes : List UInt8) : decodeFrom .empty 0 (encode bytes) = some bytes := by
  induction bytes using encode.induct with
  | case1 => rfl
  | case2 a =>
    have ha := a.toNat_lt
    have byte : (a.toNat / 4 * 4 + a.toNat % 4 * 16 / 16).toUInt8 = a :=
      toUInt8_toNat_of_eq (by omega)
    rw [encode, Group.empty, decodeFrom_first (by omega), decodeFrom_second (by omega), byte,
      (decodeFrom_pads _).1]
    rfl
  | case3 a b =>
    have ha := a.toNat_lt
    have hb := b.toNat_lt
    have first : (a.toNat / 4 * 4 + (a.toNat % 4 * 16 + b.toNat / 16) / 16).toUInt8 = a :=
      toUInt8_toNat_of_eq (by omega)
    have second :
        ((a.toNat % 4 * 16 + b.toNat / 16) % 16 * 16 + b.toNat % 16 * 4 / 4).toUInt8 = b :=
      toUInt8_toNat_of_eq (by omega)
    rw [encode, Group.empty, decodeFrom_first (by omega), decodeFrom_second (by omega), first,
      decodeFrom_third (by omega), second, (decodeFrom_pads _).2]
    rfl
  | case4 a b c rest ih =>
    have ha := a.toNat_lt
    have hb := b.toNat_lt
    have hc := c.toNat_lt
    have first : (a.toNat / 4 * 4 + (a.toNat % 4 * 16 + b.toNat / 16) / 16).toUInt8 = a :=
      toUInt8_toNat_of_eq (by omega)
    have second : ((a.toNat % 4 * 16 + b.toNat / 16) % 16 * 16 +
        (b.toNat % 16 * 4 + c.toNat / 64) / 4).toUInt8 = b := toUInt8_toNat_of_eq (by omega)
    have third : ((b.toNat % 16 * 4 + c.toNat / 64) % 4 * 64 + c.toNat % 64).toUInt8 = c :=
      toUInt8_toNat_of_eq (by omega)
    rw [encode, Group.empty, decodeFrom_first (by omega), decodeFrom_second (by omega), first,
      decodeFrom_third (by omega), second, decodeFrom_fourth (by omega), third, ih]
    rfl

/-- A written text consists of digits and equals signs. -/
theorem mem_encode {c : Char} {bytes : List UInt8} (h : c ∈ encode bytes) :
    c = '=' ∨ ∃ n, n < 64 ∧ c = digit n := by
  induction bytes using encode.induct with
  | case1 => cases h
  | case2 a =>
    have ha := a.toNat_lt
    simp only [encode, List.mem_cons, List.not_mem_nil, or_false] at h
    rcases h with h | h | h | h
    · exact .inr ⟨_, by omega, h⟩
    · exact .inr ⟨_, by omega, h⟩
    · exact .inl h
    · exact .inl h
  | case3 a b =>
    have ha := a.toNat_lt
    have hb := b.toNat_lt
    simp only [encode, List.mem_cons, List.not_mem_nil, or_false] at h
    rcases h with h | h | h | h
    · exact .inr ⟨_, by omega, h⟩
    · exact .inr ⟨_, by omega, h⟩
    · exact .inr ⟨_, by omega, h⟩
    · exact .inl h
  | case4 a b c' rest ih =>
    have ha := a.toNat_lt
    have hb := b.toNat_lt
    have hc := c'.toNat_lt
    simp only [encode, List.mem_cons] at h
    rcases h with h | h | h | h | h
    · exact .inr ⟨_, by omega, h⟩
    · exact .inr ⟨_, by omega, h⟩
    · exact .inr ⟨_, by omega, h⟩
    · exact .inr ⟨_, by omega, h⟩
    · exact ih h

/-- The characters of a written text are visible and ASCII. -/
theorem visible_of_mem_encode {c : Char} {bytes : List UInt8} (h : c ∈ encode bytes) :
    0x20 < c.toNat ∧ c.toNat < 0x80 := by
  rcases mem_encode h with rfl | ⟨n, hn, rfl⟩
  · decide
  · exact (digit_cases n hn).2.2

/-- Characters that carry no bits do not occur, except equals signs. -/
theorem not_mem_encode {c : Char} (idle : value? c = none) (other : c ≠ '=') (bytes : List UInt8) :
    c ∉ encode bytes := by
  intro h
  rcases mem_encode h with e | ⟨n, hn, rfl⟩
  · exact other e
  · rw [value?_digit hn] at idle
    cases idle

/-- Reading undoes writing. -/
theorem decode?_encode (bytes : List UInt8) : decode? (encode bytes) = some bytes := by
  have ascii : (encode bytes).all (fun c => c.toNat < 0x80) = true := by
    rw [List.all_eq_true]
    intro c hc
    exact decide_eq_true (visible_of_mem_encode hc).2
  rw [decode?, if_pos ascii, decodeFrom_encode]

theorem encode_ne_nil {bytes : List UInt8} (h : bytes ≠ []) : encode bytes ≠ [] := by
  intro e
  have read := decode?_encode bytes
  rw [e] at read
  exact h (Option.some.inj read).symm

/-! ## Equals signs at the end -/

/-- Whole groups are written. -/
theorem four_dvd_length_encode (bytes : List UInt8) : (encode bytes).length % 4 = 0 := by
  induction bytes using encode.induct with
  | case1 => rfl
  | case2 a => simp [encode]
  | case3 a b => simp [encode]
  | case4 a b c rest ih =>
    simp only [encode, List.length_cons]
    omega

theorem count_pad_encode_le (bytes : List UInt8) : (encode bytes).count '=' ≤ 2 := by
  have other {n : Nat} (h : n < 64) (t : Text) : (digit n :: t).count '=' = t.count '=' :=
    List.count_cons_of_ne (digit_ne_pad h)
  induction bytes using encode.induct with
  | case1 => decide
  | case2 a =>
    have ha := a.toNat_lt
    rw [encode, other (by omega), other (by omega)]
    decide
  | case3 a b =>
    have ha := a.toNat_lt
    have hb := b.toNat_lt
    rw [encode, other (by omega), other (by omega), other (by omega)]
    decide
  | case4 a b c rest ih =>
    have ha := a.toNat_lt
    have hb := b.toNat_lt
    have hc := c.toNat_lt
    rw [encode, other (by omega), other (by omega), other (by omega), other (by omega)]
    exact ih

/-- At most two equals signs can be cut off the end of a written text. -/
theorem pads_le_of_append_eq_encode {t : Text} {pads : Nat} {bytes : List UInt8}
    (h : t ++ List.replicate pads '=' = encode bytes) : pads ≤ 2 := by
  have two := count_pad_encode_le bytes
  rw [← h, List.count_append, List.count_replicate_self] at two
  omega

/-! ## Groups that stay incomplete -/

/-- A character counts within its group of four. -/
theorem count_push {g : Group} (h : g.count < 4) (v : Nat) :
    (g.push v).2.count = (g.count + 1) % 4 := by
  obtain ⟨count, bits⟩ := g
  match count, h with
  | 0, _ => rfl
  | 1, _ => rfl
  | 2, _ => rfl
  | 3, _ => simp only [Group.push, Group.empty]

/-- Equals signs do not end a group of one character. -/
theorem decodeFrom_replicate_of_one {g : Group} (h : g.count = 1) (pads k : Nat) :
    decodeFrom g pads (List.replicate k '=') = none := by
  induction k with
  | zero => rw [List.replicate_zero, decodeFrom, if_neg (by omega)]
  | succ k ih => rw [List.replicate_succ, decodeFrom, if_pos rfl, if_pos (by omega), ih]

/-- Digits that leave one over in the last group are not decoded, however they are padded. -/
theorem decodeFrom_of_one_over {t : Text} (digits : ∀ c ∈ t, ∃ n, n < 64 ∧ c = digit n) {g : Group}
    (h : g.count < 4) (single : (g.count + t.length) % 4 = 1) (pads k : Nat) :
    decodeFrom g pads (t ++ List.replicate k '=') = none := by
  induction t generalizing g pads with
  | nil =>
    rw [List.length_nil, Nat.add_zero, Nat.mod_eq_of_lt h] at single
    exact decodeFrom_replicate_of_one single pads k
  | cons c rest ih =>
    obtain ⟨n, hn, rfl⟩ := digits c List.mem_cons_self
    have counted := count_push h n
    rw [List.length_cons] at single
    -- what follows leaves one over as well, counted from the group behind this digit
    have undecoded := ih (fun c hc => digits c (List.mem_cons_of_mem _ hc)) (g := (g.push n).2)
      (by omega) (by omega) 0
    rw [List.cons_append, decodeFrom, if_neg (digit_ne_pad hn), value?_digit hn]
    simp only
    generalize g.push n = pushed at undecoded
    obtain ⟨byte, behind⟩ := pushed
    cases byte with
    | none => exact undecoded
    | some byte => exact congrArg (Option.map (byte :: ·)) undecoded

end SelectorScan.Key.Base64
