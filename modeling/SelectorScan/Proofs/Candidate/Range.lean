import SelectorScan.Proofs.Candidate.Composition
import SelectorScan.Proofs.Candidate.Guarded
import SelectorScan.Proofs.Number.Padded

/-!
# The values of a range

A range that is accepted has two letters or two integers for its ends, never both, as no letter is a
decimal digit. Between letters stand the code points from the one to the other, surrogates among
them (`Letters`); between integers stand as many decimals as there are integers, each the decimal of
its number (`Numbers`). The walk through the range gives these behind what stands in front of it
(`range_gives`).

A decimal is read back as its number unless it is longer than a reader takes, which only a first end
makes it that is too long itself: underscores in it count for the width, but not as digits.

    readInt? (writeInt first.length (i + k)) = some (i + k)  if  first.length ≤ maxDigits
                                                                        (readInt?_number)
-/

namespace SelectorScan.Candidate

open Rule Number Text

/-! ## Ends -/

/-- No letter is a decimal digit. -/
theorem digit?_of_isLetter {c : Char} (h : isLetter c = true) : digit? c = none := by
  have apart : (letterRanges.all fun r =>
      zeros.all fun z => r.2.blt z || (z + 9).blt r.1) = true := by decide +kernel
  obtain ⟨r, hr, inside⟩ := List.any_eq_true.1 h
  rw [digit?, List.findSome?_eq_none_iff]
  intro z hz
  have outside := List.all_eq_true.1 (List.all_eq_true.1 apart r hr) z hz
  simp only [Bool.or_eq_true, Nat.blt_eq, Bool.and_eq_true, decide_eq_true_eq] at outside inside
  rw [if_neg (by omega)]

/-- A letter is not read as an integer. -/
theorem readInt?_of_isLetter {c : Char} (h : isLetter c = true) : readInt? [c] = none := by
  have alone : readNat? [c] = none := by
    rw [readNat?, readDigits?, digit?_of_isLetter h]
    rfl
  have trimmed : trim isMargin [c] = [] ∨ trim isMargin [c] = [c] := by
    unfold trim trimEnd
    by_cases margin : isMargin c = true
    · exact .inl (by simp [margin])
    · exact .inr (by simp [margin])
  unfold readInt?
  rcases trimmed with e | e
  · rw [e]
    rfl
  · rw [e]
    split
    · next e => cases e; rfl
    · next e => cases e; rfl
    · rw [alone]
      rfl

/-! ## Letters -/

/-- The values are the single code points from one letter to another. -/
structure Letters (a b : Char) (vs : List Points) : Prop where
  count : vs.length = b.toNat + 1 - a.toNat
  none : b < a → vs = []
  letter : ∀ (k : Nat) (v : Points), vs[k]? = some v → ∃ p, v = [p] ∧ p.code = a.toNat + k

theorem letters_toList (a b : Char) :
    Letters a b (Values.letters a.toNat (b.toNat + 1 - a.toNat)).toList where
  count := Values.length_toList _
  none := by
    intro h
    have less : b.toNat < a.toNat := h
    have empty : b.toNat + 1 - a.toNat = 0 := by omega
    rw [empty]
    rfl
  letter := by
    intro k v h
    rw [Values.toList, List.getElem?_map, Option.map_eq_some_iff] at h
    obtain ⟨n, hn, rfl⟩ := h
    obtain ⟨inside, rfl⟩ := List.getElem?_eq_some_iff.1 hn
    rw [List.length_range] at inside
    have last := Point.toNat_le b
    rw [List.getElem_range]
    exact ⟨_, rfl, Point.code_ofCode (by omega)⟩

/-! ## Numbers -/

/-- The texts, each behind `front`, are what a range of numbers from `i` to `j` gives whose first
end is the text `first`. -/
structure Numbers (front : Points) (first : Text) (i j : Int) (ts : List Text) : Prop where
  count : (ts.length : Int) = max 0 (j - i + 1)
  distinct : (ts.map fun t => front ++ Points.ofText t).Nodup
  /-- Each text is the decimal of its number, which the number can be told from. -/
  decimal : ∀ (k : Nat) (t : Text), ts[k]? = some t → IsDecimal t (i + k)
  /-- It is read back, unless the first end asks for more digits than are read. -/
  parsed : ∀ (k : Nat) (t : Text), ts[k]? = some t → readInt? t =
    if first.head? = some '0' ∧ maxDigits < first.length then none else some (i + k)
  /-- Zeros stand in front only if the first end begins with one, … -/
  plain : first.head? ≠ some '0' →
    ∀ t ∈ ts, (t.head? = some '0' → t = ['0']) ∧ ∀ rest, t ≠ '-' :: '0' :: rest
  /-- … and then as many as make the text as long as that end. -/
  padded : first.head? = some '0' → ∀ (k : Nat) (t : Text), ts[k]? = some t →
    t.length = max first.length (ofNat (i + k).natAbs).length
  /-- Texts that are all as long as the first end are in order. -/
  ordered : first.head? = some '0' → (ofNat j.natAbs).length ≤ first.length →
    (ts.map fun t => front ++ Points.ofText t).Pairwise (· < ·)

/-- The decimals of so many integers from one on. -/
def decimals (i : Int) (n width : Nat) : List Text :=
  (List.range n).map fun k => writeInt width (i + (k : Nat))

theorem toList_numbers (i : Int) (n width : Nat) :
    (Values.numbers i n width).toList = (decimals i n width).map Points.ofText := by
  rw [Values.toList, decimals, List.map_map]
  rfl

theorem getElem?_decimals {i : Int} {n width k : Nat} {t : Text} :
    (decimals i n width)[k]? = some t ↔ k < n ∧ writeInt width (i + k) = t := by
  rw [decimals, List.getElem?_map, Option.map_eq_some_iff]
  constructor
  · rintro ⟨m, hm, rfl⟩
    obtain ⟨inside, rfl⟩ := List.getElem?_eq_some_iff.1 hm
    rw [List.length_range] at inside
    exact ⟨inside, by rw [List.getElem_range]⟩
  · rintro ⟨inside, rfl⟩
    exact ⟨k, List.getElem?_range inside, rfl⟩

theorem nodup_decimals (front : Points) (i : Int) (n width : Nat) :
    ((decimals i n width).map fun t => front ++ Points.ofText t).Nodup := by
  rw [decimals, List.map_map, List.Nodup, List.pairwise_map]
  refine List.nodup_range.imp ?_
  intro k m apart same
  have text : writeInt width (i + k) = writeInt width (i + m) :=
    Points.ofText_injective (List.append_cancel_left same)
  have value := (isDecimal_writeInt width (i + k)).unique (text ▸ isDecimal_writeInt width (i + m))
  omega

theorem pairwise_decimals {i j : Int} (nonneg : 0 ≤ i) {width : Nat}
    (fits : (ofNat j.natAbs).length ≤ width) (front : Points) :
    ((decimals i (j - i + 1).toNat width).map fun t =>
      front ++ Points.ofText t).Pairwise (· < ·) := by
  rw [decimals, List.map_map, List.pairwise_map]
  refine List.pairwise_lt_range.imp_of_mem ?_
  intro k m hk hm less
  rw [List.mem_range] at hm
  have fewer : (ofNat (i + m).natAbs).length ≤ (ofNat j.natAbs).length :=
    length_ofNat_le (by omega)
  have later := writeInt_lt (i := i + k) (j := i + m) (by omega) (by omega)
    (Nat.le_trans fewer fits)
  exact List.append_left_lt (Points.ofText_lt later)

/-- A number of a range that has few enough digits is read back, unless zeros in front of it make it
too long. -/
theorem readInt?_number {first : Text} {i : Int} (hf : readInt? first = some i) {k : Nat}
    (few : (ofNat (i + k).natAbs).length ≤ maxDigits) :
    readInt? (writeInt (if first.head? = some '0' then first.length else 0) (i + k)) =
      if first.head? = some '0' ∧ maxDigits < first.length then none else some (i + k) := by
  by_cases zero : first.head? = some '0'
  · have nonneg := nonneg_of_readInt? zero hf
    rw [if_pos zero, (isDecimal_writeInt _ _).readInt?_eq, length_writeInt (by omega),
      if_neg (by omega : ¬ i + (k : Int) < 0), Nat.add_zero]
    by_cases long : maxDigits < first.length
    · rw [if_neg (by omega), if_pos ⟨zero, long⟩]
    · rw [if_pos (by omega), if_neg fun h => long h.2]
  · rw [if_neg zero, if_neg fun h => zero h.1, writeInt_zero]
    exact readInt?_ofInt ((Nat.length_toDigits_le_iff (by decide) (by decide)).1 few)

theorem numbers_decimals (front : Points) {first last : Text} {i j : Int}
    (hf : readInt? first = some i) (hl : readInt? last = some j)
    (numbers : (⟨first, last⟩ : Range).isLetters = false) :
    Numbers front first i j
      (decimals i (j - i + 1).toNat (⟨first, last⟩ : Range).padWidth) := by
  have width : (⟨first, last⟩ : Range).padWidth =
      if first.head? = some '0' then first.length else 0 := by
    simp [Range.padWidth, numbers]
  have few : ∀ k : Nat, k < (j - i + 1).toNat → (ofNat (i + k).natAbs).length ≤ maxDigits := by
    intro k hk
    exact length_ofNat_between hf hl (by omega) (by omega)
  rw [width]
  exact {
    count := by
      rw [decimals, List.length_map, List.length_range]
      omega
    distinct := nodup_decimals front i _ _
    decimal := by
      intro k t h
      obtain ⟨-, rfl⟩ := getElem?_decimals.1 h
      exact isDecimal_writeInt _ _
    parsed := by
      intro k t h
      obtain ⟨inside, rfl⟩ := getElem?_decimals.1 h
      exact readInt?_number hf (few k inside)
    plain := by
      intro h t ht
      rw [if_neg h] at ht
      obtain ⟨k, -, rfl⟩ := List.mem_map.1 ht
      rw [writeInt_zero]
      exact ofInt_canonical _
    padded := by
      intro h k t ht
      obtain ⟨-, rfl⟩ := getElem?_decimals.1 ht
      have nonneg := nonneg_of_readInt? h hf
      rw [if_pos h, length_writeInt (by omega)]
    ordered := by
      intro h fits
      rw [if_pos h]
      exact pairwise_decimals (nonneg_of_readInt? h hf) fits front }

/-! ## Ranges -/

variable {domain : Domain}

/-- A range that is accepted has the values of its letters or of its numbers. -/
theorem valuesOf_range (front : Points) {first last : Text}
    (sound : ((⟨first, last⟩ : Range).isLetters || (⟨first, last⟩ : Range).isNumbers) = true) :
    (∃ a b, first = [a] ∧ last = [b] ∧ isLetter a = true ∧ isLetter b = true ∧
      Letters a b (valuesOf domain (.range ⟨first, last⟩))) ∨
    ∃ i j ts, readInt? first = some i ∧ readInt? last = some j ∧
      (⟨first, last⟩ : Range).isLetters = false ∧
      valuesOf domain (.range ⟨first, last⟩) = ts.map Points.ofText ∧
      Numbers front first i j ts := by
  cases letters : (⟨first, last⟩ : Range).isLetters with
  | true =>
    obtain ⟨a, b, rfl, rfl, ha, hb⟩ := isLetters_iff.1 letters
    have values : rangeValues ⟨[a], [b]⟩ = .ok (.letters a.toNat (b.toNat + 1 - a.toNat)) := by
      rw [rangeValues, letters]
    rw [valuesOf, tokenValues, values]
    exact .inl ⟨a, b, rfl, rfl, ha, hb, letters_toList a b⟩
  | false =>
    rw [letters, Bool.false_or, Range.isNumbers, Bool.and_eq_true] at sound
    obtain ⟨i, hi⟩ := Option.isSome_iff_exists.1 sound.1
    obtain ⟨j, hj⟩ := Option.isSome_iff_exists.1 sound.2
    simp only at hi hj
    have values : rangeValues ⟨first, last⟩ =
        .ok (.numbers i (j - i + 1).toNat (⟨first, last⟩ : Range).padWidth) := by
      simp only [rangeValues, letters, rangeEnd, hi, hj]
      rfl
    rw [valuesOf, tokenValues, values]
    exact .inr ⟨i, j, _, hi, hj, rfl, toList_numbers .., numbers_decimals front hi hj letters⟩

/-- The walk through a single token that has values gives these behind the front. -/
theorem gives_valuesOf {token : Token} (sound : ∃ values, tokenValues domain token = .ok values)
    (front : Points) :
    (Walk.start [token] front).Gives domain ((valuesOf domain token).map (front ++ ·)) := by
  have alone : candidates domain [token] = valuesOf domain token := by
    rw [candidates_cons, candidates, List.map_nil, product_nil]
    simp
  rw [← alone]
  exact gives_candidates_behind front fun t ht => List.mem_singleton.1 ht ▸ sound

/-- The walk through a range that is accepted gives, behind the front, the letters from one to
another when its ends are two letters, which then are no integers; otherwise its ends are integers
and it gives the numbers from one to the other. -/
theorem range_gives {args : List Text} {token : Token}
    (built : Directive.range.token? args = some token) (domain : Domain) (front : Points) :
    ∃ first last vs, args = [first, last] ∧ token = .range ⟨first, last⟩ ∧
      (Walk.start [token] front).Gives domain (vs.map (front ++ ·)) ∧
      (∀ n, pulls (Walk.pull domain) n (Walk.start [token] front) =
        ((vs.map (front ++ ·)).take n, none)) ∧
      ((∃ a b, first = [a] ∧ last = [b] ∧ isLetter a = true ∧ isLetter b = true ∧
          readInt? first = none ∧ readInt? last = none ∧ Letters a b vs) ∨
        ∃ i j ts, readInt? first = some i ∧ readInt? last = some j ∧
          (⟨first, last⟩ : Range).isLetters = false ∧ vs = ts.map Points.ofText ∧
          Numbers front first i j ts) := by
  obtain ⟨first, last, rfl, rfl, sound⟩ := token?_range_iff.1 built
  have values : ∃ values, tokenValues domain (.range ⟨first, last⟩) = .ok values :=
    exists_rangeValues sound
  have given := gives_valuesOf values front
  refine ⟨first, last, _, rfl, rfl, given, ?_, ?_⟩
  · intro n
    rw [Walk.pulls_pull_eq (Walk.makeable_start _ _), Walk.pulls_next?_of_gives given]
    rfl
  · rcases valuesOf_range front sound with ⟨a, b, rfl, rfl, ha, hb, points⟩ | numbers
    · exact .inl ⟨a, b, rfl, rfl, ha, hb, readInt?_of_isLetter ha, readInt?_of_isLetter hb, points⟩
    · exact .inr numbers

theorem range_gives_eight_to_ten :
    Directive.range.token? ["08".toList, "10".toList] =
        some (.range ⟨"08".toList, "10".toList⟩) ∧
      ∃ first last vs, ["08".toList, "10".toList] = [first, last] ∧
        Token.range ⟨"08".toList, "10".toList⟩ = .range ⟨first, last⟩ ∧
        (Walk.start [.range ⟨"08".toList, "10".toList⟩] "key".toList).Gives
          ⟨"example.com".toList⟩ (vs.map (Points.ofText "key".toList ++ ·)) ∧
        (∀ n, pulls (Walk.pull ⟨"example.com".toList⟩) n
            (Walk.start [.range ⟨"08".toList, "10".toList⟩] "key".toList) =
          ((vs.map (Points.ofText "key".toList ++ ·)).take n, none)) ∧
        ((∃ a b, first = [a] ∧ last = [b] ∧ isLetter a = true ∧ isLetter b = true ∧
            readInt? first = none ∧ readInt? last = none ∧ Letters a b vs) ∨
          ∃ i j ts, readInt? first = some i ∧ readInt? last = some j ∧
            (⟨first, last⟩ : Range).isLetters = false ∧ vs = ts.map Points.ofText ∧
            Numbers "key".toList first i j ts) :=
  have built : Directive.range.token? ["08".toList, "10".toList] =
      some (.range ⟨"08".toList, "10".toList⟩) := by decide +kernel
  ⟨built, range_gives built ⟨"example.com".toList⟩ "key".toList⟩

/-! ## Too many digits -/

/-- An underscore between digits counts for the length of a text, but is not read. -/
theorem readInt?_underscored {ds : Text} (filled : ds ≠ []) (digits : ∀ c ∈ ds, c.isDigit = true) :
    readInt? ('0' :: '_' :: ds) = (readNat? ('0' :: ds)).map Int.ofNat := by
  have whole : trim isMargin ('0' :: '_' :: ds) = '0' :: '_' :: ds := by
    apply trim_isMargin
    simp only [List.forall_mem_cons]
    exact ⟨by decide, by decide, fun c hc => not_isBlank_of_isDigit (digits c hc)⟩
  have skipped : readDigits? ('0' :: '_' :: ds) = readDigits? ('0' :: ds) := by
    rw [readDigits?_of_isDigit (List.cons_ne_nil _ _) (List.forall_mem_cons.2 ⟨rfl, digits⟩)]
    change ((digit? '0').bind fun d => (readDigits? ds).map (d :: ·)) = _
    rw [readDigits?_of_isDigit filled digits]
    rfl
  rw [readInt?, whole, readNat?, ← skipped]
  rfl

/-- Zeros that may just be read, with an underscore among them, are the end of a range that gives
one zero more, which are too many to be read. -/
theorem zeros_unreadable (domain : Domain) {n : Nat} (few : n + 1 ≤ maxDigits)
    (many : maxDigits < n + 2) :
    let first : Text := '0' :: '_' :: List.replicate n '0'
    let padded : Text := List.replicate (n + 2) '0'
    readInt? first = some 0 ∧
      Directive.range.token? [first, ['0']] = some (.range ⟨first, ['0']⟩) ∧
      (Walk.start [.range ⟨first, ['0']⟩] []).Gives domain [padded] ∧ readInt? padded = none := by
  intro first padded
  have filled : n ≠ 0 := by
    rintro rfl
    exact absurd many (by decide)
  have zeros (m : Nat) : ∀ c ∈ List.replicate m '0', c.isDigit = true := by
    intro c hc
    rw [List.eq_of_mem_replicate hc]
    rfl
  have value (m : Nat) : Nat.ofDigitChars 10 (List.replicate m '0') 0 = 0 := by
    rw [Nat.ofDigitChars_replicate_zero, Nat.mul_zero]
  have hf : readInt? first = some 0 := by
    rw [readInt?_underscored (by simp [filled]) (zeros n), ← List.replicate_succ,
      readNat?_of_isDigit (by simp) (zeros _), value, List.length_replicate, if_pos few]
    rfl
  have hl : readInt? ['0'] = some 0 := by decide
  have letters : (⟨first, ['0']⟩ : Range).isLetters = false := rfl
  have numbers : (⟨first, ['0']⟩ : Range).isNumbers = true := by
    rw [Range.isNumbers, hf, hl]
    rfl
  have width : (⟨first, ['0']⟩ : Range).padWidth = n + 2 := by
    simp [Range.padWidth, letters, first]
  have values : tokenValues domain (.range ⟨first, ['0']⟩) = .ok (.numbers 0 1 (n + 2)) := by
    simp only [tokenValues, rangeValues, letters, rangeEnd, hf, hl, width]
    rfl
  have text : writeInt (n + 2) 0 = padded := by
    rw [writeInt, if_neg (by decide), padZeros]
    exact List.replicate_succ'.symm
  refine ⟨hf, token?_range_iff.2 ⟨_, _, rfl, rfl, numbers⟩, ?_, ?_⟩
  · have given := gives_valuesOf ⟨_, values⟩ []
    have alone : valuesOf domain (.range ⟨first, ['0']⟩) = [Points.ofText padded] := by
      rw [valuesOf, values, ← text]
      rfl
    rwa [alone] at given
  · have decimal : IsDecimal padded 0 := text ▸ isDecimal_writeInt (n + 2) 0
    rw [decimal.readInt?_eq, List.length_replicate, if_neg (Int.lt_irrefl 0), if_neg (by omega)]

theorem padding_unreadable :
    let first : Text := '0' :: '_' :: List.replicate 4299 '0'
    let padded : Text := List.replicate 4301 '0'
    readInt? first = some 0 ∧
      Directive.range.token? [first, ['0']] = some (.range ⟨first, ['0']⟩) ∧
      (Walk.start [.range ⟨first, ['0']⟩] []).Gives ⟨"example.com".toList⟩ [padded] ∧
      readInt? padded = none :=
  zeros_unreadable ⟨"example.com".toList⟩ (by decide) (by decide)

end SelectorScan.Candidate
