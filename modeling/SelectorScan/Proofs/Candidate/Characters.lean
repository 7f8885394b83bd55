import SelectorScan.Proofs.Candidate.Stream
import SelectorScan.Proofs.Number.Integer

/-!
# The characters of candidates

Whatever a candidate is made of stands in its rule or in the domain, but for what tokens write
themselves: digits, minus signs, dots, and letters of ranges. All of these come from the minus sign
on, so a character below it is not made up; a line feed in particular is not.

    '\n' ∉ domain.text → x ∈ (ofRules domain lines).1 → .char '\n' ∉ x     (noFeed_of_mem_ofRules)
-/

namespace SelectorScan.Candidate

open Rule

variable {domain : Domain} {c : Char}

/-- A code point of a product stands in one of the values that it is made of. -/
theorem mem_product {lists : List (List Points)} {x : Points} {p : Point} (hx : x ∈ product lists)
    (hc : p ∈ x) : ∃ values ∈ lists, ∃ v ∈ values, p ∈ v := by
  induction lists generalizing x with
  | nil =>
    obtain rfl := List.mem_singleton.1 hx
    cases hc
  | cons values lists ih =>
    obtain ⟨v, hv, hx⟩ := List.mem_flatMap.1 hx
    obtain ⟨y, hy, rfl⟩ := List.mem_map.1 hx
    rcases List.mem_append.1 hc with hc | hc
    · exact ⟨values, List.mem_cons_self, v, hv, hc⟩
    · obtain ⟨values', ht, v', hv', hc⟩ := ih hy hc
      exact ⟨values', List.mem_cons_of_mem _ ht, v', hv', hc⟩

/-! ## What tokens write -/

/-- Letters are not below the capital A. -/
theorem le_of_isLetter (h : Text.isLetter c = true) : 0x41 ≤ c.toNat := by
  obtain ⟨r, hr, inside⟩ := List.any_eq_true.1 h
  have bound : ∀ r ∈ Text.letterRanges, 0x41 ≤ r.1 := by decide +kernel
  simp only [Bool.and_eq_true, decide_eq_true_eq] at inside
  exact Nat.le_trans (bound r hr) inside.1

theorem le_of_eq_ofCode {code : Nat} (h : .char c = Point.ofCode code) (low : 0x41 ≤ code)
    (high : code ≤ 0x10FFFF) : '-' ≤ c := by
  have value : c.toNat = code := by
    rw [← Point.code_ofCode high, ← h]
    rfl
  show (0x2D : Nat) ≤ c.toNat
  omega

theorem le_of_mem_writeInt {width : Nat} {i : Int} (h : c ∈ Number.writeInt width i) : '-' ≤ c := by
  have digits {width n : Nat} (h : c ∈ Text.padZeros width (Text.ofNat n)) : '-' ≤ c := by
    rcases List.mem_append.1 h with h | h
    · rw [List.eq_of_mem_replicate h]
      decide
    · have := (Number.isDigit_bounds (Number.isDigit_of_mem_ofNat h)).1
      show (0x2D : Nat) ≤ c.toNat
      omega
  unfold Number.writeInt at h
  split at h
  · rcases List.mem_cons.1 h with rfl | h
    · exact Char.le_refl _
    · exact digits h
  · exact digits h

/-- The values of a range are letters, or integers. -/
theorem le_of_mem_rangeValues {r : Range} {values : Values} (h : rangeValues r = .ok values)
    {v : Points} (hv : v ∈ values.toList) (hc : .char c ∈ v) : '-' ≤ c := by
  obtain ⟨first, last⟩ := r
  cases letters : (⟨first, last⟩ : Range).isLetters with
  | true =>
    obtain ⟨a, b, rfl, rfl, ha, -⟩ := isLetters_iff.1 letters
    rw [rangeValues, letters] at h
    cases h
    obtain ⟨k, hk, rfl⟩ := List.mem_map.1 hv
    have first := le_of_isLetter ha
    have last := Point.toNat_le b
    rw [List.mem_range] at hk
    exact le_of_eq_ofCode (List.mem_singleton.1 hc) (by omega) (by omega)
  | false =>
    simp only [rangeValues, letters] at h
    cases hf : rangeEnd first with
    | error e => rw [hf] at h; cases h
    | ok i =>
      cases hl : rangeEnd last with
      | error e => rw [hf, hl] at h; cases h
      | ok j =>
        rw [hf, hl] at h
        cases h
        obtain ⟨k, -, rfl⟩ := List.mem_map.1 hv
        exact le_of_mem_writeInt (Points.mem_ofText.1 hc)

/-- A character of a label stands in the domain. -/
theorem mem_of_mem_labelAt {p : Int} (h : c ∈ domain.labelAt p) : c ∈ domain.text := by
  unfold Domain.labelAt at h
  rw [List.getD_eq_getElem?_getD] at h
  cases hl : domain.labels[(if p < 0 then p + domain.labels.length else p).toNat]? with
  | none =>
    rw [hl] at h
    cases h
  | some label =>
    rw [hl] at h
    rw [← Text.join_split '.' domain.text]
    exact Text.mem_join_of_mem (List.mem_of_getElem? hl) _ h

theorem mem_of_mem_slice {first last : Int} (h : c ∈ domain.slice first last) :
    c = '.' ∨ c ∈ domain.text := by
  rcases Text.mem_join h with h | ⟨label, hl, h⟩
  · exact .inl (List.mem_singleton.1 h)
  · obtain ⟨p, -, rfl⟩ := List.mem_map.1 hl
    exact .inr (mem_of_mem_labelAt h)

/-! ## Tokens and rules -/

/-- A character below the minus sign in a value of a token stands in what the token is read from or
in the domain. -/
theorem mem_of_mem_valuesOf {token : Token} {t : Text} (h : token.ReadFrom t) {v : Points}
    (hv : v ∈ valuesOf domain token) (hc : .char c ∈ v) (low : c < '-') :
    c ∈ t ∨ c ∈ domain.text := by
  have high : ¬ '-' ≤ c := Char.not_le.2 low
  cases h with
  | literal =>
    obtain rfl := List.mem_singleton.1 hv
    exact .inl (Points.mem_ofText.1 hc)
  | @directive d body _ built =>
    -- an argument of a directive stands in its body
    have argument {a : Text} (ha : a ∈ arguments body) (hc : c ∈ a) :
        c ∈ enclose (d.letter :: body) := by
      have inside := Text.mem_join_of_mem ha [','] hc
      rw [(arguments_eq_iff.1 rfl).1] at inside
      simp [enclose, inside]
    cases d with
    | range =>
      obtain ⟨first, last, -, rfl, sound⟩ := token?_range_iff.1 built
      obtain ⟨values, ht⟩ := exists_rangeValues sound
      rw [valuesOf, tokenValues, ht] at hv
      exact absurd (le_of_mem_rangeValues ht hv hc) high
    | domainParts =>
      obtain ⟨indexes, -, rfl, -⟩ := token?_domainParts_iff.1 built
      right
      rcases indexes with - | ⟨i, - | ⟨j, - | ⟨k, rest⟩⟩⟩
      · obtain rfl := List.mem_singleton.1 hv
        exact Points.mem_ofText.1 hc
      · obtain rfl := List.mem_singleton.1 hv
        exact mem_of_mem_labelAt (Points.mem_ofText.1 hc)
      · obtain rfl := List.mem_singleton.1 hv
        rcases mem_of_mem_slice (Points.mem_ofText.1 hc) with rfl | hc
        · exact absurd (by decide) high
        · exact hc
      · cases hv
    | items =>
      cases built
      obtain ⟨a, ha, rfl⟩ := List.mem_map.1 hv
      exact .inl (argument ha (Points.mem_ofText.1 hc))
    | optional =>
      obtain ⟨suffix, one, rfl⟩ := token?_optional_iff.1 built
      rcases List.mem_cons.1 hv with rfl | hv
      · cases hc
      · obtain rfl := List.mem_singleton.1 hv
        have whole : suffix ∈ arguments body := by
          rw [one]
          exact List.mem_singleton_self _
        exact .inl (argument whole (Points.mem_ofText.1 hc))

/-- A character below the minus sign in a candidate stands in the rule or in the domain. -/
theorem mem_of_mem_candidates {line : Text} {tokens : List Token} (h : compile line = .ok tokens)
    {x : Points} (hx : x ∈ candidates domain tokens) (hc : .char c ∈ x) (low : c < '-') :
    c ∈ Text.squeeze line ∨ c ∈ domain.text := by
  obtain ⟨parts, rfl, parsed⟩ := exists_parsing (segments_split_squeeze line) h
  have whole : parts.text = Text.squeeze line := parsed.text.trans (Text.join_split '%' _)
  obtain ⟨values, ht, v, hv, hc⟩ := mem_product hx hc
  obtain ⟨token, hm, rfl⟩ := List.mem_map.1 ht
  obtain ⟨part, hp, rfl⟩ := List.mem_map.1 hm
  rcases mem_of_mem_valuesOf (parsed.read part hp) hv hc low with hc | hc
  · left
    rw [← whole]
    exact List.mem_flatMap.2 ⟨part, hp, hc⟩
  · exact .inr hc

/-- Rules have no line feeds, as their blanks are taken out. -/
theorem noFeed_of_mem_ofRules (clean : '\n' ∉ domain.text) {lines : List Text} {x : Points}
    (hx : x ∈ (ofRules domain lines).1) : .char '\n' ∉ x := by
  obtain ⟨line, -, tokens, h, hx⟩ := exists_of_mem_ofRules hx
  intro feed
  rcases mem_of_mem_candidates h hx feed (by decide) with hc | hc
  · exact absurd (Text.not_isBlank_of_mem_squeeze hc) (by decide)
  · exact clean hc

end SelectorScan.Candidate
