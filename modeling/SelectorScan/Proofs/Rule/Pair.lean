import SelectorScan.Rule.Compile

/-!
# Pairs of percent signs

The percent signs of a text pair up from the left, so two of them make a pair when an even number
stands before and none between them. What the pairs of a text are can be told part by part:

    IsPair (t ++ s) … ↔ the pairs of s behind t                             (isPair_append)
    IsPair (enclose body ++ s) … ↔ this pair, or one of s behind it         (isPair_enclose)
-/

namespace SelectorScan.Rule

/-- The text holds a pair of percent signs around `body`. -/
structure IsPair (s before body after : Text) : Prop where
  text : s = before ++ enclose body ++ after
  inside : '%' ∉ body
  paired : before.count '%' % 2 = 0

variable {s before body after : Text}

/-- Cutting two texts at a separator that stands only once in front of the first cut. -/
theorem append_sep_cases {sep : Char} {a b s t : Text} (h : sep ∉ a)
    (e : a ++ sep :: s = b ++ sep :: t) :
    (b = a ∧ t = s) ∨ ∃ b', b = a ++ sep :: b' ∧ s = b' ++ sep :: t := by
  rcases List.append_eq_append_iff.1 e with ⟨c, rfl, hc⟩ | ⟨c, rfl, hc⟩
  · rcases List.cons_eq_append_iff.1 hc with ⟨rfl, ht⟩ | ⟨b', rfl, hs⟩
    · cases ht
      exact .inl ⟨List.append_nil a, rfl⟩
    · exact .inr ⟨b', rfl, hs⟩
  · rcases List.cons_eq_append_iff.1 hc with ⟨rfl, ht⟩ | ⟨c', rfl, -⟩
    · cases ht
      exact .inl ⟨(List.append_nil b).symm, rfl⟩
    · exact absurd (List.mem_append_right b List.mem_cons_self) h

/-- A text without two percent signs has no pair. -/
theorem not_isPair (few : s.count '%' ≤ 1) : ¬IsPair s before body after := by
  intro h
  have many := congrArg (List.count '%') h.text
  simp only [enclose, List.count_append, List.count_cons_self, List.cons_append] at many
  omega

/-- Text without percent signs moves the pairs behind it. -/
theorem isPair_append {t : Text} (free : '%' ∉ t) :
    IsPair (t ++ s) before body after ↔
      ∃ before', before = t ++ before' ∧ IsPair s before' body after := by
  have none : t.count '%' = 0 := List.count_eq_zero.2 free
  constructor
  · rintro ⟨text, inside, paired⟩
    rw [List.append_assoc] at text
    rcases List.append_eq_append_iff.1 text with ⟨before', rfl, hs⟩ | ⟨c, rfl, hs⟩
    · refine ⟨before', rfl, by rw [hs, List.append_assoc], inside, ?_⟩
      rw [List.count_append, none, Nat.zero_add] at paired
      exact paired
    · -- the first sign of the pair does not stand in `t`
      rcases List.cons_eq_append_iff.1 hs with ⟨rfl, hs⟩ | ⟨c', rfl, -⟩
      · exact ⟨[], by rw [List.append_nil, List.append_nil], hs.symm, inside, Nat.zero_mod 2⟩
      · exact absurd (List.mem_append_right before List.mem_cons_self) free
  · rintro ⟨before', rfl, text, inside, paired⟩
    refine ⟨by rw [text]; simp only [List.append_assoc], inside, ?_⟩
    rw [List.count_append, none, Nat.zero_add]
    exact paired

/-- A pair in front is the first one and moves all others behind it. -/
theorem isPair_enclose {t : Text} (free : '%' ∉ t) :
    IsPair (enclose t ++ s) before body after ↔
      (before = [] ∧ body = t ∧ after = s) ∨
        ∃ before', before = enclose t ++ before' ∧ IsPair s before' body after := by
  have none : t.count '%' = 0 := List.count_eq_zero.2 free
  have two (b : Text) : (enclose t ++ b).count '%' = 2 + b.count '%' := by
    simp only [enclose, List.count_append, List.cons_append, List.count_cons_self, none,
      List.count_nil]
    omega
  constructor
  · rintro ⟨text, inside, paired⟩
    have text' : '%' :: (t ++ '%' :: s) = before ++ '%' :: (body ++ '%' :: after) := by
      simpa [enclose] using text
    cases before with
    | nil =>
      rcases append_sep_cases free (List.cons.inj text').2 with ⟨rfl, rfl⟩ | ⟨b, rfl, -⟩
      · exact .inl ⟨rfl, rfl, rfl⟩
      · exact absurd (List.mem_append_right t List.mem_cons_self) inside
    | cons c rest =>
      obtain ⟨rfl, text''⟩ := List.cons.inj text'
      rcases append_sep_cases free text'' with ⟨rfl, -⟩ | ⟨before', rfl, hs⟩
      · -- one sign alone stands in front
        rw [List.count_cons_self, none] at paired
        exact absurd paired (by decide)
      · have front : '%' :: (t ++ '%' :: before') = enclose t ++ before' := by simp [enclose]
        refine .inr ⟨before', front, by simpa [enclose] using hs, inside, ?_⟩
        rw [front, two] at paired
        omega
  · rintro (⟨rfl, rfl, rfl⟩ | ⟨before', rfl, text, inside, paired⟩)
    · exact ⟨rfl, free, Nat.zero_mod 2⟩
    · refine ⟨by rw [text]; simp only [List.append_assoc], inside, ?_⟩
      rw [two]
      omega

end SelectorScan.Rule
