import SelectorScan.Proofs.Candidate.Guarded

/-!
# Which labels a token selects

A token for parts of a domain has one value whatever its indexes are (`Selects`), and under guard
none of the labels that it asks for is missing. A pair of indexes from 1 to the number of labels
selects the labels between the two, counted from either end; an index too far out acts as the
nearest one within; and the parts on both sides of a dot make up the whole:

    d.slice 1 k ++ ['.'] ++ d.slice (k + 1) m = d.text                            (Selected.cut)
-/

namespace SelectorScan

/-- Pieces in front are joined to the pieces behind by one separator more. -/
theorem Text.join_append {front back : List Text} (hf : front ≠ []) (hb : back ≠ []) (sep : Text) :
    join sep (front ++ back) = join sep front ++ sep ++ join sep back := by
  induction front with
  | nil => exact absurd rfl hf
  | cons piece front ih =>
    by_cases last : front = []
    · rw [last, List.singleton_append, join_cons hb]
      rfl
    · rw [List.cons_append, join_cons (List.append_ne_nil_of_left_ne_nil last back), ih last,
        join_cons last]
      simp only [List.append_assoc]

namespace Domain

variable {d : Domain} {i j : Int}

/-! ## Slices -/

/-- The labels that the indexes from one up to another select. -/
def run (d : Domain) (first last : Int) : List Text :=
  (positions (position d.labels.length first) (position d.labels.length last)).map d.labelAt

theorem slice_eq_join_run (d : Domain) (i j : Int) : d.slice i j = Text.join ['.'] (d.run i j) := rfl

theorem length_run (d : Domain) (i j : Int) : (d.run i j).length =
    (position d.labels.length j - position d.labels.length i + 1).toNat := by
  rw [run, List.length_map, length_positions]

theorem has_of_lt_length_run {k : Nat} (h : k < (d.run i j).length) :
    d.Has (position d.labels.length i + k) := by
  have low := d.has_position i
  have high := d.has_position j
  rw [length_run] at h
  unfold Has at *
  omega

/-- A run asks for no label that is not there. -/
theorem getElem?_run {k : Nat} (h : k < (d.run i j).length) :
    (d.run i j)[k]? = d.labelAt? (position d.labels.length i + k) := by
  rw [labelAt?_eq_some (has_of_lt_length_run h), List.getElem?_eq_getElem h]
  simp only [run, positions, List.getElem_map, List.getElem_range]

theorem mem_labels_of_mem_run {label : Text} (h : label ∈ d.run i j) : label ∈ d.labels := by
  obtain ⟨p, hp, rfl⟩ := List.mem_map.1 h
  exact labelAt_mem (has_of_mem_positions (d.has_position i) (d.has_position j) hp)

/-- Indexes in order from 1 to the number of labels select the labels between them. -/
theorem run_of_le (low : 1 ≤ i) (le : i ≤ j) (high : j ≤ d.labels.length) :
    d.run i j = (d.labels.drop (i - 1).toNat).take (j - i + 1).toNat := by
  have first : i - 1 = ((i - 1).toNat : Int) := by omega
  have last : j - 1 = ((j - 1).toNat : Int) := by omega
  have count : (j - 1).toNat + 1 - (i - 1).toNat = (j - i + 1).toNat := by omega
  rw [run, position_of_pos low (by omega), position_of_pos (by omega) high, first, last,
    map_labelAt_positions (by omega), count, Int.toNat_natCast]

theorem run_behind (low : 1 ≤ i) (le : i ≤ j) (high : j ≤ d.labels.length) :
    d.run (i - d.labels.length - 1) (j - d.labels.length - 1) = d.run i j := by
  have same : (positions (i - 1 - d.labels.length) (j - 1 - d.labels.length)).map d.labelAt =
      (positions (i - 1) (j - 1)).map d.labelAt :=
    map_labelAt_positions_behind (by omega) (by omega)
  have shift (x : Int) : x - 1 - d.labels.length = x - d.labels.length - 1 := by omega
  rw [shift, shift] at same
  rw [run, run, position_of_neg (by omega) (by omega), position_of_neg (by omega) (by omega),
    position_of_pos low (by omega), position_of_pos (by omega) high]
  exact same

/-- From the first label to an index at or beyond the last one stand all labels. -/
theorem run_one {m : Int} (h : (d.labels.length : Int) ≤ m) : d.run 1 m = d.labels := by
  have filled := d.length_labels_pos
  have whole : d.run 1 d.labels.length = d.labels := by
    rw [run_of_le (Int.le_refl 1) (by omega) (Int.le_refl _)]
    apply List.take_of_length_le
    rw [List.length_drop]
    omega
  rw [run, position_of_ge filled h, ← position_of_ge filled (Int.le_refl _)]
  exact whole

/-- So do they from an index at or before the first label to the last one. -/
theorem run_neg_one {m : Int} (h : (d.labels.length : Int) ≤ m) : d.run (-m) (-1) = d.labels := by
  have filled := d.length_labels_pos
  have whole := run_one (d := d) (Int.le_refl _)
  rw [← run_behind (Int.le_refl 1) (by omega) (Int.le_refl _)] at whole
  have front : position d.labels.length (1 - d.labels.length - 1) = -d.labels.length :=
    position_of_le filled (by omega)
  rw [run, position_of_le filled (by omega), ← front]
  rwa [show (d.labels.length : Int) - d.labels.length - 1 = -1 by omega] at whole

/-- The labels up to one of them, and those behind it, are all labels. -/
theorem run_append_run {k m : Int} (low : 1 ≤ k) (high : k < d.labels.length)
    (h : (d.labels.length : Int) ≤ m) : d.run 1 k ++ d.run (k + 1) m = d.labels := by
  have filled := d.length_labels_pos
  have front : d.run 1 k = d.labels.take k.toNat := by
    rw [run_of_le (Int.le_refl 1) low (by omega)]
    simp
  have back : d.run (k + 1) d.labels.length = d.labels.drop k.toNat := by
    rw [run_of_le (by omega) (by omega) (Int.le_refl _), Int.add_sub_cancel]
    apply List.take_of_length_le
    rw [List.length_drop]
    omega
  rw [run, position_of_ge filled (Int.le_refl _), ← position_of_ge filled h] at back
  rw [front]
  exact (congrArg _ back).trans (List.take_append_drop _ _)

end Domain

namespace Candidate

/-! ## Tokens -/

/-- The token for some indexes has this text for its one value, and no label that it asks for is
missing. -/
def Selects (d : Domain) (indexes : List Int) (t : Text) : Prop :=
  tokenValues d (.domainParts indexes) = .ok (.listed [t]) ∧
    enter d (.domainParts indexes) = .ok (.listed [t])

theorem selects_of_tokenValues {d : Domain} {indexes : List Int} {t : Text}
    (h : tokenValues d (.domainParts indexes) = .ok (.listed [t])) : Selects d indexes t := by
  refine ⟨h, ?_⟩
  rw [enter_eq, h]
  rfl

/-- What the tokens for two indexes, and for one, select. -/
structure Selected (d : Domain) (i j : Int) : Prop where
  /-- Each token has one value, and asks for labels only where the domain has them. -/
  whole : Selects d [] d.text
  one : Selects d [i] (d.label i)
  pair : Selects d [i, j] (d.slice i j)
  /-- An index from 1 to the number of labels selects its label, and counted from behind the same
  one. -/
  label : 1 ≤ i → i ≤ d.labels.length → d.labels[(i - 1).toNat]? = some (d.label i) ∧
    d.label (i - d.labels.length - 1) = d.label i
  /-- Two of them in order select the labels from the one to the other, and counted from behind the
  same ones. -/
  labels : 1 ≤ i → i ≤ j → j ≤ d.labels.length →
    d.slice i j = Text.join ['.'] ((d.labels.drop (i - 1).toNat).take (j - i + 1).toNat) ∧
      d.slice (i - d.labels.length - 1) (j - d.labels.length - 1) = d.slice i j
  /-- An index beyond the last label acts as that of the last label, alone and in either place. -/
  beyond : ∀ m : Int, d.labels.length < m → d.label m = d.label d.labels.length ∧
    d.slice m j = d.slice d.labels.length j ∧ d.slice i m = d.slice i d.labels.length
  /-- An index before the first label acts as that of the first label. -/
  before : ∀ m : Int, m < -d.labels.length → d.label m = d.label (-d.labels.length) ∧
    d.slice m j = d.slice (-d.labels.length) j ∧ d.slice i m = d.slice i (-d.labels.length)
  /-- The labels up to one that is not the last, a dot, and the labels behind it make up the
  domain. -/
  cut : ∀ k m : Int, 1 ≤ k → k < d.labels.length → d.labels.length ≤ m →
    d.slice 1 k ++ ['.'] ++ d.slice (k + 1) m = d.text
  /-- From the first label to the last one stands the whole domain. -/
  ends : ∀ m : Int, d.labels.length ≤ m → d.slice 1 m = d.text ∧ d.slice (-m) (-1) = d.text
  /-- A pair gives as many labels as there are positions from the one up to the other, each the one
  that stands there; if there are any, they are the labels of the text that they make up. -/
  count : ∃ parts : List Text, d.slice i j = Text.join ['.'] parts ∧
    (parts.length : Int) = max 0 (Domain.position d.labels.length j -
      Domain.position d.labels.length i + 1) ∧
    (∀ k < parts.length,
      parts[k]? = d.labelAt? (Domain.position d.labels.length i + (k : Nat))) ∧
    (parts ≠ [] → Text.split '.' (d.slice i j) = parts)

open Domain in
/-- Whatever the indexes are, the tokens of a domain select its labels as they should. -/
theorem parts_selected (d : Domain) (i j : Int) : Selected d i j where
  whole := selects_of_tokenValues rfl
  one := selects_of_tokenValues rfl
  pair := selects_of_tokenValues rfl
  label := by
    intro low high
    have inside : (i - 1).toNat < d.labels.length := by omega
    have here : i - 1 = ((i - 1).toNat : Int) := by omega
    constructor
    · rw [Domain.label, position_of_pos low high, List.getElem?_eq_getElem inside,
        ← labelAt_of_lt inside, ← here]
    · rw [Domain.label, Domain.label, position_of_neg (by omega) (by omega),
        position_of_pos low high, ← labelAt_behind (p := i - 1) (by omega) (by omega)]
      congr 1
      omega
  labels := by
    intro low le high
    constructor
    · rw [slice_eq_join_run, run_of_le low le high]
    · rw [slice_eq_join_run, run_behind low le high]
      rfl
  beyond := by
    intro m h
    have filled := d.length_labels_pos
    have same : position d.labels.length m = position d.labels.length d.labels.length := by
      rw [position_of_ge filled (Int.le_of_lt h), position_of_ge filled (Int.le_refl _)]
    simp only [Domain.label, slice, same, and_self]
  before := by
    intro m h
    have filled := d.length_labels_pos
    have same : position d.labels.length m = position d.labels.length (-d.labels.length) := by
      rw [position_of_le filled (Int.le_of_lt h), position_of_le filled (Int.le_refl _)]
    simp only [Domain.label, slice, same, and_self]
  cut := by
    intro k m low high h
    have both := run_append_run low high h
    have front : d.run 1 k ≠ [] := by
      rw [← List.length_pos_iff, run_of_le (Int.le_refl 1) low (by omega)]
      simp
      omega
    have back : d.run (k + 1) m ≠ [] := by
      intro none
      rw [none, List.append_nil, run_of_le (Int.le_refl 1) low (by omega)] at both
      have size := congrArg List.length both
      simp at size
      omega
    rw [slice_eq_join_run, slice_eq_join_run, ← Text.join_append front back, both]
    exact Text.join_split '.' d.text
  ends := by
    intro m h
    constructor
    · rw [slice_eq_join_run, run_one h]
      exact Text.join_split '.' d.text
    · rw [slice_eq_join_run, run_neg_one h]
      exact Text.join_split '.' d.text
  count := by
    refine ⟨d.run i j, rfl, ?_, fun k hk => getElem?_run hk, ?_⟩
    · rw [length_run]
      omega
    · intro filled
      rw [Text.split_eq_iff]
      refine ⟨filled, ?_, rfl⟩
      intro label h
      exact Text.not_mem_of_mem_split (mem_labels_of_mem_run h)

/-- Of three labels: the last two from either end, all of them by an index too far out, the whole
from two parts, and a pair that runs over the right end to the left one. -/
theorem parts_selected_three :
    let d : Domain := ⟨"a.b.c".toList⟩
    d.labels.length = 3 ∧ Selects d [2, 3] "b.c".toList ∧ d.slice (-2) (-1) = d.slice 2 3 ∧
      d.slice (-9) (-1) = d.text ∧ d.slice 1 1 ++ ['.'] ++ d.slice 2 7 = d.text ∧
      Selects d [-1, 1] "c.a".toList := by
  intro d
  have inside := parts_selected d 2 3
  have across := parts_selected d (-1) 1
  refine ⟨by decide, ?_, ?_, ?_, ?_, ?_⟩
  · have text : d.slice 2 3 = "b.c".toList := by decide
    exact text ▸ inside.pair
  · exact (inside.labels (by decide) (by decide) (by decide)).2
  · exact (inside.ends 9 (by decide)).2
  · exact inside.cut 1 7 (by decide) (by decide) (by decide)
  · have text : d.slice (-1) 1 = "c.a".toList := by decide
    exact text ▸ across.pair

end Candidate

end SelectorScan
