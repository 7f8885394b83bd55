import SelectorScan.Domain

/-!
# The labels that a domain has

A domain of `n` labels has them at the positions from `-n` to `n - 1`, each label at two of them. An
index always stands for one of these positions, so that no label is asked for that is not there:

    d.labelAt? (position d.labels.length index) = some (d.label index)        (labelAt?_position)

Positions that run through labels from the left give a slice of the labels (`map_labelAt_positions`),
and the same labels when they are counted from behind (`map_labelAt_positions_behind`).
-/

namespace SelectorScan.Domain

variable {d : Domain} {p : Int}

/-- The domain has a label at a position. -/
def Has (d : Domain) (p : Int) : Prop :=
  -(d.labels.length : Int) ≤ p ∧ p < d.labels.length

theorem length_labels_pos (d : Domain) : 0 < d.labels.length :=
  List.length_pos_iff.2 d.labels_ne_nil

/-- An index stands for a position that the domain has. -/
theorem has_position (d : Domain) (index : Int) : d.Has (position d.labels.length index) := by
  have filled := d.length_labels_pos
  unfold Has position
  split <;> omega

theorem mem_positions {first last : Int} : p ∈ positions first last ↔ first ≤ p ∧ p ≤ last := by
  unfold positions
  rw [List.mem_map]
  constructor
  · rintro ⟨k, hk, rfl⟩
    rw [List.mem_range] at hk
    omega
  · rintro ⟨low, high⟩
    exact ⟨(p - first).toNat, by rw [List.mem_range]; omega, by omega⟩

/-- Between two positions that the domain has it has every position. -/
theorem has_of_mem_positions {first last : Int} (low : d.Has first) (high : d.Has last)
    (h : p ∈ positions first last) : d.Has p := by
  rw [mem_positions] at h
  unfold Has at *
  omega

/-- Where the domain has a label, it is the one that is taken. -/
theorem labelAt?_eq_some (h : d.Has p) : d.labelAt? p = some (d.labelAt p) := by
  unfold Has at h
  unfold labelAt? labelAt
  generalize hi : (if p < 0 then p + (d.labels.length : Int) else p) = i
  have inside : 0 ≤ i ∧ i.toNat < d.labels.length := by
    split at hi <;> omega
  simp only
  rw [if_neg (by omega), List.getD_eq_getElem?_getD, List.getElem?_eq_getElem inside.2]
  rfl

theorem labelAt?_position (d : Domain) (index : Int) :
    d.labelAt? (position d.labels.length index) = some (d.label index) :=
  labelAt?_eq_some (d.has_position index)

/-! ## Positions of indexes -/

section Position

variable {count : Nat} {index : Int}

theorem position_of_pos (low : 1 ≤ index) (high : index ≤ count) :
    position count index = index - 1 := by
  unfold position
  split <;> omega

theorem position_of_neg (low : -(count : Int) ≤ index) (high : index ≤ -1) :
    position count index = index := by
  unfold position
  split <;> omega

/-- An index beyond the last label stands for the last label. -/
theorem position_of_ge (filled : 0 < count) (h : (count : Int) ≤ index) :
    position count index = count - 1 := by
  unfold position
  split <;> omega

/-- An index before the first label stands for the first label. -/
theorem position_of_le (filled : 0 < count) (h : index ≤ -(count : Int)) :
    position count index = -count := by
  unfold position
  split <;> omega

end Position

/-! ## Labels at positions -/

theorem labelAt_of_lt {k : Nat} (h : k < d.labels.length) : d.labelAt k = d.labels[k] := by
  unfold labelAt
  simp only
  rw [if_neg (by omega), Int.toNat_natCast, List.getD_eq_getElem?_getD, List.getElem?_eq_getElem h]
  rfl

/-- Each label stands at two positions. -/
theorem labelAt_behind (low : 0 ≤ p) (high : p < d.labels.length) :
    d.labelAt (p - d.labels.length) = d.labelAt p := by
  unfold labelAt
  simp only
  rw [if_pos (by omega), if_neg (by omega), Int.sub_add_cancel]

/-- The label at a position is one of the domain's. -/
theorem labelAt_mem (h : d.Has p) : d.labelAt p ∈ d.labels := by
  obtain ⟨low, high⟩ := h
  have fromLeft : ∀ q : Int, 0 ≤ q → q < d.labels.length → d.labelAt q ∈ d.labels := by
    intro q hq hl
    rw [← Int.toNat_of_nonneg hq, labelAt_of_lt (by omega)]
    exact List.getElem_mem _
  by_cases negative : p < 0
  · rw [← Int.add_sub_cancel p d.labels.length, labelAt_behind (by omega) (by omega)]
    exact fromLeft _ (by omega) (by omega)
  · exact fromLeft p (by omega) high

theorem length_positions (first last : Int) :
    (positions first last).length = (last - first + 1).toNat := by
  rw [positions, List.length_map, List.length_range]

theorem positions_sub (first last c : Int) :
    positions (first - c) (last - c) = (positions first last).map (· - c) := by
  have count : last - c - (first - c) + 1 = last - first + 1 := by omega
  unfold positions
  rw [List.map_map, count]
  apply List.map_congr_left
  intro k _
  show first - c + k = first + k - c
  omega

/-- The labels from one position up to another are those labels in order. -/
theorem map_labelAt_positions {a b : Nat} (h : b < d.labels.length) :
    (positions a b).map d.labelAt = (d.labels.drop a).take (b + 1 - a) := by
  apply List.ext_getElem
  · rw [List.length_map, length_positions, List.length_take, List.length_drop]
    omega
  · intro k hk hk'
    rw [List.length_map, length_positions] at hk
    have inside : a + k < d.labels.length := by omega
    simp only [positions, List.getElem_map, List.getElem_range, List.getElem_take,
      List.getElem_drop]
    rw [← labelAt_of_lt inside, Int.natCast_add]

/-- Counted from behind they are the same labels. -/
theorem map_labelAt_positions_behind {first last : Int} (low : 0 ≤ first)
    (high : last < d.labels.length) :
    (positions (first - d.labels.length) (last - d.labels.length)).map d.labelAt =
      (positions first last).map d.labelAt := by
  rw [positions_sub, List.map_map]
  apply List.map_congr_left
  intro p hp
  rw [mem_positions] at hp
  exact labelAt_behind (by omega) (by omega)

end SelectorScan.Domain
