import SelectorScan.Json

/-!
# Equality of JSON values

Two values are the same as data in one of a few ways: as whole numbers, or as two values of one
kind (`Same`). So what is the same as a value that is the same as a third one is the same as the
third one, whatever the members of the objects in them are:

    same x y = true → same y z = true → same x z = true                             (same_trans)
-/

namespace SelectorScan.Json

variable {γ : Type} [DecidableEq γ]

/-! ## Ways to be the same -/

/-- The ways in which two values are the same. -/
inductive Same : Json γ → Json γ → Prop where
  | whole {x y : Json γ} {i : Int} (left : x.whole? = some i) (right : y.whole? = some i) : Same x y
  | null : Same null null
  | real {a : Number.Binary64} (fraction : a.toInt? = none) : Same (real a) (real a)
  | text {t : List γ} : Same (text t) (text t)
  | list {xs ys : List (Json γ)} (values : sameList xs ys = true) : Same (list xs) (list ys)
  | object {xs ys : List (List γ × Json γ)} (count : xs.length = ys.length)
      (members : sameMembers xs ys = true) : Same (object xs) (object ys)

variable {x y z : Json γ}

theorem ways_of_same (h : same x y = true) : Same x y := by
  unfold same at h
  split at h
  · exact .null
  · obtain rfl := eq_of_beq h
    exact .text
  · exact .list h
  · rw [Bool.and_eq_true] at h
    exact .object (eq_of_beq h.1) h.2
  · next a b =>
    split at h
    · next i j ha hb =>
      obtain rfl := eq_of_beq h
      exact .whole ha hb
    · next other =>
      obtain rfl := eq_of_beq h
      cases ha : a.toInt? with
      | none => exact .real ha
      | some i => exact (other i i ha ha).elim
  · split at h
    · next i j hx hy =>
      obtain rfl := eq_of_beq h
      exact .whole hx hy
    · cases h

theorem same_of_whole {i : Int} (left : x.whole? = some i) (right : y.whole? = some i) :
    same x y = true := by
  cases x <;> cases y <;> simp_all [same, whole?]

/-- Only whole numbers are the same as a whole number. -/
theorem Same.whole?_eq (h : Same x y) : x.whole? = y.whole? := by
  cases h with
  | whole left right => rw [left, right]
  | _ => rfl

/-! ## Transitivity -/

/-- Every name that an object has is a name of an object that is the same. -/
theorem lookup_of_sameMembers {xs ys : List (List γ × Json γ)} (h : sameMembers xs ys = true)
    {name : List γ} {x : Json γ} (hx : (name, x) ∈ xs) :
    ∃ y, ys.lookup name = some y ∧ same x y = true := by
  induction xs with
  | nil => cases hx
  | cons member xs ih =>
    obtain ⟨name', x'⟩ := member
    rw [sameMembers, Bool.and_eq_true] at h
    rcases List.mem_cons.1 hx with e | hx
    · cases e
      cases hy : ys.lookup name with
      | none => simp [hy] at h
      | some y => exact ⟨y, rfl, by simpa [hy] using h.1⟩
    · exact ih h.2 hx

theorem mem_of_lookup {name : List γ} {members : List (List γ × Json γ)}
    (h : members.lookup name = some x) : (name, x) ∈ members := by
  obtain ⟨before, after, rfl, -⟩ := List.lookup_eq_some_iff.1 h
  simp

mutual

theorem same_trans {x y z : Json γ} (h : same x y = true) (h' : same y z = true) :
    same x z = true := by
  have left := ways_of_same h
  have right := ways_of_same h'
  cases left with
  | whole hx hy => exact same_of_whole hx (right.whole?_eq ▸ hy)
  | null => exact h'
  | real => exact h'
  | text => exact h'
  | list values =>
    cases right with
    | whole hy => cases hy
    | list values' =>
      rw [same]
      exact sameList_trans values values'
  | object count members =>
    cases right with
    | whole hy => cases hy
    | object count' members' =>
      rw [same, Bool.and_eq_true, beq_iff_eq]
      exact ⟨count.trans count', sameMembers_trans members members'⟩
termination_by sizeOf x

theorem sameList_trans {xs ys zs : List (Json γ)} (h : sameList xs ys = true)
    (h' : sameList ys zs = true) : sameList xs zs = true := by
  cases xs with
  | nil =>
    cases ys with
    | nil => exact h'
    | cons y ys => cases h
  | cons x xs =>
    cases ys with
    | nil => cases h
    | cons y ys =>
      cases zs with
      | nil => cases h'
      | cons z zs =>
        rw [sameList, Bool.and_eq_true] at h h' ⊢
        exact ⟨same_trans h.1 h'.1, sameList_trans h.2 h'.2⟩
termination_by sizeOf xs

theorem sameMembers_trans {xs ys zs : List (List γ × Json γ)} (h : sameMembers xs ys = true)
    (h' : sameMembers ys zs = true) : sameMembers xs zs = true := by
  match xs with
  | [] => rw [sameMembers]
  | (name, x) :: xs =>
    obtain ⟨y, hy, first⟩ := lookup_of_sameMembers h List.mem_cons_self
    obtain ⟨z, hz, second⟩ := lookup_of_sameMembers h' (mem_of_lookup hy)
    rw [sameMembers, Bool.and_eq_true] at h ⊢
    rw [hz]
    exact ⟨same_trans first second, sameMembers_trans h.2 h'⟩
termination_by sizeOf xs

end

end SelectorScan.Json
