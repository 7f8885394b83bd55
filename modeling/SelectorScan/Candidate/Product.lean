import SelectorScan.Candidate.Values

/-!
# All candidates of a rule at once

The candidates of a rule are the product of the values of its tokens: all that is made of one value
of each, the last token's values changing fastest. The product is a plain recursion over the tokens;
a walk gives the same one at a time without ever holding them all.

    (product lists).length = the product of the lengths of the lists    (length_product)
-/

namespace SelectorScan.Candidate

open Rule

/-! ## Algorithm -/

/-- All that is made of one value of each list, those of the last list changing fastest. -/
def product : List (List Points) → List Points
  | [] => [[]]
  | values :: rest => values.flatMap fun v => (product rest).map (v ++ ·)

def valueLists (domain : Domain) (tokens : List Token) :
    Except ExpansionError (List (List Points)) :=
  tokens.mapM fun token => (tokenValues domain token).map Values.toList

/-! ## Lemmas -/

@[simp] theorem product_nil : product [] = [[]] := rfl

theorem product_cons (values : List Points) (rest : List (List Points)) :
    product (values :: rest) = values.flatMap fun v => (product rest).map (v ++ ·) := rfl

/-- Each list multiplies the number of candidates. -/
theorem length_product (lists : List (List Points)) :
    (product lists).length = (lists.map List.length).foldr (· * ·) 1 := by
  induction lists with
  | nil => rfl
  | cons values rest ih =>
    rw [List.map_cons, List.foldr_cons, ← ih, product_cons]
    clear ih
    induction values with
    | nil => simp
    | cons v more ih => simp [ih, Nat.add_mul, Nat.add_comm]

/-- The candidates of two rules written one behind the other are those of the first, each with
those of the second behind it. -/
theorem product_append (front back : List (List Points)) :
    product (front ++ back) = (product front).flatMap fun s => (product back).map (s ++ ·) := by
  induction front with
  | nil => simp
  | cons values rest ih =>
    simp [product_cons, ih, List.flatMap_assoc, List.flatMap_map, List.map_flatMap,
      Function.comp_def]

/-- A list without values leaves no candidates. -/
theorem product_eq_nil_of_mem {lists : List (List Points)} (h : [] ∈ lists) :
    product lists = [] := by
  induction lists with
  | nil => simp at h
  | cons values rest ih =>
    rcases List.mem_cons.1 h with rfl | h
    · rfl
    · simp [product_cons, ih h]

end SelectorScan.Candidate
