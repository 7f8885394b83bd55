import Mathlib.Algebra.BigOperators.Group.List.Basic
import SelectorScan.Candidate.Product
import SelectorScan.Candidate.Walk

/-!
# The walk visits the nested product

The candidates of a rule are said by plain recursion: for each value of the first token, all
continuations of the text so far with that value behind it (`expansions`). A walk has some of them
still before it (`Walk.ahead`), level by level from the innermost, and its next candidate is the
first of these (`Walk.next?_cases`). So it gives all of them in order and ends:

    valueLists domain tokens = .ok lists →
      (Walk.start tokens front).Gives domain (expansions front lists)          (gives_expansions)

A candidate can also be told by its number, whose digits in the mixed radix of the value counts
select the values: the last token has the least significant digit (`expansions_getElem?`).
-/

namespace SelectorScan.Candidate

open Rule

variable {domain : Domain}

/-! ## Plain recursion -/

/-- The continuations of a text by one value of each list. -/
def expansions (front : Points) : List (List Points) → List Points
  | [] => [front]
  | values :: rest => values.flatMap fun v => expansions (front ++ v) rest

/-- Continuing a text is putting it in front of every product. -/
theorem expansions_eq_map_product (front : Points) (lists : List (List Points)) :
    expansions front lists = (product lists).map (front ++ ·) := by
  induction lists generalizing front with
  | nil => simp [expansions]
  | cons values rest ih =>
    simp only [expansions, product_cons, List.map_flatMap, List.map_map, ih]
    congr 1
    funext v
    apply List.map_congr_left
    intro t _
    exact List.append_assoc front v t

theorem length_expansions (front : Points) (lists : List (List Points)) :
    (expansions front lists).length = (lists.map List.length).prod := by
  rw [expansions_eq_map_product, List.length_map, length_product]
  rfl

/-! ## Numbers of candidates -/

/-- The digits of a number, the most significant first, when each digit counts as many as there are
choices of digits behind it. -/
def digits : List Nat → Nat → List Nat
  | [], _ => []
  | _ :: radices, i => i / radices.prod :: digits radices (i % radices.prod)

def ofDigits : List Nat → List Nat → Nat
  | _ :: radices, d :: ds => d * radices.prod + ofDigits radices ds
  | _, _ => 0

theorem lt_prod_tail {r i : Nat} {radices : List Nat} (h : i < (r :: radices).prod) :
    i / radices.prod < r ∧ i % radices.prod < radices.prod := by
  rw [List.prod_cons] at h
  have pos : 0 < radices.prod := by
    rcases Nat.eq_zero_or_pos radices.prod with h0 | hp
    · rw [h0] at h
      omega
    · exact hp
  exact ⟨(Nat.div_lt_iff_lt_mul pos).2 h, Nat.mod_lt i pos⟩

theorem forall₂_digits_lt {radices : List Nat} {i : Nat} (h : i < radices.prod) :
    List.Forall₂ (· < ·) (digits radices i) radices := by
  induction radices generalizing i with
  | nil => exact .nil
  | cons r radices ih =>
    obtain ⟨head, tail⟩ := lt_prod_tail h
    exact .cons head (ih tail)

theorem ofDigits_digits {radices : List Nat} {i : Nat} (h : i < radices.prod) :
    ofDigits radices (digits radices i) = i := by
  induction radices generalizing i with
  | nil =>
    have : i = 0 := by simpa using h
    rw [this]
    rfl
  | cons r radices ih =>
    rw [digits, ofDigits, ih (lt_prod_tail h).2, Nat.mul_comm]
    exact Nat.div_add_mod i radices.prod

/-- In lists of one length behind each other, a number's quotient tells the list and its remainder
the place in it. -/
theorem getElem?_flatMap_of_length {α β : Type} {n : Nat} {f : α → List β} {l : List α}
    (hf : ∀ a ∈ l, (f a).length = n) {i : Nat} (hi : i < l.length * n) :
    (l.flatMap f)[i]? = l[i / n]?.bind fun a => (f a)[i % n]? := by
  induction l generalizing i with
  | nil => simp at hi
  | cons a l ih =>
    have ha : (f a).length = n := hf a List.mem_cons_self
    rw [List.flatMap_cons]
    by_cases h : i < n
    · rw [List.getElem?_append_left (by omega), Nat.div_eq_of_lt h, Nat.mod_eq_of_lt h]
      rfl
    · have hn : 0 < n := by
        rcases Nat.eq_zero_or_pos n with h0 | hp
        · rw [h0] at hi
          omega
        · exact hp
      have hlen : i - n < l.length * n := by
        rw [List.length_cons, Nat.succ_mul] at hi
        omega
      have hdiv : i / n = (i - n) / n + 1 := Nat.div_eq_sub_div hn (by omega)
      have hmod : i % n = (i - n) % n := Nat.mod_eq_sub_mod (by omega)
      rw [List.getElem?_append_right (by omega), ha, hdiv, hmod, List.getElem?_cons_succ]
      exact ih (fun b hb => hf b (List.mem_cons_of_mem _ hb)) hlen

/-- The values that digits select, one from each list. -/
def selected (lists : List (List Points)) (ds : List Nat) : List (Option Points) :=
  List.zipWith (fun (values : List Points) d => values[d]?) lists ds

/-- A candidate is made of the values that the digits of its number select. -/
theorem expansions_getElem? (front : Points) {lists : List (List Points)} {i : Nat}
    (h : i < (lists.map List.length).prod) :
    ∃ parts : List Points, selected lists (digits (lists.map List.length) i) = parts.map some ∧
      (expansions front lists)[i]? = some (front ++ parts.flatten) := by
  induction lists generalizing front i with
  | nil =>
    have : i = 0 := by simpa using h
    refine ⟨[], rfl, ?_⟩
    rw [this]
    simp [expansions]
  | cons values rest ih =>
    rw [List.map_cons] at h
    obtain ⟨head, tail⟩ := lt_prod_tail h
    have hv : values[i / (rest.map List.length).prod]? =
        some values[i / (rest.map List.length).prod] := List.getElem?_eq_getElem head
    generalize values[i / (rest.map List.length).prod] = v at hv
    obtain ⟨parts, picked, found⟩ := ih (front ++ v) tail
    refine ⟨v :: parts, ?_, ?_⟩
    · rw [List.map_cons, digits, selected, List.zipWith_cons_cons, hv, List.map_cons, ← picked]
      rfl
    · have hlen : ∀ a ∈ values, (expansions (front ++ a) rest).length =
          (rest.map List.length).prod := fun a _ => length_expansions _ _
      rw [List.prod_cons] at h
      rw [expansions, getElem?_flatMap_of_length hlen h, hv, Option.bind_some, found,
        List.flatten_cons, List.append_assoc]

/-! ## What a walk has before it -/

/-- The parts that a token stands for, none when it has no values. -/
def valuesOf (domain : Domain) (token : Token) : List Points :=
  match tokenValues domain token with
  | .ok values => values.toList
  | .error _ => []

/-- The candidates that the values to come in a level lead to. -/
def Level.ahead (domain : Domain) (l : Level) : List Points :=
  l.values.toList.flatMap fun v => expansions (l.chosen ++ v) (l.rest.map (valuesOf domain))

/-- Every token that the level has yet to enter has values. -/
def Level.Sound (domain : Domain) (l : Level) : Prop :=
  ∀ token ∈ l.rest, ∃ values, tokenValues domain token = .ok values

/-- A value taken leads to its own candidates before those of the values behind it. -/
theorem Level.ahead_of_next? {l : Level} {value : Points} {values : Values}
    (h : l.values.next? = some (value, values)) :
    l.ahead domain = expansions (l.chosen ++ value) (l.rest.map (valuesOf domain)) ++
      Level.ahead domain { l with values } := by
  rw [Level.ahead, Values.toList_of_next? h, List.flatMap_cons]
  rfl

namespace Walk

/-- The candidates still to be given. -/
def ahead (domain : Domain) (w : Walk) : List Points :=
  w.flatMap (Level.ahead domain)

/-- Every token that the walk has yet to enter has values. -/
def Sound (domain : Domain) (w : Walk) : Prop :=
  ∀ l ∈ w, l.Sound domain

/-- A sound walk gives the first candidate before it, or is at its end when there is none. -/
theorem next?_cases {w : Walk} (sound : w.Sound domain) :
    (w.next? domain = .ok none ∧ w.ahead domain = []) ∨
      ∃ c rest, w.next? domain = .ok (some (c, rest)) ∧ rest.Sound domain ∧
        w.ahead domain = c :: rest.ahead domain := by
  fun_induction next? domain w with
  | case1 => exact .inl ⟨rfl, rfl⟩
  | case2 top below hv ih =>
    -- the innermost level is used up
    have empty : top.ahead domain = [] := by
      rw [Level.ahead, Values.toList_of_next?_none hv]
      rfl
    have same : ahead domain (top :: below) = ahead domain below := by
      rw [ahead, List.flatMap_cons, empty]
      rfl
    rw [same]
    exact ih fun l hl => sound l (List.mem_cons_of_mem _ hl)
  | case3 top below value values hv hr =>
    -- no token is left to enter, so the text is complete
    refine .inr ⟨_, _, rfl, ?_, ?_⟩
    · intro l hl
      rcases List.mem_cons.1 hl with rfl | hl
      · exact sound top List.mem_cons_self
      · exact sound l (List.mem_cons_of_mem _ hl)
    · rw [ahead, List.flatMap_cons, Level.ahead_of_next? hv, hr]
      rfl
  | case4 top below value values hv token rest hr e ht =>
    obtain ⟨inner, hi⟩ := sound top List.mem_cons_self token (by rw [hr]; exact List.mem_cons_self)
    rw [ht] at hi
    cases hi
  | case5 top below value values hv token rest hr inner ht ih =>
    -- a new level splits the candidates of the value by the values of the next token
    have entered : Level.ahead domain ⟨top.chosen ++ value, inner, rest⟩ =
        expansions (top.chosen ++ value) (top.rest.map (valuesOf domain)) := by
      have parts : valuesOf domain token = inner.toList := by
        rw [valuesOf, ht]
      rw [hr, List.map_cons, parts]
      rfl
    have same : ahead domain
        (⟨top.chosen ++ value, inner, rest⟩ :: { top with values } :: below) =
          ahead domain (top :: below) := by
      simp only [ahead, List.flatMap_cons]
      rw [entered, Level.ahead_of_next? hv, List.append_assoc]
    rw [← same]
    apply ih
    intro l hl
    rcases List.mem_cons.1 hl with rfl | hl
    · intro t ht
      exact sound top List.mem_cons_self t (by rw [hr]; exact List.mem_cons_of_mem _ ht)
    · rcases List.mem_cons.1 hl with rfl | hl
      · exact sound top List.mem_cons_self
      · exact sound l (List.mem_cons_of_mem _ hl)

/-! ## What a walk gives -/

/-- The walk gives these candidates one by one and then ends. -/
inductive Gives (domain : Domain) : Walk → List Points → Prop where
  | finished {w : Walk} (h : w.next? domain = .ok none) : Gives domain w []
  | candidate {w rest : Walk} {c : Points} {cs : List Points}
      (h : w.next? domain = .ok (some (c, rest))) (more : Gives domain rest cs) :
      Gives domain w (c :: cs)

/-- A sound walk gives what is before it. -/
theorem gives_ahead {w : Walk} (sound : w.Sound domain) : w.Gives domain (w.ahead domain) := by
  rcases next?_cases sound with ⟨h, e⟩ | ⟨c, rest, h, soundRest, e⟩
  · rw [e]
    exact .finished h
  · rw [e]
    exact .candidate h (gives_ahead soundRest)
termination_by weight domain w
decreasing_by exact weight_of_next? h

end Walk

/-- The lists of values of tokens that all have values. -/
theorem eq_map_valuesOf {tokens : List Token} {lists : List (List Points)}
    (h : valueLists domain tokens = .ok lists) :
    lists = tokens.map (valuesOf domain) ∧
      ∀ token ∈ tokens, ∃ values, tokenValues domain token = .ok values := by
  induction tokens generalizing lists with
  | nil =>
    cases h
    exact ⟨rfl, by simp⟩
  | cons token tokens ih =>
    rw [valueLists, List.mapM_cons] at h
    cases ht : tokenValues domain token with
    | error e =>
      rw [ht] at h
      cases h
    | ok values =>
      cases hm : valueLists domain tokens with
      | error e =>
        rw [valueLists] at hm
        rw [ht, hm] at h
        cases h
      | ok more =>
        obtain ⟨rfl, sound⟩ := ih hm
        rw [valueLists] at hm
        rw [ht, hm] at h
        cases h
        constructor
        · rw [List.map_cons, valuesOf, ht]
        · intro t hin
          rcases List.mem_cons.1 hin with rfl | hin
          · exact ⟨values, ht⟩
          · exact sound t hin

/-- The walk through tokens that have values gives the nested product of the values behind the front
and ends; the number of candidates is the product of the numbers of values; and each candidate is
made of the values that the digits of its number select. -/
theorem gives_expansions {tokens : List Token} {lists : List (List Points)} (front : Points)
    (h : valueLists domain tokens = .ok lists) :
    (Walk.start tokens front).Gives domain (expansions front lists) ∧
      (expansions front lists).length = (lists.map List.length).prod ∧
      (lists = [] → (expansions front lists).length = 1) ∧
      ([] ∈ lists → (expansions front lists).length = 0) ∧
      ∀ i, i < (expansions front lists).length →
        List.Forall₂ (· < ·) (digits (lists.map List.length) i) (lists.map List.length) ∧
        ofDigits (lists.map List.length) (digits (lists.map List.length) i) = i ∧
        ∃ parts : List Points, selected lists (digits (lists.map List.length) i) = parts.map some ∧
          (expansions front lists)[i]? = some (front ++ parts.flatten) := by
  obtain ⟨rfl, sound⟩ := eq_map_valuesOf h
  refine ⟨?_, length_expansions _ _, ?_, ?_, ?_⟩
  · have start : (Walk.start tokens front).ahead domain =
        expansions front (tokens.map (valuesOf domain)) := by
      simp [Walk.start, Walk.ahead, Level.ahead, Values.toList]
    rw [← start]
    apply Walk.gives_ahead
    intro l hl
    obtain rfl := List.mem_singleton.1 hl
    exact sound
  · intro e
    rw [e]
    rfl
  · intro e
    rw [expansions_eq_map_product, product_eq_nil_of_mem e]
    rfl
  · intro i hi
    rw [length_expansions] at hi
    exact ⟨forall₂_digits_lt hi, ofDigits_digits hi, expansions_getElem? front hi⟩

/-- An optional mail in front of the days 08 to 10: candidate number 4 has the digits 1, 0, 1. -/
theorem gives_expansions_padded :
    let tokens : List Token :=
      [.items ["mail".toList, []], .literal ['-'], .range ⟨"08".toList, "10".toList⟩]
    let lists : List (List Points) :=
      [["mail".toList, []], [[.char '-']], ["08".toList, "09".toList, "10".toList]]
    valueLists ⟨"d.e".toList⟩ tokens = .ok lists ∧
      (Walk.start tokens [.char 'p']).Gives ⟨"d.e".toList⟩
        (["pmail-08", "pmail-09", "pmail-10", "p-08", "p-09", "p-10"].map fun s => s.toList) ∧
      digits (lists.map List.length) 4 = [1, 0, 1] ∧
      ∃ parts : List Points, selected lists [1, 0, 1] = parts.map some ∧
        (expansions [.char 'p'] lists)[4]? = some (.char 'p' :: parts.flatten) := by
  have lists : valueLists ⟨"d.e".toList⟩
      [.items ["mail".toList, []], .literal ['-'], .range ⟨"08".toList, "10".toList⟩] =
        .ok [["mail".toList, []], [[.char '-']], ["08".toList, "09".toList, "10".toList]] := by
    decide
  obtain ⟨given, -, -, -, numbered⟩ := gives_expansions [.char 'p'] lists
  exact ⟨lists, given, by decide, (numbered 4 (by decide)).2.2⟩

end SelectorScan.Candidate
