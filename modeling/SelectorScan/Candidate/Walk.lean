import SelectorScan.Candidate.Values

/-!
# Walking through the candidates of a rule

A rule stands for every selector made of one value of each of its tokens, the values of the last token
changing fastest. There may be too many to list, so they are visited depth first: the walk keeps
one level for each token entered, with what was chosen so far and the values still to come, and
`next?` gives the next candidate and the walk after it. Every move takes one value or leaves one
level, which `weight` counts, so the walk ends.
-/

namespace SelectorScan.Candidate

open Rule

/-! ## Algorithm -/

structure Level where
  /-- The values chosen for the tokens before this one. -/
  chosen : Points
  /-- The values of this token that are still to come. -/
  values : Values
  /-- The tokens after this one. -/
  rest : List Token
deriving DecidableEq, Repr

/-- The moves that a choice of values for the tokens takes. -/
def cost (domain : Domain) : List Token → Nat
  | [] => 0
  | token :: rest =>
    match tokenValues domain token with
    | .ok values => 1 + values.count * (1 + cost domain rest)
    | .error _ => 0

def Level.weight (domain : Domain) (l : Level) : Nat :=
  1 + l.values.count * (1 + cost domain l.rest)

/-- The levels entered, innermost first. -/
abbrev Walk := List Level

namespace Walk

/-- The walk before the first candidate; every candidate begins with `front`. -/
def start (tokens : List Token) (front : Points) : Walk :=
  [⟨[], .listed [front], tokens⟩]

def weight (domain : Domain) : Walk → Nat
  | [] => 0
  | top :: below => top.weight domain + weight domain below

/-- The next candidate and the walk after it, `none` at the end. -/
def next? (domain : Domain) : Walk → Except ExpansionError (Option (Points × Walk))
  | [] => .ok none
  | top :: below =>
    match _hv : top.values.next? with
    | none => next? domain below
    | some (value, values) =>
      match _hr : top.rest with
      | [] => .ok (some (top.chosen ++ value, { top with values } :: below))
      | token :: rest =>
        match _ht : tokenValues domain token with
        | .error e => .error e
        | .ok inner =>
          next? domain (⟨top.chosen ++ value, inner, rest⟩ :: { top with values } :: below)
termination_by w => weight domain w
decreasing_by
  · simp only [weight, Level.weight]
    omega
  · have hc := Values.count_of_next? _hv
    simp only [weight, Level.weight, hc, _hr, cost, _ht,
      Nat.add_mul, Nat.one_mul]
    omega

/-! ## Lemmas -/

/-- Each candidate uses up a move, so the walk ends. -/
theorem weight_of_next? {domain : Domain} {w rest : Walk} {c : Points}
    (h : next? domain w = .ok (some (c, rest))) : weight domain rest < weight domain w := by
  fun_induction next? domain w with
  | case1 => simp at h
  | case2 top below hv ih =>
    have := ih h
    simp only [weight, Level.weight] at this ⊢
    omega
  | case3 top below value values hv hr =>
    simp only [Except.ok.injEq, Option.some.injEq, Prod.mk.injEq] at h
    obtain ⟨-, rfl⟩ := h
    have hc := Values.count_of_next? hv
    simp only [weight, Level.weight, hc, hr, cost, Nat.add_mul,
      Nat.one_mul]
    omega
  | case4 => simp at h
  | case5 top below value values hv token rest hr inner ht ih =>
    have := ih h
    have hc := Values.count_of_next? hv
    simp only [weight, Level.weight, hc, hr, cost, ht, Nat.add_mul,
      Nat.one_mul] at this ⊢
    omega

end Walk

end SelectorScan.Candidate
