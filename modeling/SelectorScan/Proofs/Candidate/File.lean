import SelectorScan.Proofs.Candidate.Stream

/-!
# What a rule file gives

The lines of a file that count are those before the first one that reads `EoF`, without blank lines
and comments (`rules`). If all of these rules compile, the file gives the candidates of each in
order, and nothing is removed as a repetition; otherwise it gives those of the rules before the
first one that does not compile, and is then broken off. What stands behind the terminator is never
looked at (`Stream.items_behind_terminator`), and lines without a terminator whose rules all compile
stand in front of others with all their candidates:

    selectors (front ++ back) = selectors front ++ selectors back
    fault (front ++ back) = fault back                                    (rules_given_in_order)
-/

namespace SelectorScan

open Text

/-! ## Rules among lines -/

namespace Rule

/-- Whether a line without its blanks holds a rule: it is not empty, and no comment. -/
def holdsRule (text : Text) : Bool :=
  match text.head? with
  | none => false
  | some c => !isCommentSign c

/-- The lines without their blanks that come before the terminator and hold rules. -/
def rules (lines : List Text) : List Text :=
  ((lines.map squeeze).takeWhile fun text => text ≠ terminatorWord).filter holdsRule

/-- The word that ends the rules is neither empty nor a comment, so it does not matter which of the
two is looked at first. -/
theorem Line.read_eq (raw : Text) : Line.read raw =
    if squeeze raw = terminatorWord then .terminator
    else if holdsRule (squeeze raw) then .rule (squeeze raw)
    else .skipped := by
  unfold Line.read
  simp only
  generalize squeeze raw = text
  cases text with
  | nil => rfl
  | cons c text =>
    by_cases word : c :: text = terminatorWord
    · cases word
      rfl
    · rw [if_neg word, if_neg word]
      cases comment : isCommentSign c with
      | true => simp [holdsRule, comment]
      | false => simp [holdsRule, comment]

theorem liveLines_eq_rules (lines : List Text) : liveLines lines = rules lines := by
  induction lines with
  | nil => rfl
  | cons raw lines ih =>
    unfold rules at ih ⊢
    rw [liveLines, Line.read_eq, List.map_cons]
    by_cases word : squeeze raw = terminatorWord
    · rw [if_pos word, List.takeWhile_cons_of_neg (by simpa using word)]
      rfl
    · rw [if_neg word, List.takeWhile_cons_of_pos (by simpa using word)]
      cases holds : holdsRule (squeeze raw) with
      | true =>
        rw [List.filter_cons_of_pos holds, ← ih]
        rfl
      | false =>
        rw [List.filter_cons_of_neg (by rw [holds]; decide), ← ih]
        rfl

/-- Lines without a terminator leave the lines behind them as they are. -/
theorem rules_append {front : List Text} (unended : ∀ raw ∈ front, squeeze raw ≠ terminatorWord)
    (back : List Text) : rules (front ++ back) = rules front ++ rules back := by
  have through : ∀ text ∈ front.map squeeze, decide (text ≠ terminatorWord) = true := by
    intro text ht
    obtain ⟨raw, hr, rfl⟩ := List.mem_map.1 ht
    exact decide_eq_true (unended raw hr)
  unfold rules
  rw [List.map_append, List.takeWhile_append_of_pos through, List.filter_append,
    List.takeWhile_eq_self_iff.2 through]

end Rule

namespace Candidate

open Rule

variable {domain : Domain}

/-! ## Behind the terminator -/

namespace Stream

/-- Reading up to the next rule, or the terminator, does not look behind the terminator. -/
theorem nextRule_behind_terminator {t : Text} (word : squeeze t = terminatorWord)
    (front back : List Text) (number : Nat) :
    nextRule number (front ++ t :: back) = nextRule number (front ++ [t]) ∨
      ∃ i w front' number', front'.length < front.length ∧
        nextRule number (front ++ t :: back) = .item i ⟨w, front' ++ t :: back, number'⟩ ∧
        nextRule number (front ++ [t]) = .item i ⟨w, front' ++ [t], number'⟩ := by
  induction front with
  | nil =>
    left
    rw [List.nil_append, List.nil_append, nextRule, nextRule, Line.read_eq, if_pos word]
  | cons raw front ih =>
    rw [List.cons_append, List.cons_append, nextRule, nextRule]
    cases Line.read raw with
    | skipped =>
      rcases ih with same | ⟨i, w, front', number', shorter, ih⟩
      · exact .inl same
      · exact .inr ⟨i, w, front', number', Nat.lt_succ_of_lt shorter, ih⟩
    | terminator => exact .inl rfl
    | rule text =>
      simp only
      cases compile text with
      | error e => exact .inl rfl
      | ok tokens => exact .inr ⟨_, _, front, number + 1, Nat.lt_succ_self _, rfl, rfl⟩

/-- What stands behind the terminator changes nothing, not even what is noted. -/
theorem items_behind_terminator {t : Text} (word : squeeze t = terminatorWord) (back : List Text)
    (w : Walk) (front : List Text) (number : Nat) :
    items domain ⟨w, front ++ t :: back, number⟩ = items domain ⟨w, front ++ [t], number⟩ := by
  rw [items_eq, items_eq ⟨w, front ++ [t], number⟩, next, next]
  cases h : w.next? domain with
  | error e => rfl
  | ok given =>
    rcases given with - | ⟨text, rest⟩
    · simp only
      rcases nextRule_behind_terminator word front back number with
        same | ⟨i, w', front', number', shorter, long, short⟩
      · rw [same]
      · rw [long, short]
        simp only [items_behind_terminator word back w' front' number']
    · simp only [items_behind_terminator word back rest front number]
termination_by (front.length, w.weight domain)
decreasing_by
  · exact Prod.Lex.left _ _ shorter
  · exact Prod.Lex.right _ (Walk.weight_of_next? h)

end Stream

/-! ## Rule by rule -/

/-- The candidates that a line stands for: it compiles, and the walk through its tokens gives them
in this order and ends. -/
def Expands (domain : Domain) (line : Text) (cs : List Points) : Prop :=
  ∃ tokens, compile line = .ok tokens ∧ (Walk.start tokens []).Gives domain cs

/-- Rules that all compile stand for the candidates of each, one behind the other. -/
theorem exists_expands (domain : Domain) {lines : List Text}
    (sound : ∀ line ∈ lines, ∃ tokens, compile line = .ok tokens) :
    ∃ css, List.Forall₂ (Expands domain) lines css ∧
      ofRules domain lines = (css.flatten, none) := by
  induction lines with
  | nil => exact ⟨[], .nil, rfl⟩
  | cons line lines ih =>
    obtain ⟨⟨tokens, hc⟩, sound⟩ := List.forall_mem_cons.1 sound
    obtain ⟨css, expand, given⟩ := ih sound
    have first : Expands domain line (candidates domain tokens) :=
      ⟨tokens, hc, gives_candidates (exists_tokenValues_of_compile hc)⟩
    refine ⟨candidates domain tokens :: css, .cons first expand, ?_⟩
    simp only [ofRules, hc, given, List.flatten_cons]

/-- If all rules of a file compile, the file gives the candidates of each in order and ends.
Otherwise it gives those of the rules before the first one that does not compile, and is broken off
by the refusal of that one. Lines behind a terminator change nothing. Lines without a terminator
that all compile give their candidates in front of those of other lines. -/
theorem rules_given_in_order (domain : Domain) (lines : List Text) :
    let all := fun lines => (Stream.ofLines lines).items domain
    ((∀ line ∈ rules lines, ∃ tokens, compile line = .ok tokens) →
      ∃ css, List.Forall₂ (Expands domain) (rules lines) css ∧
        (all lines).selectors = css.flatten ∧ (all lines).fault = none) ∧
    (∀ front bad back e, rules lines = front ++ bad :: back →
      (∀ line ∈ front, ∃ tokens, compile line = .ok tokens) → compile bad = .error e →
      ∃ css, List.Forall₂ (Expands domain) front css ∧
        (all lines).selectors = css.flatten ∧ (all lines).fault = some (.rule e)) ∧
    (∀ front t back, lines = front ++ t :: back → squeeze t = terminatorWord →
      all lines = all (front ++ [t])) ∧
    ((∀ raw ∈ lines, squeeze raw ≠ terminatorWord) →
      (∀ line ∈ rules lines, ∃ tokens, compile line = .ok tokens) → ∀ back,
      (all (lines ++ back)).selectors = (all lines).selectors ++ (all back).selectors ∧
        (all (lines ++ back)).fault = (all back).fault) := by
  intro all
  have selectors : ∀ lines, (all lines).selectors = (ofRules domain (rules lines)).1 := by
    intro lines
    rw [← liveLines_eq_rules]
    exact (Stream.items_ofLines domain lines).1
  have fault : ∀ lines, (all lines).fault = (ofRules domain (rules lines)).2.map .rule := by
    intro lines
    rw [← liveLines_eq_rules]
    exact (Stream.items_ofLines domain lines).2
  refine ⟨?_, ?_, ?_, ?_⟩
  · intro sound
    obtain ⟨css, expand, given⟩ := exists_expands domain sound
    exact ⟨css, expand, by rw [selectors, given], by rw [fault, given]; rfl⟩
  · intro front bad back e split sound refused
    obtain ⟨css, expand, given⟩ := exists_expands domain sound
    have broken : ofRules domain _ = _ := ofRules_of_refused sound refused back
    rw [given] at broken
    exact ⟨css, expand, by rw [selectors, split, broken], by rw [fault, split, broken]; rfl⟩
  · rintro front t back rfl word
    exact Stream.items_behind_terminator word back [] front 0
  · intro unended sound back
    have apart : ofRules domain _ = _ := ofRules_append sound (rules back)
    rw [← rules_append unended] at apart
    constructor
    · rw [selectors, selectors, selectors, apart]
    · rw [fault, fault, apart]

/-- Rules between a comment and a blank line, before a rule that is refused, before a terminator
with blanks in it, and once more behind themselves. -/
theorem rules_given_in_order_mixed :
    let all := fun lines => (Stream.ofLines lines).items ⟨['d']⟩
    let lines := ["%La, b% ", "# x", " ", "c\t%D%"].map String.toList
    let live := ["%La,b%", "c%D%"].map String.toList
    let bad := "%X%".toList
    let candidates : List Points := ["a", "b", "cd"].map fun x => x.toList
    (∃ css, List.Forall₂ (Expands ⟨['d']⟩) live css ∧ css.flatten = candidates ∧
      (all lines).selectors = css.flatten ∧ (all lines).fault = none) ∧
    (∃ css, List.Forall₂ (Expands ⟨['d']⟩) live css ∧ css.flatten = candidates ∧
      (all (lines ++ [bad, ['e']])).selectors = css.flatten ∧
      (all (lines ++ [bad, ['e']])).fault = some (.rule (.unknownDirective 'X' bad))) ∧
    all (lines ++ "E oF".toList :: [bad]) = all (lines ++ ["E oF".toList]) ∧
    (all (lines ++ lines)).selectors = candidates ++ candidates := by
  intro all lines live bad candidates
  have sound : ∀ line ∈ live, ∃ tokens, compile line = .ok tokens := by
    intro line hl
    rcases List.mem_cons.1 hl with rfl | hl
    · exact ⟨[.items [['a'], ['b']]], by decide +kernel⟩
    · obtain rfl := List.mem_singleton.1 hl
      exact ⟨[.literal ['c'], .domainParts []], by decide +kernel⟩
  have held : rules lines = live := by decide +kernel
  have given : (all lines).selectors = candidates := by
    rw [(Stream.items_ofLines _ _).1]
    decide +kernel
  obtain ⟨whole, -, -, doubled⟩ := rules_given_in_order ⟨['d']⟩ lines
  obtain ⟨-, broken, -, -⟩ := rules_given_in_order ⟨['d']⟩ (lines ++ [bad, ['e']])
  obtain ⟨-, -, behind, -⟩ := rules_given_in_order ⟨['d']⟩ (lines ++ "E oF".toList :: [bad])
  refine ⟨?_, ?_, ?_, ?_⟩
  · obtain ⟨css, expand, selectors, fault⟩ := whole (by rw [held]; exact sound)
    rw [held] at expand
    exact ⟨css, expand, selectors ▸ given, selectors, fault⟩
  · obtain ⟨css, expand, selectors, fault⟩ :=
      broken live bad [['e']] (.unknownDirective 'X' bad) (by decide +kernel) sound
        (by decide +kernel)
    refine ⟨css, expand, ?_, selectors, fault⟩
    rw [← selectors, (Stream.items_ofLines _ _).1]
    decide +kernel
  · exact behind lines _ [bad] rfl (by decide +kernel)
  · have once := doubled (by decide +kernel) (by rw [held]; exact sound) lines
    rw [once.1]
    exact congrArg₂ _ given given

end Candidate

end SelectorScan
