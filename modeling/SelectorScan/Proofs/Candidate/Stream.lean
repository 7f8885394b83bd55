import SelectorScan.Candidate.Stream
import SelectorScan.Proofs.Candidate.Composition

/-!
# What the stream of a rule file gives

The rules of a file, up to the terminator, stand for the candidates of each rule in order, up to the
first rule that is refused (`ofRules`). The stream of the file gives just these, and it never ends
with a fault in the values of a token, as a rule that compiles always has candidates:

    ((Stream.ofLines lines).items domain).selectors = (ofRules domain (liveLines lines)).1
    ((Stream.ofLines lines).items domain).fault = (ofRules domain (liveLines lines)).2.map .rule
                                                                             (Stream.items_ofLines)
-/

namespace SelectorScan.Candidate

open Rule

variable {domain : Domain}

/-! ## Rules -/

/-- The candidates of rules in order, up to the first rule that is refused, and why that one is. -/
def ofRules (domain : Domain) : List Text → List Points × Option RuleError
  | [] => ([], none)
  | line :: rest =>
    match compile line with
    | .error e => ([], some e)
    | .ok tokens =>
      let more := ofRules domain rest
      (candidates domain tokens ++ more.1, more.2)

theorem exists_of_mem_ofRules {lines : List Text} {x : Points} (h : x ∈ (ofRules domain lines).1) :
    ∃ line ∈ lines, ∃ tokens, compile line = .ok tokens ∧ x ∈ candidates domain tokens := by
  induction lines with
  | nil => cases h
  | cons line lines ih =>
    rw [ofRules] at h
    cases hc : compile line with
    | error e =>
      rw [hc] at h
      cases h
    | ok tokens =>
      rw [hc] at h
      rcases List.mem_append.1 h with h | h
      · exact ⟨line, List.mem_cons_self, tokens, hc, h⟩
      · obtain ⟨line', hl, rest⟩ := ih h
        exact ⟨line', List.mem_cons_of_mem _ hl, rest⟩

/-- Rules that compile stand in front with all their candidates. -/
theorem ofRules_append {front : List Text}
    (sound : ∀ line ∈ front, ∃ tokens, compile line = .ok tokens) (back : List Text) :
    ofRules domain (front ++ back) =
      ((ofRules domain front).1 ++ (ofRules domain back).1, (ofRules domain back).2) := by
  induction front with
  | nil => rfl
  | cons line front ih =>
    obtain ⟨⟨tokens, hc⟩, sound⟩ := List.forall_mem_cons.1 sound
    rw [List.cons_append, ofRules, ofRules, hc]
    simp only [ih sound, List.append_assoc]

/-- The first rule that is refused ends the candidates, which are those of the rules before it. -/
theorem ofRules_of_refused {front : List Text}
    (sound : ∀ line ∈ front, ∃ tokens, compile line = .ok tokens) {bad : Text} {e : RuleError}
    (refused : compile bad = .error e) (back : List Text) :
    ofRules domain (front ++ bad :: back) = ((ofRules domain front).1, some e) := by
  rw [ofRules_append sound, ofRules, refused, List.append_nil]

/-- What ends the candidates of rules before their time is the first rule that is refused. -/
theorem exists_refused_of_ofRules {lines : List Text} {e : RuleError}
    (h : (ofRules domain lines).2 = some e) : ∃ front bad back, lines = front ++ bad :: back ∧
      (∀ line ∈ front, ∃ tokens, compile line = .ok tokens) ∧ compile bad = .error e := by
  induction lines with
  | nil => cases h
  | cons line lines ih =>
    rw [ofRules] at h
    cases hc : compile line with
    | error e' =>
      rw [hc] at h
      cases h
      exact ⟨[], line, lines, rfl, nofun, hc⟩
    | ok tokens =>
      rw [hc] at h
      obtain ⟨front, bad, back, rfl, sound, refused⟩ := ih h
      exact ⟨line :: front, bad, back, rfl, List.forall_mem_cons.2 ⟨⟨tokens, hc⟩, sound⟩, refused⟩

/-! ## Taking one thing at a time -/

/-- Something in front of what a stream gives. -/
def Candidates.cons (i : Item) (c : Candidates) : Candidates :=
  { c with items := i :: c.items }

@[simp] theorem Candidates.selectors_cons (i : Item) (c : Candidates) :
    (c.cons i).selectors = i.selector?.toList ++ c.selectors := by
  cases i <;> rfl

@[simp] theorem Candidates.fault_cons (i : Item) (c : Candidates) : (c.cons i).fault = c.fault := rfl

namespace Stream

/-- What is taken first stands in front of what is taken then. -/
theorem itemsAfter_append (taken front : List Item) (s : Stream) :
    itemsAfter domain (taken ++ front) s =
      ⟨front.reverse ++ (itemsAfter domain taken s).items, (itemsAfter domain taken s).fault⟩ := by
  fun_induction itemsAfter domain taken s with
  | case1 taken s h =>
    rw [itemsAfter]
    split <;> simp_all
  | case2 taken s f h =>
    rw [itemsAfter]
    split <;> simp_all
  | case3 taken s i rest h ih =>
    rw [itemsAfter]
    split <;> simp_all

/-- Everything in a stream is what comes next and everything behind it. -/
theorem items_eq (s : Stream) : s.items domain =
    match s.next domain with
    | .finished => ⟨[], none⟩
    | .fault f => ⟨[], some f⟩
    | .item i rest => (rest.items domain).cons i := by
  rw [items, itemsAfter]
  split
  · next h => rw [h]; rfl
  · next h => rw [h]; rfl
  · next i rest h =>
    rw [h]
    exact itemsAfter_append [] [i] rest

/-! ## The current rule -/

/-- A stream gives the candidates of its current rule before it reads on. -/
theorem items_of_gives {w : Walk} {cs : List Points} (h : w.Gives domain cs) (lines : List Text)
    (number : Nat) : ∃ ended : Walk, ended.next? domain = .ok none ∧
      ((⟨w, lines, number⟩ : Stream).items domain).selectors =
        cs ++ ((⟨ended, lines, number⟩ : Stream).items domain).selectors ∧
      ((⟨w, lines, number⟩ : Stream).items domain).fault =
        ((⟨ended, lines, number⟩ : Stream).items domain).fault := by
  induction h with
  | @finished w h => exact ⟨w, h, rfl, rfl⟩
  | @candidate w rest c cs h _ ih =>
    obtain ⟨ended, hn, selectors, fault⟩ := ih
    have taken : (⟨w, lines, number⟩ : Stream).next domain =
        .item (.candidate c) ⟨rest, lines, number⟩ := by
      rw [next, h]
    refine ⟨ended, hn, ?_, ?_⟩
    · rw [items_eq, taken, Candidates.selectors_cons, selectors]
      rfl
    · rw [items_eq, taken, Candidates.fault_cons, fault]

/-! ## Rule by rule -/

/-- A stream whose current rule is used up gives the candidates of the rules on its lines. -/
theorem items_of_ended {w : Walk} (h : w.next? domain = .ok none) (lines : List Text)
    (number : Nat) :
    ((⟨w, lines, number⟩ : Stream).items domain).selectors = (ofRules domain (liveLines lines)).1 ∧
      ((⟨w, lines, number⟩ : Stream).items domain).fault =
        (ofRules domain (liveLines lines)).2.map .rule := by
  induction lines generalizing w number with
  | nil =>
    rw [items_eq, next, h]
    exact ⟨rfl, rfl⟩
  | cons raw lines ih =>
    rw [items_eq, next, h]
    simp only [nextRule, liveLines]
    cases Line.read raw with
    | skipped =>
      -- the line is passed over before anything is given
      have passed := ih h number
      rw [items_eq, next, h] at passed
      exact passed
    | terminator =>
      have finished : (⟨[], [], number⟩ : Stream).items domain = ⟨[], none⟩ := by
        rw [items_eq, next, Walk.next?]
        rfl
      simp only [finished]
      exact ⟨rfl, rfl⟩
    | rule text =>
      simp only [ofRules]
      cases hc : compile text with
      | error e => exact ⟨rfl, rfl⟩
      | ok tokens =>
        obtain ⟨ended, hn, selectors, fault⟩ :=
          items_of_gives (gives_candidates (exists_tokenValues_of_compile hc)) lines (number + 1)
        obtain ⟨moreSelectors, moreFault⟩ := ih hn (number + 1)
        simp only [Candidates.selectors_cons, Candidates.fault_cons]
        constructor
        · rw [selectors, moreSelectors]
          rfl
        · rw [fault, moreFault]

/-- The stream of a file gives the candidates of its rules in order, up to the first rule that is
refused. -/
theorem items_ofLines (domain : Domain) (lines : List Text) :
    ((ofLines lines).items domain).selectors = (ofRules domain (liveLines lines)).1 ∧
      ((ofLines lines).items domain).fault = (ofRules domain (liveLines lines)).2.map .rule := by
  have ended : Walk.next? domain [] = .ok none := by
    rw [Walk.next?]
  exact items_of_ended ended lines 0

end Stream

end SelectorScan.Candidate
