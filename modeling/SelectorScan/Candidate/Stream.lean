import SelectorScan.Candidate.Walk
import SelectorScan.Rule.Compile
import SelectorScan.Rule.File
import SelectorScan.Log

/-!
# The candidates of a rule file

The rules of a file are compiled as they are reached, one after the other, and the candidates of
each are given before the next rule is looked at; so a rule that is refused ends the stream only
there. Nothing is removed as a repetition. `next` takes one thing at a time, a candidate or a log
entry; `first` takes a number of candidates and `items` takes everything.
-/

namespace SelectorScan.Candidate

open Rule

/-! ## Algorithm -/

/-- What ends a stream before its time. -/
inductive Fault where
  | rule (error : RuleError)
  | expansion (error : ExpansionError)
deriving DecidableEq, Repr

inductive Item where
  | candidate (selector : Points)
  | note (entry : Log.Entry)
deriving DecidableEq, Repr

/-- All that a stream gives, and what ends it before its time. -/
structure Candidates where
  items : List Item
  fault : Option Fault
deriving DecidableEq, Repr

/-- What is left of a rule file. -/
structure Stream where
  /-- The walk through the current rule. -/
  walk : Walk
  /-- The lines not yet read. -/
  lines : List Text
  /-- How many rules have been compiled. -/
  number : Nat
deriving DecidableEq, Repr

inductive Next where
  | item (item : Item) (rest : Stream)
  | fault (fault : Fault)
  | finished
deriving DecidableEq, Repr

/-- The entry about the end of the rules. -/
def terminatorNote : Log.Entry :=
  .plain "dkimscan.pattern" .debug "Rule terminator reached"

/-- The entry about a rule that has been compiled. -/
def ruleNote (number : Nat) (line : Text) (tokens : List Token) : Log.Entry :=
  .plain "dkimscan.generator" .debug
    ("Rule " ++ toString number ++ ": " ++ String.ofList line ++ " -> " ++
      toString tokens.length ++ " tokens")

namespace Stream

def ofLines (lines : List Text) : Stream :=
  ⟨[], lines, 0⟩

/-- The stream of one compiled rule, every candidate beginning with `front`. -/
def ofTokens (tokens : List Token) (front : Points) : Stream :=
  ⟨Walk.start tokens front, [], 0⟩

def nextRule (number : Nat) : List Text → Next
  | [] => .finished
  | raw :: lines =>
    match Line.read raw with
    | .skipped => nextRule number lines
    | .terminator => .item (.note terminatorNote) ⟨[], [], number⟩
    | .rule text =>
      match compile text with
      | .error e => .fault (.rule e)
      | .ok tokens =>
        .item (.note (ruleNote (number + 1) text tokens)) ⟨Walk.start tokens [], lines, number + 1⟩

def next (domain : Domain) (s : Stream) : Next :=
  match s.walk.next? domain with
  | .error e => .fault (.expansion e)
  | .ok (some (selector, walk)) => .item (.candidate selector) { s with walk }
  | .ok none => nextRule s.number s.lines

theorem lines_of_nextRule {number : Nat} {lines : List Text} {i : Item} {rest : Stream}
    (h : nextRule number lines = .item i rest) : rest.lines.length < lines.length := by
  induction lines with
  | nil => simp [nextRule] at h
  | cons raw more ih =>
    unfold nextRule at h
    split at h
    · exact Nat.lt_succ_of_lt (ih h)
    · simp only [Next.item.injEq] at h
      obtain ⟨-, rfl⟩ := h
      simp
    · split at h
      · simp at h
      · simp only [Next.item.injEq] at h
        obtain ⟨-, rfl⟩ := h
        simp

/-- Whatever a stream gives, fewer lines are left, or as many lines and fewer moves. -/
theorem smaller_of_next {domain : Domain} {s rest : Stream} {i : Item}
    (h : s.next domain = .item i rest) :
    rest.lines.length < s.lines.length ∨
      rest.lines.length = s.lines.length ∧ rest.walk.weight domain < s.walk.weight domain := by
  unfold next at h
  split at h
  · simp at h
  · next selector walk hw =>
    simp only [Next.item.injEq] at h
    obtain ⟨-, rfl⟩ := h
    exact .inr ⟨rfl, Walk.weight_of_next? hw⟩
  · exact .inl (lines_of_nextRule h)

inductive Ending where
  /-- The stream is at its end. -/
  | finished
  /-- There is another candidate. -/
  | more
  | fault (fault : Fault)
deriving DecidableEq, Repr

/-- Takes candidates behind those in `taken` (the latest first) until the stream ends or one more
than `limit` is found. -/
def firstAfter (domain : Domain) (limit : Nat) (taken : List Points) (s : Stream) :
    List Points × Ending :=
  match _h : s.next domain with
  | .finished => (taken.reverse, .finished)
  | .fault f => (taken.reverse, .fault f)
  | .item (.note _) rest => firstAfter domain limit taken rest
  | .item (.candidate selector) rest =>
    match limit with
    | 0 => (taken.reverse, .more)
    | limit + 1 => firstAfter domain limit (selector :: taken) rest
termination_by (s.lines.length, s.walk.weight domain)
decreasing_by all_goals exact Prod.lex_def.2 (smaller_of_next _h)

/-- The first candidates as they are shown, at most `limit`, and how taking them ends. -/
def first (domain : Domain) (limit : Nat) (s : Stream) : List Text × Ending :=
  let (taken, ending) := firstAfter domain limit [] s
  (taken.map Points.shown, ending)

/-- Takes everything behind what is in `taken` (the latest first). -/
def itemsAfter (domain : Domain) (taken : List Item) (s : Stream) : Candidates :=
  match _h : s.next domain with
  | .finished => ⟨taken.reverse, none⟩
  | .fault f => ⟨taken.reverse, some f⟩
  | .item i rest => itemsAfter domain (i :: taken) rest
termination_by (s.lines.length, s.walk.weight domain)
decreasing_by exact Prod.lex_def.2 (smaller_of_next _h)

def items (domain : Domain) (s : Stream) : Candidates :=
  itemsAfter domain [] s

end Stream

def Item.selector? : Item → Option Points
  | .candidate selector => some selector
  | .note _ => none

def Candidates.selectors (c : Candidates) : List Points :=
  c.items.filterMap Item.selector?

/-- The candidates as they are shown. -/
def Candidates.texts (c : Candidates) : List Text :=
  c.selectors.map Points.shown

end SelectorScan.Candidate
