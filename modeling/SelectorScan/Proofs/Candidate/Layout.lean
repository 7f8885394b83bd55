import Mathlib.Logic.Relation
import SelectorScan.Proofs.Candidate.File
import SelectorScan.Proofs.Text.Utf8

/-!
# The layout of a rule file carries no meaning

A rule file may be laid out anew by `Edit`s: a line is ended in another way, a blank that ends no
line is put in, or a line that is blank or a comment. Reading a text character by character, one
keeps the lines that hold something and what the current line holds without its blanks (`Reading`);
an edit leads back to the same place, also where it makes a line feed follow a carriage return. So
the lines that hold something stay the same, and these are all that a stream looks at:

    (Stream.ofLines lines).items domain = (Stream.ofLines (held lines)).items domain    (items_held)
-/

namespace SelectorScan

open Text

namespace Rule

/-! ## Edits -/

/-- The ways in which a line is ended. -/
def lineEnds : List Text :=
  ["\n", "\r\n", "\r", "\x0b", "\x0c", "\x1c", "\x1d", "\x1e", "\u0085", "\u2028", "\u2029"].map
    String.toList

/-- A line that holds no rule: all of it is blank, or a comment sign stands behind blanks. -/
def Idle (line : Text) : Prop :=
  (∀ c ∈ line, isBlank c = true) ∨ ∃ blanks sign comment, line = blanks ++ sign :: comment ∧
    (∀ c ∈ blanks, isBlank c = true) ∧ isCommentSign sign = true

/-- One change of layout. -/
inductive Edit : Text → Text → Prop where
  /-- A line is ended in another way. -/
  | lineEnd (front back : Text) {e e' : Text} (he : e ∈ lineEnds) (he' : e' ∈ lineEnds) :
    Edit (front ++ e ++ back) (front ++ e' ++ back)
  /-- A blank that ends no line is put in. -/
  | blank (front back : Text) {c : Char} (hc : isBlank c = true) (within : [c] ∉ lineEnds) :
    Edit (front ++ back) (front ++ c :: back)
  /-- At the beginning of the text or of a line, a line that holds no rule is put in. -/
  | line (front back : Text) {line e : Text}
    (start : front = [] ∨ ∃ before e', e' ∈ lineEnds ∧ front = before ++ e')
    (one : ∀ c ∈ line, [c] ∉ lineEnds) (idle : Idle line) (he : e ∈ lineEnds) :
    Edit (front ++ back) (front ++ line ++ e ++ back)
  /-- The last line is ended. -/
  | last (t : Text) {e : Text} (he : e ∈ lineEnds) : Edit t (t ++ e)

/-- The second text is the first one in another layout. -/
def Relaid : Text → Text → Prop :=
  Relation.EqvGen Edit

/-! ## Reading by characters -/

/-- Lines without their blanks that hold rules, or the word that ends them. -/
def held (lines : List Text) : List Text :=
  (lines.map squeeze).filter holdsRule

/-- How far a text has been read: the lines behind that hold something, and what the current line
holds without its blanks. -/
structure Reading where
  behind : List Text
  line : Text

namespace Reading

/-- The current line is at its end. -/
def close (r : Reading) : Reading :=
  ⟨r.behind ++ [r.line].filter holdsRule, []⟩

def read (r : Reading) (c : Char) : Reading :=
  if lineEnds.contains [c] then r.close else { r with line := r.line ++ squeeze [c] }

def readAll (r : Reading) (t : Text) : Reading :=
  t.foldl read r

variable {r : Reading} {c : Char}

theorem readAll_append (r : Reading) (s t : Text) :
    r.readAll (s ++ t) = (r.readAll s).readAll t :=
  List.foldl_append

/-- An empty line adds nothing. -/
theorem close_of_line (h : holdsRule r.line = false) : r.close = ⟨r.behind, []⟩ := by
  simp [close, h]

theorem close_close (r : Reading) : r.close.close = r.close :=
  close_of_line rfl

theorem read_of_mem (h : [c] ∈ lineEnds) : r.read c = r.close :=
  if_pos (List.contains_iff_mem.2 h)

theorem read_of_not_mem (h : [c] ∉ lineEnds) :
    r.read c = { r with line := r.line ++ squeeze [c] } :=
  if_neg (mt List.contains_iff_mem.1 h)

theorem readAll_lineEnd {e : Text} (h : e ∈ lineEnds) : r.readAll e = r.close := by
  by_cases pair : e = ['\r', '\n']
  · subst pair
    have both : ['\r'] ∈ lineEnds ∧ ['\n'] ∈ lineEnds := by decide
    show (r.read '\r').read '\n' = r.close
    rw [read_of_mem both.1, read_of_mem both.2, close_close]
  · have single : ∀ e ∈ lineEnds, e ≠ ['\r', '\n'] → e.length = 1 := by decide
    obtain ⟨c, rfl⟩ := List.length_eq_one_iff.1 (single e h pair)
    exact read_of_mem h

/-- A line is read up to its end without its blanks. -/
theorem readAll_of_one {line : Text} (one : ∀ c ∈ line, [c] ∉ lineEnds) :
    r.readAll line = ⟨r.behind, r.line ++ squeeze line⟩ := by
  induction line generalizing r with
  | nil => simp [readAll, squeeze]
  | cons c line ih =>
    obtain ⟨hc, one⟩ := List.forall_mem_cons.1 one
    have whole : squeeze (c :: line) = squeeze [c] ++ squeeze line := squeeze_append [c] line
    show (r.read c).readAll line = _
    rw [ih one, read_of_not_mem hc, whole, List.append_assoc]

end Reading

/-- A line that holds no rule holds none without its blanks. -/
theorem Idle.holdsRule {line : Text} (h : Idle line) : holdsRule (squeeze line) = false := by
  have nothing {blanks : Text} (hb : ∀ c ∈ blanks, isBlank c = true) : squeeze blanks = [] := by
    rw [squeeze, List.filter_eq_nil_iff]
    intro c hc
    simp [hb c hc]
  rcases h with hb | ⟨blanks, sign, comment, rfl, hb, hs⟩
  · rw [nothing hb]
    rfl
  · have visible : isBlank sign = false := by
      rcases Bool.or_eq_true_iff.1 hs with hs | hs
      · rw [of_decide_eq_true hs]
        rfl
      · rw [of_decide_eq_true hs]
        rfl
    rw [squeeze_append, nothing hb, squeeze, List.filter_cons_of_pos (by simp [visible])]
    simp [Rule.holdsRule, hs]

/-! ## Reading by lines -/

/-- The characters that end lines are a carriage return and those at which lines are cut once
carriage returns are gone. -/
theorem mem_lineEnds_iff (c : Char) : [c] ∈ lineEnds ↔ c = '\r' ∨ isLineEnd c = true := by
  have forth : ∀ e ∈ lineEnds, ∀ c ∈ e, c = '\r' ∨ isLineEnd c = true := by
    simp [lineEnds, isLineEnd]
  have back : ∀ n ∈ [10, 11, 12, 0x1C, 0x1D, 0x1E, 0x85, 0x2028, 0x2029],
      [Char.ofNat n] ∈ lineEnds := by decide
  constructor
  · intro h
    exact forth _ h c (List.mem_singleton_self c)
  · rintro (rfl | h)
    · decide
    · rw [← Char.ofNat_toNat c]
      apply back
      simp [isLineEnd] at h ⊢
      omega

/-- The lines of a text with another one in front that does not end a line. -/
def attach (front : Text) : List Text → List Text
  | [] => [front]
  | line :: more => (front ++ line) :: more

theorem held_cons (raw : Text) (lines : List Text) :
    held (raw :: lines) = [squeeze raw].filter holdsRule ++ held lines := by
  rw [held, List.map_cons, ← List.singleton_append, List.filter_append]
  rfl

theorem held_attach_nil (lines : List Text) : held (attach [] lines) = held lines := by
  cases lines <;> rfl

theorem attach_attach (front back : Text) (lines : List Text) :
    attach front (attach back lines) = attach (front ++ back) lines := by
  cases lines with
  | nil => rfl
  | cons line more => simp [attach]

theorem lines_cons_of_end {c : Char} (h : isLineEnd c = true) (t : Text) :
    lines (c :: t) = [] :: lines t := by
  rw [lines, if_pos h]

theorem lines_cons_of_not_end {c : Char} (h : ¬isLineEnd c = true) (t : Text) :
    lines (c :: t) = attach [c] (lines t) := by
  rw [lines, if_neg h]
  cases lines t <;> rfl

/-- Reading by characters gives the lines that hold something. The current line is `raw` so far. -/
theorem Reading.close_readAll {r : Reading} {raw : Text} (hr : r.line = squeeze raw) (t : Text) :
    (r.readAll t).close = ⟨r.behind ++ held (attach raw (lines (unifyEnds t))), []⟩ := by
  have ended {r : Reading} {raw : Text} (hr : r.line = squeeze raw) {u : Text}
      {rest : List Text} (ih : (r.close.readAll u).close =
        ⟨r.close.behind ++ held (attach [] rest), []⟩) :
      (r.close.readAll u).close = ⟨r.behind ++ held (attach raw ([] :: rest)), []⟩ := by
    rw [ih, held_attach_nil, attach, List.append_nil, held_cons, close, hr, List.append_assoc]
  fun_induction unifyEnds t generalizing r raw with
  | case1 =>
    rw [readAll, List.foldl_nil, close, hr]
    rfl
  | case2 rest ih =>
    have read : r.readAll ('\r' :: '\n' :: rest) = r.close.readAll rest := by
      rw [← readAll_lineEnd (e := ['\r', '\n']) (by decide), ← readAll_append]
      rfl
    rw [read, lines_cons_of_end (by decide)]
    exact ended hr (ih rfl)
  | case3 c rest _ ih =>
    have read : r.readAll (c :: rest) = (r.read c).readAll rest := rfl
    by_cases hc : [c] ∈ lineEnds
    · have cut : isLineEnd (if c = '\r' then '\n' else c) = true := by
        rcases (mem_lineEnds_iff c).1 hc with rfl | h
        · decide
        · split
          · decide
          · exact h
      rw [read, read_of_mem hc, lines_cons_of_end cut]
      exact ended hr (ih rfl)
    · have plain : ¬(c = '\r' ∨ isLineEnd c = true) := mt (mem_lineEnds_iff c).2 hc
      rw [not_or] at plain
      rw [read, if_neg plain.1, lines_cons_of_not_end plain.2, attach_attach, read_of_not_mem hc]
      apply ih
      rw [hr, squeeze_append]

/-- The lines of a text that hold something are those read by characters. -/
theorem behind_close_readAll (t : Text) :
    ((Reading.mk [] []).readAll t).close.behind = held (lines (unifyEnds t)) := by
  have fresh : (Reading.mk [] []).line = squeeze [] := rfl
  rw [Reading.close_readAll fresh, held_attach_nil]
  rfl

/-- An edit leads back to the same place. -/
theorem Edit.held_eq {t t' : Text} (h : Edit t t') :
    held (lines (unifyEnds t)) = held (lines (unifyEnds t')) := by
  rw [← behind_close_readAll, ← behind_close_readAll]
  congr 1
  cases h with
  | lineEnd front back he he' =>
    simp only [Reading.readAll_append, Reading.readAll_lineEnd he, Reading.readAll_lineEnd he']
  | @blank front back c hc within =>
    have same (r : Reading) : r.readAll [c] = r := by
      show r.read c = r
      rw [Reading.read_of_not_mem within]
      simp [squeeze, hc]
    rw [List.append_cons]
    simp only [Reading.readAll_append, same]
  | line front back start one idle he =>
    have fresh : ((Reading.mk [] []).readAll front).line = [] := by
      rcases start with rfl | ⟨before, e', he', rfl⟩
      · rfl
      · rw [Reading.readAll_append, Reading.readAll_lineEnd he']
        rfl
    have stays {r : Reading} (hr : r.line = []) {line e : Text} (one : ∀ c ∈ line, [c] ∉ lineEnds)
        (idle : Idle line) (he : e ∈ lineEnds) : (r.readAll line).readAll e = r := by
      rw [Reading.readAll_of_one one, hr, List.nil_append, Reading.readAll_lineEnd he,
        Reading.close_of_line idle.holdsRule, ← hr]
    simp only [Reading.readAll_append, stays fresh one idle he]
  | last t he =>
    rw [Reading.readAll_append, Reading.readAll_lineEnd he, Reading.close_close]

theorem Relaid.held_eq {t t' : Text} (h : Relaid t t') :
    held (lines (unifyEnds t)) = held (lines (unifyEnds t')) := by
  induction h with
  | rel _ _ edit => exact edit.held_eq
  | refl => rfl
  | symm _ _ _ ih => exact ih.symm
  | trans _ _ _ _ _ ih ih' => exact ih.trans ih'

/-- What a line is does not hang on its blanks. -/
theorem Line.read_squeeze (raw : Text) : Line.read (squeeze raw) = Line.read raw := by
  rw [Line.read, Line.read, squeeze_squeeze]

/-- A text that was written in UTF-8 is loaded as its lines. -/
theorem linesOfBytes?_encode (t : Text) :
    linesOfBytes? (Utf8.encode t) = some (lines (unifyEnds t)) := by
  rw [linesOfBytes?, Utf8.decode?_encode]
  rfl

theorem Line.read_eq_skipped_iff (raw : Text) :
    Line.read raw = .skipped ↔ holdsRule (squeeze raw) = false := by
  rw [Line.read_eq]
  by_cases word : squeeze raw = terminatorWord
  · rw [word]
    decide
  · rw [if_neg word]
    cases holdsRule (squeeze raw) <;> simp

end Rule

namespace Candidate

open Rule

variable {domain : Domain}

/-! ## Streams -/

namespace Stream

/-- Reading up to the next rule, or the terminator, needs only the lines that hold something. -/
theorem nextRule_held (number : Nat) (lines : List Text) :
    nextRule number lines = nextRule number (held lines) ∨
      ∃ i w rest number', rest.length < lines.length ∧
        nextRule number lines = .item i ⟨w, rest, number'⟩ ∧
        nextRule number (held lines) = .item i ⟨w, held rest, number'⟩ := by
  induction lines with
  | nil => exact .inl rfl
  | cons raw lines ih =>
    rw [held_cons, nextRule]
    by_cases skipped : Line.read raw = .skipped
    · rw [skipped, List.filter_cons_of_neg (by simp [(Line.read_eq_skipped_iff raw).1 skipped])]
      rcases ih with same | ⟨i, w, rest, number', shorter, long, short⟩
      · exact .inl same
      · exact .inr ⟨i, w, rest, number', Nat.lt_succ_of_lt shorter, long, short⟩
    · have holds : holdsRule (squeeze raw) = true := by
        simpa using mt (Line.read_eq_skipped_iff raw).2 skipped
      rw [List.filter_cons_of_pos holds, List.filter_nil, List.singleton_append, nextRule,
        Line.read_squeeze]
      cases kind : Line.read raw with
      | skipped => exact absurd kind skipped
      | terminator => exact .inr ⟨_, _, [], number, Nat.succ_pos _, rfl, rfl⟩
      | rule text =>
        simp only
        cases compile text with
        | error e => exact .inl rfl
        | ok tokens => exact .inr ⟨_, _, lines, number + 1, Nat.lt_succ_self _, rfl, rfl⟩

/-- A stream gives what it gives of the lines that hold something, log entries included. -/
theorem items_held (w : Walk) (lines : List Text) (number : Nat) :
    items domain ⟨w, lines, number⟩ = items domain ⟨w, held lines, number⟩ := by
  rw [items_eq, items_eq ⟨w, held lines, number⟩, next, next]
  cases h : w.next? domain with
  | error e => rfl
  | ok given =>
    rcases given with - | ⟨text, rest⟩
    · simp only
      rcases nextRule_held number lines with same | ⟨i, w', rest, number', shorter, long, short⟩
      · rw [same]
      · rw [long, short]
        simp only [items_held w' rest number']
    · simp only [items_held rest lines number]
termination_by (lines.length, w.weight domain)
decreasing_by
  · exact Prod.Lex.left _ _ shorter
  · exact Prod.Lex.right _ (Walk.weight_of_next? h)

end Stream

/-- Rule files that differ in their layout only, written in UTF-8, can be loaded, and for every
domain they give the same candidates in the same order, end in the same way, and note the same. -/
theorem items_relaid (domain : Domain) {t t' : Text} (h : Relaid t t') :
    ∃ lines lines', linesOfBytes? (Utf8.encode t) = some lines ∧
      linesOfBytes? (Utf8.encode t') = some lines' ∧
      (Stream.ofLines lines).items domain = (Stream.ofLines lines').items domain := by
  refine ⟨_, _, linesOfBytes?_encode t, linesOfBytes?_encode t', ?_⟩
  rw [Stream.ofLines, Stream.items_held, h.held_eq, ← Stream.items_held]
  rfl

/-- A line ended otherwise, a blank in the word that ends the rules, a comment in front, and a last
line that is not ended any more. -/
theorem items_relaid_mixed :
    let t := "a%La,b%\r\nEoF\nx\n".toList
    let t' := "# c\ra%La,b%\x0bE oF\nx".toList
    Relaid t t' ∧ ∃ lines lines', linesOfBytes? (Utf8.encode t) = some lines ∧
      linesOfBytes? (Utf8.encode t') = some lines' ∧ lines ≠ lines' ∧
      (Stream.ofLines lines).items ⟨['d']⟩ = (Stream.ofLines lines').items ⟨['d']⟩ ∧
      ((Stream.ofLines lines').items ⟨['d']⟩).selectors = ["aa", "ab"].map fun x => x.toList := by
  intro t t'
  have ended : Edit t "a%La,b%\x0bEoF\nx\n".toList :=
    .lineEnd "a%La,b%".toList "EoF\nx\n".toList (show "\r\n".toList ∈ lineEnds by decide)
      (show "\x0b".toList ∈ lineEnds by decide)
  have spaced : Edit "a%La,b%\x0bEoF\nx\n".toList "a%La,b%\x0bE oF\nx\n".toList :=
    .blank "a%La,b%\x0bE".toList "oF\nx\n".toList (c := ' ') (by decide) (by decide)
  have one : ∀ c ∈ "# c".toList, [c] ∉ lineEnds := by simp [lineEnds]
  have comment : Idle "# c".toList :=
    .inr ⟨[], '#', " c".toList, by decide, nofun, by decide⟩
  have commented : Edit "a%La,b%\x0bE oF\nx\n".toList "# c\ra%La,b%\x0bE oF\nx\n".toList :=
    .line [] "a%La,b%\x0bE oF\nx\n".toList (e := "\r".toList) (.inl rfl) one comment (by decide)
  have unended : Edit t' "# c\ra%La,b%\x0bE oF\nx\n".toList :=
    .last t' (e := "\n".toList) (by decide)
  have relaid : Relaid t t' :=
    .trans _ _ _ (.trans _ _ _ (.trans _ _ _ (.rel _ _ ended) (.rel _ _ spaced))
      (.rel _ _ commented)) (.symm _ _ (.rel _ _ unended))
  obtain ⟨lines, lines', hl, hl', same⟩ := items_relaid ⟨['d']⟩ relaid
  refine ⟨relaid, lines, lines', hl, hl', ?_, same, ?_⟩
  · rw [linesOfBytes?_encode] at hl hl'
    rw [← Option.some.inj hl, ← Option.some.inj hl']
    decide
  · rw [linesOfBytes?_encode] at hl'
    rw [← Option.some.inj hl', (Stream.items_ofLines _ _).1]
    decide +kernel

end Candidate

end SelectorScan
