import Mathlib.Data.List.Chain
import SelectorScan.Proofs.Rule.Directive
import SelectorScan.Proofs.Rule.Pair

/-!
# What a line compiles to

A line, without its blanks, is refused when one of its pairs of percent signs encloses a capital
letter and no directive of that letter accepts what follows it (`Refused`). Any other line is cut
into tokens with nothing left over, each pair with a capital letter making one (`Parsing`), and the
tokens can be written and compiled again:

    (∃ e, compile line = .error e) ↔ Refused (squeeze line)
    compile line = .ok tokens → compile (source tokens) = .ok tokens   (compile_refuses_or_parses)

All of this follows from what one pair and the text in front of it do (`compilePieces_cons`).
-/

namespace SelectorScan.Rule

open Text

/-! ## Tokens in a text -/

def Token.isLiteral : Token → Bool
  | .literal _ => true
  | _ => false

/-- What a token is read from: a literal from its own text, which is not empty, and any other from
the span of a directive that builds it. -/
inductive Token.ReadFrom : Token → Text → Prop where
  | literal {text : Text} (filled : text ≠ []) : ReadFrom (.literal text) text
  | directive {d : Directive} {body : Text} {token : Token}
      (built : d.token? (arguments body) = some token) :
      ReadFrom token (enclose (d.letter :: body))

/-- Tokens with the texts they are read from. -/
abbrev Parts := List (Token × Text)

def Parts.text (parts : Parts) : Text :=
  parts.flatMap Prod.snd

/-- One of the parts is the span of a directive; with the text of the parts before and after it. -/
def Parts.HasSpan (parts : Parts) (before span after : Text) : Prop :=
  ∃ (front : Parts) (token : Token) (back : Parts), parts = front ++ (token, span) :: back ∧
    token.isLiteral = false ∧ front.text = before ∧ back.text = after

/-- The parts make up the text: each is what its token is read from, literals have something else
between them, and the directives are the pairs that enclose a capital letter in front. -/
structure Parsing (s : Text) (parts : Parts) : Prop where
  text : parts.text = s
  read : ∀ part ∈ parts, part.1.ReadFrom part.2
  apart : parts.IsChain fun a b => (a.1.isLiteral && b.1.isLiteral) = false
  paired : ∀ before letter body after, letter.isUpper = true →
    (IsPair s before (letter :: body) after ↔ parts.HasSpan before (enclose (letter :: body)) after)

/-- The text has a pair around a capital letter and a text that no directive of this letter
accepts. -/
def Refused (s : Text) : Prop :=
  ∃ before letter body after, IsPair s before (letter :: body) after ∧ letter.isUpper = true ∧
    ∀ d : Directive, d.letter = letter → ¬d.Accepts body

/-! ## One part -/

theorem isLiteral_of_token? {d : Directive} {args : List Text} {token : Token}
    (h : d.token? args = some token) : token.isLiteral = false := by
  cases d with
  | range =>
    obtain ⟨first, last, -, rfl, -⟩ := token?_range_iff.1 h
    rfl
  | domainParts =>
    obtain ⟨indexes, -, rfl, -⟩ := token?_domainParts_iff.1 h
    rfl
  | items =>
    cases h
    rfl
  | optional =>
    obtain ⟨suffix, -, rfl⟩ := token?_optional_iff.1 h
    rfl

theorem Token.ReadFrom.cases_literal {token : Token} {t : Text} (h : token.ReadFrom t) :
    token = .literal t ∨ token.isLiteral = false := by
  cases h with
  | literal => exact .inl rfl
  | directive built => exact .inr (isLiteral_of_token? built)

theorem consPlain_literal {t : Text} (filled : t ≠ []) (more : Text) (rest : List Token) :
    consPlain t (.literal more :: rest) = .literal (t ++ more) :: rest := by
  rw [consPlain, List.isEmpty_eq_false_iff.2 filled, if_neg Bool.false_ne_true]

theorem consPlain_of_head {t : Text} (filled : t ≠ []) {tokens : List Token}
    (h : ∀ token ∈ tokens.head?, token.isLiteral = false) :
    consPlain t tokens = .literal t :: tokens := by
  unfold consPlain
  rw [List.isEmpty_eq_false_iff.2 filled, if_neg Bool.false_ne_true]
  split
  · exact absurd (h _ rfl) (by simp [Token.isLiteral])
  · rfl

namespace Parts

variable {parts : Parts} {token : Token} {t before span after : Text}

@[simp] theorem text_cons (part : Token × Text) (parts : Parts) :
    text (part :: parts) = part.2 ++ text parts := rfl

theorem not_hasSpan_nil : ¬HasSpan [] before span after := by
  rintro ⟨front, token, back, h, -⟩
  cases front <;> cases h

/-- A part in front moves the spans of the others behind it. -/
theorem hasSpan_cons :
    HasSpan ((token, t) :: parts) before span after ↔
      (token.isLiteral = false ∧ before = [] ∧ span = t ∧ after = parts.text) ∨
        ∃ before', before = t ++ before' ∧ parts.HasSpan before' span after := by
  constructor
  · rintro ⟨front, token', back, h, directive, rfl, rfl⟩
    cases front with
    | nil =>
      cases h
      exact .inl ⟨directive, rfl, rfl, rfl⟩
    | cons part front =>
      cases h
      exact .inr ⟨text front, rfl, front, token', back, rfl, directive, rfl, rfl⟩
  · rintro (⟨directive, rfl, rfl, rfl⟩ | ⟨_, rfl, front, token', back, rfl, directive, rfl, rfl⟩)
    · exact ⟨[], token, parts, rfl, directive, rfl, rfl⟩
    · exact ⟨(token, t) :: front, token', back, rfl, directive, rfl, rfl⟩

theorem hasSpan_cons_literal {text' : Text} :
    HasSpan ((.literal text', t) :: parts) before span after ↔
      ∃ before', before = t ++ before' ∧ parts.HasSpan before' span after := by
  rw [hasSpan_cons]
  simp [Token.isLiteral]

end Parts

theorem parsing_nil : Parsing [] [] where
  text := rfl
  read := nofun
  apart := .nil
  paired := fun _ _ _ _ _ =>
    iff_of_false (not_isPair (Nat.zero_le 1)) Parts.not_hasSpan_nil

/-- The pairs of a text that enclose a capital letter are those of the text behind `t`. -/
def Skips (t s : Text) : Prop :=
  ∀ before letter body after, letter.isUpper = true →
    (IsPair (t ++ s) before (letter :: body) after ↔
      ∃ before', before = t ++ before' ∧ IsPair s before' (letter :: body) after)

namespace Parsing

variable {s t : Text} {parts : Parts}

/-- Plain text in front of a literal joins it. -/
theorem joinLiteral {more : Text} (h : Parsing s ((.literal more, more) :: parts)) (filled : t ≠ [])
    (skips : Skips t s) : Parsing (t ++ s) ((.literal (t ++ more), t ++ more) :: parts) where
  text := by rw [← h.text, Parts.text_cons, Parts.text_cons, List.append_assoc]
  read := by
    intro part hp
    rcases List.mem_cons.1 hp with rfl | hp
    · exact .literal (List.append_ne_nil_of_left_ne_nil filled more)
    · exact h.read part (List.mem_cons_of_mem _ hp)
  apart := List.isChain_cons.2 (List.isChain_cons.1 h.apart)
  paired := by
    intro before letter body after capital
    rw [skips before letter body after capital, Parts.hasSpan_cons_literal]
    constructor
    · rintro ⟨_, rfl, pair⟩
      rw [h.paired _ _ _ _ capital, Parts.hasSpan_cons_literal] at pair
      obtain ⟨before', rfl, span⟩ := pair
      exact ⟨before', (List.append_assoc t more before').symm, span⟩
    · rintro ⟨before', rfl, span⟩
      refine ⟨more ++ before', List.append_assoc t more before', ?_⟩
      rw [h.paired _ _ _ _ capital, Parts.hasSpan_cons_literal]
      exact ⟨before', rfl, span⟩

/-- Plain text in front of anything else becomes a literal. -/
theorem consLiteral (h : Parsing s parts) (filled : t ≠ [])
    (other : ∀ part ∈ parts.head?, part.1.isLiteral = false) (skips : Skips t s) :
    Parsing (t ++ s) ((.literal t, t) :: parts) where
  text := by rw [Parts.text_cons, h.text]
  read := by
    intro part hp
    rcases List.mem_cons.1 hp with rfl | hp
    · exact .literal filled
    · exact h.read part hp
  apart := by
    refine h.apart.cons ?_
    intro part hp
    rw [other part hp, Bool.and_false]
  paired := by
    intro before letter body after capital
    simp only [skips before letter body after capital, Parts.hasSpan_cons_literal,
      h.paired _ _ _ _ capital]

/-- Plain text in front of a text becomes a literal or joins one. -/
theorem consPlain (h : Parsing s parts) (skips : Skips t s) :
    ∃ parts' : Parts, parts'.map Prod.fst = Rule.consPlain t (parts.map Prod.fst) ∧
      Parsing (t ++ s) parts' := by
  by_cases filled : t = []
  · rw [filled]
    exact ⟨parts, rfl, h⟩
  by_cases joins : ∃ more rest, parts = (.literal more, more) :: rest
  · obtain ⟨more, rest, rfl⟩ := joins
    exact ⟨(.literal (t ++ more), t ++ more) :: rest, (consPlain_literal filled more _).symm,
      h.joinLiteral filled skips⟩
  · have other : ∀ part ∈ parts.head?, part.1.isLiteral = false := by
      intro part hp
      cases parts with
      | nil => cases hp
      | cons first rest =>
        cases hp
        rcases (h.read part List.mem_cons_self).cases_literal with literal | other
        · exact absurd ⟨part.2, rest, by rw [← literal]⟩ joins
        · exact other
    refine ⟨(.literal t, t) :: parts, (consPlain_of_head filled ?_).symm,
      h.consLiteral filled other skips⟩
    intro token ht
    rw [List.head?_map] at ht
    obtain ⟨part, hp, rfl⟩ := Option.mem_map.1 ht
    exact other part hp

/-- The span of a directive in front of a text becomes its token. -/
theorem consDirective {body : Text} {d : Directive} {token : Token} (h : Parsing s parts)
    (free : '%' ∉ d.letter :: body)
    (built : d.token? (arguments body) = some token) :
    Parsing (enclose (d.letter :: body) ++ s) ((token, enclose (d.letter :: body)) :: parts) where
  text := by rw [Parts.text_cons, h.text]
  read := by
    intro part hp
    rcases List.mem_cons.1 hp with rfl | hp
    · exact .directive built
    · exact h.read part hp
  apart := by
    refine h.apart.cons ?_
    intro part hp
    simp only [isLiteral_of_token? built, Bool.false_and]
  paired := by
    intro before letter rest after capital
    have same : enclose (letter :: rest) = enclose (d.letter :: body) ↔
        letter :: rest = d.letter :: body := by
      constructor
      · intro e
        exact List.append_cancel_right (List.cons.inj e).2
      · intro e
        rw [e]
    rw [isPair_enclose free, Parts.hasSpan_cons, same, h.text]
    simp only [isLiteral_of_token? built, true_and, h.paired _ _ _ _ capital]

end Parsing

/-! ## Lines -/

theorem not_exists_ok_eq_error {α ε : Type} {a : α} : ¬∃ e : ε, Except.ok a = .error e := by
  rintro ⟨e, he⟩
  cases he

theorem map_eq_ok_iff {α β ε : Type} {x : Except ε α} {f : α → β} {b : β} :
    x.map f = .ok b ↔ ∃ a, x = .ok a ∧ f a = b := by
  cases x <;> simp [Except.map]

theorem exists_map_eq_error_iff {α β ε : Type} {x : Except ε α} {f : α → β} :
    (∃ e, x.map f = .error e) ↔ ∃ e, x = .error e := by
  cases x <;> simp [Except.map]

/-- Every segment is clean, as what stands between the percent signs of a line is. -/
def Segments (segments : List Text) : Prop :=
  ∀ segment ∈ segments, Clean segment

/-- What compiling does with the text in front of the first pair, the pair and all behind it. -/
theorem compilePieces_cons (before body : Text) {rest : List Text} (more : rest ≠ []) :
    compilePieces (piecesOfSegments (before :: body :: rest)) =
      match readDirective (enclose body) with
      | .error e => .error e
      | .ok none => (compilePieces (piecesOfSegments rest)).map fun tokens =>
          consPlain before (consPlain (enclose body) tokens)
      | .ok (some token) => (compilePieces (piecesOfSegments rest)).map fun tokens =>
          consPlain before (token :: tokens) := by
  obtain ⟨next, rest, rfl⟩ := List.exists_cons_of_ne_nil more
  rw [piecesOfSegments, compilePieces, compilePieces]
  · cases readDirective (enclose body) with
    | error e => rfl
    | ok found =>
      cases found with
      | none =>
        simp only
        cases compilePieces (piecesOfSegments (next :: rest)) <;> rfl
      | some token =>
        simp only
        cases compilePieces (piecesOfSegments (next :: rest)) <;> rfl
  · intro e
    cases e

theorem join_pair (before body : Text) {rest : List Text} (more : rest ≠ []) :
    join ['%'] (before :: body :: rest) = before ++ (enclose body ++ join ['%'] rest) := by
  rw [join_cons (List.cons_ne_nil _ _), join_cons more]
  simp [enclose]

theorem skips_of_free {t : Text} (free : '%' ∉ t) (s : Text) : Skips t s :=
  fun _ _ _ _ _ => isPair_append free

theorem skips_of_few {t : Text} (few : t.count '%' ≤ 1) : Skips t [] := by
  intro before letter body after _
  rw [List.append_nil]
  refine iff_of_false (not_isPair few) ?_
  rintro ⟨_, -, pair⟩
  exact not_isPair (s := []) (Nat.zero_le 1) pair

theorem skips_enclose {body : Text} (free : '%' ∉ body)
    (plain : ∀ letter rest, body = letter :: rest → letter.isUpper = false) (s : Text) :
    Skips (enclose body) s := by
  intro before letter rest after capital
  rw [isPair_enclose free, or_iff_right]
  rintro ⟨-, e, -⟩
  rw [plain letter rest e.symm] at capital
  cases capital

theorem Skips.refused_iff {t s : Text} (skips : Skips t s) : Refused (t ++ s) ↔ Refused s := by
  constructor
  · rintro ⟨before, letter, body, after, pair, capital, bad⟩
    obtain ⟨before', -, pair'⟩ := (skips before letter body after capital).1 pair
    exact ⟨before', letter, body, after, pair', capital, bad⟩
  · rintro ⟨before, letter, body, after, pair, capital, bad⟩
    exact ⟨t ++ before, letter, body, after,
      (skips _ letter body after capital).2 ⟨before, rfl, pair⟩, capital, bad⟩

theorem not_refused {s : Text} (few : s.count '%' ≤ 1) : ¬Refused s := by
  rintro ⟨before, letter, body, after, pair, -⟩
  exact not_isPair few pair

theorem refused_enclose {letter : Char} {body : Text} (free : '%' ∉ letter :: body)
    (capital : letter.isUpper = true) (s : Text) :
    Refused (enclose (letter :: body) ++ s) ↔
      (∀ d : Directive, d.letter = letter → ¬d.Accepts body) ∨ Refused s := by
  constructor
  · rintro ⟨before, letter', body', after, pair, capital', bad⟩
    rcases (isPair_enclose free).1 pair with ⟨-, e, -⟩ | ⟨before', -, pair'⟩
    · cases e
      exact .inl bad
    · exact .inr ⟨before', letter', body', after, pair', capital', bad⟩
  · rintro (bad | ⟨before, letter', body', after, pair, capital', bad⟩)
    · exact ⟨[], letter, body, s, (isPair_enclose free).2 (.inl ⟨rfl, rfl, rfl⟩), capital, bad⟩
    · exact ⟨_, letter', body', after, (isPair_enclose free).2 (.inr ⟨before, rfl, pair⟩),
        capital', bad⟩

/-- Compiling fails when a pair is refused. -/
theorem exists_error_iff {segments : List Text} (clean : Segments segments) :
    (∃ e, compilePieces (piecesOfSegments segments) = .error e) ↔
      Refused (join ['%'] segments) := by
  induction segments using piecesOfSegments.induct with
  | case1 => exact iff_of_false not_exists_ok_eq_error (not_refused (Nat.zero_le 1))
  | case2 last =>
    have none := List.count_eq_zero.2 (clean last List.mem_cons_self).free
    refine iff_of_false not_exists_ok_eq_error (not_refused ?_)
    rw [join, none]
    exact Nat.zero_le 1
  | case3 before last =>
    have none := List.count_eq_zero.2 (clean before List.mem_cons_self).free
    have none' := List.count_eq_zero.2 (clean last (by simp)).free
    refine iff_of_false not_exists_ok_eq_error (not_refused ?_)
    simp [join, none, none']
  | case4 before body rest more ih =>
    have ih := ih fun segment hs => clean segment (by simp [hs])
    have free := (clean before List.mem_cons_self).free
    have clean' := clean body (by simp)
    rw [compilePieces_cons before body more, join_pair before body more,
      (skips_of_free free _).refused_iff]
    rcases readDirective_cases clean' with ⟨plain, hr⟩ | ⟨letter, b, rfl, capital, bad, e, hr⟩ |
      ⟨d, b, token, rfl, built, hr⟩
    · rw [hr, (skips_enclose clean'.free plain _).refused_iff, ← ih]
      exact exists_map_eq_error_iff
    · rw [hr, refused_enclose clean'.free capital]
      exact iff_of_true ⟨e, rfl⟩ (.inl bad)
    · have good : ¬∀ d' : Directive, d'.letter = d.letter → ¬d'.Accepts b :=
        fun bad => bad d rfl (exists_token?_iff.1 ⟨token, built⟩)
      rw [hr, refused_enclose clean'.free (isUpper_letter d), or_iff_right good, ← ih]
      exact exists_map_eq_error_iff

/-- Compiled pieces make up the text they were cut from. -/
theorem exists_parsing {segments : List Text} (clean : Segments segments) {tokens : List Token}
    (h : compilePieces (piecesOfSegments segments) = .ok tokens) :
    ∃ parts : Parts, parts.map Prod.fst = tokens ∧ Parsing (join ['%'] segments) parts := by
  induction segments using piecesOfSegments.induct generalizing tokens with
  | case1 =>
    cases h
    exact ⟨[], rfl, parsing_nil⟩
  | case2 last =>
    cases h
    have parsed := parsing_nil.consPlain
      (skips_of_free (clean last List.mem_cons_self).free [])
    rwa [List.append_nil] at parsed
  | case3 before last =>
    cases h
    have one : ('%' :: last).count '%' ≤ 1 := by
      rw [List.count_cons_self, List.count_eq_zero.2 (clean last (by simp)).free]
    obtain ⟨parts, hp, parsed⟩ := parsing_nil.consPlain (skips_of_few one)
    have parsed' := parsed.consPlain
      (skips_of_free (clean before List.mem_cons_self).free _)
    rw [hp, List.append_nil] at parsed'
    rw [join_cons (List.cons_ne_nil _ _), join, List.append_assoc]
    exact parsed'
  | case4 before body rest more ih =>
    have ih := @ih fun segment hs => clean segment (by simp [hs])
    have skips := skips_of_free (clean before List.mem_cons_self).free
    have clean' := clean body (by simp)
    rw [compilePieces_cons before body more] at h
    rw [join_pair before body more]
    rcases readDirective_cases clean' with ⟨plain, hr⟩ | ⟨letter, b, -, -, -, e, hr⟩ |
      ⟨d, b, token, rfl, built, hr⟩
    · rw [hr] at h
      obtain ⟨later, hc, rfl⟩ := map_eq_ok_iff.1 h
      obtain ⟨parts, rfl, parsed⟩ := ih hc
      obtain ⟨parts', hp, parsed'⟩ := parsed.consPlain (skips_enclose clean'.free plain _)
      rw [← hp]
      exact parsed'.consPlain (skips _)
    · rw [hr] at h
      cases h
    · rw [hr] at h
      obtain ⟨later, hc, rfl⟩ := map_eq_ok_iff.1 h
      obtain ⟨parts, rfl, parsed⟩ := ih hc
      exact (parsed.consDirective clean'.free built).consPlain (skips _)

/-- The text of compiled tokens is that of segments which compile to them. -/
theorem exists_segments_of_tokens {segments : List Text} (clean : Segments segments)
    {tokens : List Token} (h : compilePieces (piecesOfSegments segments) = .ok tokens) :
    ∃ segments', Segments segments' ∧ (segments ≠ [] → segments' ≠ []) ∧
      join ['%'] segments' = source tokens ∧
      compilePieces (piecesOfSegments segments') = .ok tokens := by
  induction segments using piecesOfSegments.induct generalizing tokens with
  | case1 =>
    cases h
    exact ⟨[], clean, id, rfl, rfl⟩
  | case2 last =>
    cases h
    refine ⟨[last], clean, id, ?_, rfl⟩
    rw [source_consPlain, source_nil, List.append_nil]
    rfl
  | case3 before last =>
    cases h
    refine ⟨[before, last], clean, id, ?_, rfl⟩
    rw [source_consPlain, source_consPlain, source_nil]
    simp [join]
  | case4 before body rest more ih =>
    have ih := @ih fun segment hs => clean segment (by simp [hs])
    have clean' := clean body (by simp)
    rw [compilePieces_cons before body more] at h
    -- whatever body stands for the pair, the text in front and all behind it stay apart from it
    have build {body' : Text} {later : List Token} (clean'' : Clean body')
        (hc : compilePieces (piecesOfSegments rest) = .ok later) :
        ∃ rest', Segments (before :: body' :: rest') ∧ rest' ≠ [] ∧
          join ['%'] (before :: body' :: rest') = before ++ (enclose body' ++ source later) ∧
          compilePieces (piecesOfSegments rest') = .ok later := by
      obtain ⟨rest', segments, filled, text, compiled⟩ := ih hc
      refine ⟨rest', ?_, filled more, by rw [join_pair before body' (filled more), text], compiled⟩
      intro segment hs
      rcases List.mem_cons.1 hs with rfl | hs
      · exact clean segment List.mem_cons_self
      · rcases List.mem_cons.1 hs with rfl | hs
        · exact clean''
        · exact segments segment hs
    rcases readDirective_cases clean' with ⟨-, hr⟩ | ⟨letter, b, -, -, -, e, hr⟩ |
      ⟨d, b, token, rfl, built, hr⟩
    · rw [hr] at h
      obtain ⟨later, hc, rfl⟩ := map_eq_ok_iff.1 h
      obtain ⟨rest', segments, filled, text, compiled⟩ := build clean' hc
      refine ⟨before :: body :: rest', segments, fun _ => List.cons_ne_nil _ _, ?_, ?_⟩
      · rw [text, source_consPlain, source_consPlain]
      · rw [compilePieces_cons before body filled, hr, compiled]
        rfl
    · rw [hr] at h
      cases h
    · rw [hr] at h
      obtain ⟨later, hc, rfl⟩ := map_eq_ok_iff.1 h
      obtain ⟨body', clean'', written, built'⟩ :=
        exists_body_of_token? (fun c hc => clean' c (List.mem_cons_of_mem _ hc)) built
      have hr' := readDirective_of_token? clean''.noFeed built'
      have whole : Clean (d.letter :: body') := by
        intro c hc
        rcases List.mem_cons.1 hc with rfl | hc
        · exact clean' _ List.mem_cons_self
        · exact clean'' c hc
      obtain ⟨rest', segments, filled, text, compiled⟩ := build whole hc
      refine ⟨before :: (d.letter :: body') :: rest', segments, fun _ => List.cons_ne_nil _ _,
        ?_, ?_⟩
      · rw [text, source_consPlain, source_cons, written]
      · rw [compilePieces_cons before _ filled, hr', compiled]
        rfl

/-- A line is refused when it has a pair that is, and otherwise makes tokens that make up the line
and can be written and compiled again. -/
theorem compile_refuses_or_parses (line : Text) :
    ((∃ e, compile line = .error e) ↔ Refused (squeeze line)) ∧
      ∀ tokens, compile line = .ok tokens →
        (∃ parts : Parts, parts.map Prod.fst = tokens ∧ Parsing (squeeze line) parts) ∧
        compile (source tokens) = .ok tokens := by
  have clean : Segments (split '%' (squeeze line)) := by
    intro segment hs c hc
    constructor
    · rintro rfl
      exact not_mem_of_mem_split hs hc
    · have inside := mem_join_of_mem hs ['%'] hc
      rw [join_split] at inside
      exact not_isBlank_of_mem_squeeze inside
  have refused := exists_error_iff clean
  rw [join_split] at refused
  refine ⟨refused, ?_⟩
  intro tokens h
  obtain ⟨parts, hp, parsed⟩ := exists_parsing clean h
  rw [join_split] at parsed
  refine ⟨⟨parts, hp, parsed⟩, ?_⟩
  obtain ⟨segments, clean', filled, text, compiled⟩ := exists_segments_of_tokens clean h
  have solid : squeeze (source tokens) = source tokens := by
    rw [← text, squeeze, List.filter_eq_self]
    intro c hc
    rcases mem_join hc with hc | ⟨segment, hs, hc⟩
    · rw [List.mem_singleton.1 hc]
      decide
    · rw [(clean' segment hs c hc).2]
      rfl
  have cut : split '%' (source tokens) = segments :=
    split_eq_iff.2 ⟨filled (split_ne_nil _ _), fun s hs => (clean' s hs).free, text⟩
  rw [compile, solid, pieces, cut, compiled]

/-- A line with stray signs and indexes in other digits compiles, is written with canonical indexes,
and compiles to the same tokens; a line whose second pair is a range without a last number is
refused. -/
theorem compile_refuses_or_parses_mixed :
    let line := "a %%b%N01,3%%D٣, -0_1%%L,x%%Oz%%c".toList
    let tokens : List Token := [.literal "a%%b".toList, .range ⟨"01".toList, ['3']⟩,
      .domainParts [3, -1], .items [[], ['x']], .optional ['z'], .literal "%c".toList]
    compile line = .ok tokens ∧ source tokens = "a%%b%N01,3%%D3,-1%%L,x%%Oz%%c".toList ∧
      compile (source tokens) = .ok tokens ∧ ∃ e, compile "a%b% %N1%c".toList = .error e := by
  intro line tokens
  have compiled : compile line = .ok tokens := by decide +kernel
  have pair : IsPair (squeeze "a%b% %N1%c".toList) "a%b%".toList ('N' :: ['1']) ['c'] :=
    ⟨by decide, by decide, by decide⟩
  have bad : ∀ d : Directive, d.letter = 'N' → ¬d.Accepts ['1'] := by
    intro d hd accepted
    obtain ⟨token, built⟩ := exists_token?_iff.2 accepted
    obtain rfl : d = .range := by cases d <;> first | rfl | cases hd
    cases built
  refine ⟨compiled, by decide +kernel, ((compile_refuses_or_parses line).2 tokens compiled).2, ?_⟩
  exact (compile_refuses_or_parses _).1.2 ⟨_, 'N', ['1'], ['c'], pair, by decide, bad⟩

end SelectorScan.Rule
