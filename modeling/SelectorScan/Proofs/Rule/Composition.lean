import SelectorScan.Proofs.Rule.Compile

/-!
# Lines one behind the other

When the percent signs of a line all have partners, the line and another one behind it are cut
where they meet, so that each is compiled as if it stood alone. Of the tokens only literals that
come to stand next to each other join (`compose`):

    compile (front ++ back) = compile front, then compile back, the tokens composed  (compile_append)

The line in front is taken pair by pair: plain text in front of a line goes in front of its tokens
(`compilePieces_append`), and so does what a pair makes (`compilePieces_enclose_append`).
-/

namespace SelectorScan.Rule

open Text

/-! ## Tokens one behind the other -/

/-- Puts a token in front of others; a literal in front of a literal joins it. -/
def consToken : Token → List Token → List Token
  | .literal text, tokens => consPlain text tokens
  | token, tokens => token :: tokens

/-- The tokens of two rules one behind the other, with literals joined where they meet. -/
def compose (front back : List Token) : List Token :=
  front.foldr consToken back

theorem consToken_of_directive {token : Token} (h : token.isLiteral = false) (tokens : List Token) :
    consToken token tokens = token :: tokens := by
  cases token <;> first | rfl | cases h

@[simp] theorem compose_nil (back : List Token) : compose [] back = back := rfl

theorem compose_cons (token : Token) (front back : List Token) :
    compose (token :: front) back = consToken token (compose front back) := rfl

@[simp] theorem consPlain_nil (tokens : List Token) : consPlain [] tokens = tokens := rfl

theorem consPlain_append (s t : Text) (tokens : List Token) :
    consPlain (s ++ t) tokens = consPlain s (consPlain t tokens) := by
  by_cases hs : s = []
  · rw [hs, List.nil_append, consPlain_nil]
  by_cases ht : t = []
  · rw [ht, List.append_nil, consPlain_nil]
  have filled : s ++ t ≠ [] := List.append_ne_nil_of_left_ne_nil hs t
  by_cases joins : ∃ more rest, tokens = .literal more :: rest
  · obtain ⟨more, rest, rfl⟩ := joins
    rw [consPlain_literal filled, consPlain_literal ht, consPlain_literal hs, List.append_assoc]
  · have other : ∀ token ∈ tokens.head?, token.isLiteral = false := by
      intro token h
      cases tokens with
      | nil => cases h
      | cons first rest =>
        cases h
        cases token with
        | literal more => exact absurd ⟨more, rest, rfl⟩ joins
        | _ => rfl
    rw [consPlain_of_head filled other, consPlain_of_head ht other, consPlain_literal hs]

/-- Plain text in front of the first tokens stands in front of all. -/
theorem compose_consPlain (t : Text) (front back : List Token) :
    compose (consPlain t front) back = consPlain t (compose front back) := by
  by_cases ht : t = []
  · rw [ht, consPlain_nil, consPlain_nil]
  cases front with
  | nil =>
    rw [consPlain_of_head ht (by rintro _ ⟨⟩), compose_cons]
    rfl
  | cons first rest =>
    cases directive : first.isLiteral with
    | false =>
      rw [consPlain_of_head ht (by rintro _ ⟨⟩; exact directive), compose_cons]
      rfl
    | true =>
      cases first with
      | literal more =>
        rw [consPlain_literal ht, compose_cons, compose_cons]
        exact consPlain_append t more _
      | _ => cases directive

/-! ## Lines one behind the other -/

theorem split_append_of_not_mem {sep : Char} {t : Text} (free : sep ∉ t) {line piece : Text}
    {pieces : List Text} (h : split sep line = piece :: pieces) :
    split sep (t ++ line) = (t ++ piece) :: pieces := by
  induction t with
  | nil => exact h
  | cons c t ih =>
    rw [List.mem_cons, not_or] at free
    exact split_cons (Ne.symm free.1) (ih free.2)

/-- The pieces begin with the first segment as plain text, whatever it is. -/
theorem piecesOfSegments_cons (segments : List Text) :
    ∃ more, ∀ first, piecesOfSegments (first :: segments) = .plain first :: more := by
  match segments with
  | [] => exact ⟨[], fun first => rfl⟩
  | [last] => exact ⟨[.plain ('%' :: last)], fun first => rfl⟩
  | body :: next :: rest =>
    exact ⟨.span (enclose body) :: piecesOfSegments (next :: rest), fun first => rfl⟩

/-- Plain text in front of a line goes in front of its tokens. -/
theorem compilePieces_append {t : Text} (free : '%' ∉ t) (line : Text) :
    compilePieces (pieces (t ++ line)) = (compilePieces (pieces line)).map (consPlain t) := by
  obtain ⟨first, segments, h⟩ := List.exists_cons_of_ne_nil (split_ne_nil '%' line)
  obtain ⟨more, cut⟩ := piecesOfSegments_cons segments
  rw [pieces, pieces, split_append_of_not_mem free h, h, cut, cut, compilePieces, compilePieces]
  cases compilePieces more with
  | error e => rfl
  | ok tokens => exact congrArg Except.ok (consPlain_append t first tokens)

/-- What a pair makes goes in front of the tokens of the line behind it. -/
theorem compilePieces_enclose_append {body : Text} (free : '%' ∉ body) (line : Text) :
    compilePieces (pieces (enclose body ++ line)) =
      match readDirective (enclose body) with
      | .error e => .error e
      | .ok none => (compilePieces (pieces line)).map (consPlain (enclose body))
      | .ok (some token) => (compilePieces (pieces line)).map (token :: ·) := by
  have text : enclose body ++ line = [] ++ '%' :: (body ++ '%' :: line) := by simp [enclose]
  rw [pieces, text, split_append_sep List.not_mem_nil, split_append_sep free,
    compilePieces_cons [] body (split_ne_nil '%' line)]
  rfl

/-- A line of whole pairs and plain text does not reach into the line behind it. -/
theorem compilePieces_join_append {segments : List Text} (filled : segments ≠ [])
    (clean : Segments segments) (even : (join ['%'] segments).count '%' % 2 = 0) (line : Text) :
    compilePieces (pieces (join ['%'] segments ++ line)) =
      (compilePieces (piecesOfSegments segments)).bind fun front =>
        (compilePieces (pieces line)).map (compose front) := by
  -- the induction takes the pairs from the left; the text behind the last one ends it
  induction segments using piecesOfSegments.induct with
  | case1 => exact absurd rfl filled
  | case2 last =>
    rw [join, compilePieces_append (clean last List.mem_cons_self).free]
    show _ = (compilePieces (pieces line)).map (compose (consPlain last []))
    congr 1
    funext tokens
    exact (compose_consPlain last [] tokens).symm
  | case3 before last =>
    -- one percent sign has no partner
    have none := List.count_eq_zero.2 (clean before List.mem_cons_self).free
    have none' := List.count_eq_zero.2 (clean last (by simp)).free
    simp [join, none, none'] at even
  | case4 before body rest more ih =>
    have clean' := clean body (by simp)
    have none := List.count_eq_zero.2 (clean before List.mem_cons_self).free
    have none' := List.count_eq_zero.2 clean'.free
    have ih := ih more (fun segment hs => clean segment (by simp [hs])) (by
      rw [join_pair before body more] at even
      simp only [enclose, List.count_append, List.cons_append, List.count_cons_self, none, none',
        List.count_nil] at even
      omega)
    rw [join_pair before body more, List.append_assoc, List.append_assoc,
      compilePieces_append (clean before List.mem_cons_self).free,
      compilePieces_enclose_append clean'.free, compilePieces_cons before body more]
    rcases readDirective_cases clean' with ⟨-, hr⟩ | ⟨_, _, -, -, -, e, hr⟩ |
      ⟨d, rest', token, -, built, hr⟩
    · rw [hr]
      simp only
      rw [ih]
      cases compilePieces (piecesOfSegments rest) with
      | error e => rfl
      | ok front =>
        cases compilePieces (pieces line) with
        | error e => rfl
        | ok back =>
          show Except.ok (consPlain before (consPlain (enclose body) (compose front back))) = _
          rw [← compose_consPlain, ← compose_consPlain]
          rfl
    · rw [hr]
      rfl
    · rw [hr]
      simp only
      rw [ih]
      cases compilePieces (piecesOfSegments rest) with
      | error e => rfl
      | ok front =>
        cases compilePieces (pieces line) with
        | error e => rfl
        | ok back =>
          show Except.ok (consPlain before (token :: compose front back)) = _
          rw [← consToken_of_directive (isLiteral_of_token? built), ← compose_cons,
            ← compose_consPlain]
          rfl

theorem segments_split_squeeze (line : Text) : Segments (split '%' (squeeze line)) := by
  intro segment hs c hc
  constructor
  · rintro rfl
    exact not_mem_of_mem_split hs hc
  · have inside := mem_join_of_mem hs ['%'] hc
    rw [join_split] at inside
    exact not_isBlank_of_mem_squeeze inside

theorem count_squeeze {c : Char} (solid : isBlank c = false) (t : Text) :
    (squeeze t).count c = t.count c := by
  rw [squeeze, List.count_filter]
  simp only [solid, Bool.not_false]

/-- Behind a line whose percent signs all have partners, a line is compiled on its own. -/
theorem compile_append {front : Text} (even : front.count '%' % 2 = 0) (back : Text) :
    compile (front ++ back) =
      (compile front).bind fun tokens => (compile back).map (compose tokens) := by
  have even' : (join ['%'] (split '%' (squeeze front))).count '%' % 2 = 0 := by
    rw [join_split, count_squeeze (by decide)]
    exact even
  have composed := compilePieces_join_append (split_ne_nil '%' _) (segments_split_squeeze front)
    even' (squeeze back)
  rw [join_split] at composed
  rw [compile, squeeze_append, composed]
  rfl

end SelectorScan.Rule
