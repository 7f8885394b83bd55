import SelectorScan.Proofs.Number.Integer
import SelectorScan.Rule.Source

/-!
# Reading directives

A directive says what its body may be (`Directive.Accepts`), and from such a body, and no other, a
token is built (`exists_token?_iff`). A span is read accordingly: it is plain text, or refused, or
makes a token (`readDirective_cases`). The text of the token makes it again, also where it is not
the span that was read (`exists_body_of_token?`).
-/

namespace SelectorScan.Rule

open Text Number

/-- What the body of a directive may be: for a range two single letters or two integers, for parts
of the domain nothing or one or two integers, for a list anything, and for an optional suffix a text
without commas that is not empty. -/
def Directive.Accepts : Directive → Text → Prop
  | .range, body => ∃ first last, body = first ++ ',' :: last ∧ ',' ∉ first ∧ ',' ∉ last ∧
      ((∃ a b, first = [a] ∧ last = [b] ∧ isLetter a = true ∧ isLetter b = true) ∨
        (readInt? first).isSome ∧ (readInt? last).isSome)
  | .domainParts, body => body = [] ∨ (',' ∉ body ∧ (readInt? body).isSome) ∨
      ∃ first last, body = first ++ ',' :: last ∧ ',' ∉ first ∧ ',' ∉ last ∧
        (readInt? first).isSome ∧ (readInt? last).isSome
  | .items, _ => True
  | .optional, body => body ≠ [] ∧ ',' ∉ body

/-- A text without percent signs and blanks. -/
def Clean (t : Text) : Prop :=
  ∀ c ∈ t, c ≠ '%' ∧ isBlank c = false

theorem Clean.free {t : Text} (h : Clean t) : '%' ∉ t :=
  fun hc => (h _ hc).1 rfl

theorem Clean.noFeed {t : Text} (h : Clean t) : '\n' ∉ t :=
  fun hc => absurd (h _ hc).2 (by decide)

/-! ## Arguments -/

/-- The arguments in a body are the only texts without commas that make the body, a single empty one
not counting. -/
theorem arguments_eq_iff {body : Text} {args : List Text} :
    arguments body = args ↔ join [','] args = body ∧ (∀ a ∈ args, ',' ∉ a) ∧ args ≠ [[]] := by
  cases body with
  | nil =>
    constructor
    · rintro rfl
      exact ⟨rfl, nofun, nofun⟩
    · rintro ⟨text, -, filled⟩
      cases args with
      | nil => rfl
      | cons a rest =>
        cases rest with
        | nil => exact absurd (congrArg (fun t => [t]) text) filled
        | cons b more =>
          rw [join_cons (List.cons_ne_nil _ _)] at text
          simp at text
  | cons c rest =>
    rw [arguments, List.isEmpty_cons, if_neg Bool.false_ne_true, split_eq_iff]
    constructor
    · rintro ⟨-, free, text⟩
      refine ⟨text, free, ?_⟩
      rintro rfl
      cases text
    · rintro ⟨text, free, -⟩
      refine ⟨?_, free, text⟩
      rintro rfl
      cases text

theorem arguments_one {body : Text} (filled : body ≠ []) (free : ',' ∉ body) :
    arguments body = [body] := by
  rw [arguments_eq_iff]
  refine ⟨rfl, ?_, ?_⟩
  · intro a ha
    rw [List.mem_singleton.1 ha]
    exact free
  · intro e
    exact filled (List.singleton_inj.1 e)

theorem arguments_two {first last : Text} (free : ',' ∉ first) (free' : ',' ∉ last) :
    arguments (first ++ ',' :: last) = [first, last] := by
  rw [arguments_eq_iff]
  refine ⟨by simp [join], ?_, nofun⟩
  intro a ha
  rcases List.mem_cons.1 ha with rfl | ha
  · exact free
  · rw [List.mem_singleton.1 ha]
    exact free'

theorem body_of_arguments_one {body a : Text} (h : arguments body = [a]) :
    body = a ∧ a ≠ [] ∧ ',' ∉ a := by
  obtain ⟨text, free, filled⟩ := arguments_eq_iff.1 h
  exact ⟨text.symm, fun e => filled (by rw [e]), free a List.mem_cons_self⟩

theorem body_of_arguments_two {body first last : Text} (h : arguments body = [first, last]) :
    body = first ++ ',' :: last ∧ ',' ∉ first ∧ ',' ∉ last := by
  obtain ⟨text, free, -⟩ := arguments_eq_iff.1 h
  refine ⟨?_, free first List.mem_cons_self, free last (List.mem_cons_of_mem _ List.mem_cons_self)⟩
  rw [← text]
  simp [join]

/-! ## Tokens -/

theorem mapM_readInt?_iff {args : List Text} {indexes : List Int} :
    args.mapM readInt? = some indexes ↔ args.map readInt? = indexes.map some := by
  induction args generalizing indexes with
  | nil => cases indexes <;> simp
  | cons a rest ih =>
    cases ha : readInt? a with
    | none => cases indexes <;> simp [List.mapM_cons, ha]
    | some i =>
      cases indexes with
      | nil => simp [List.mapM_cons, ha, Option.bind_eq_some_iff]
      | cons j more => simp [List.mapM_cons, ha, Option.bind_eq_some_iff, ih, and_comm]

/-- Integers can be read from some texts when each of them is one. -/
theorem exists_map_readInt?_iff {args : List Text} :
    (∃ indexes : List Int, args.map readInt? = indexes.map some) ↔
      ∀ a ∈ args, (readInt? a).isSome = true := by
  induction args with
  | nil => exact ⟨fun _ => nofun, fun _ => ⟨[], rfl⟩⟩
  | cons a rest ih =>
    rw [List.forall_mem_cons, ← ih]
    constructor
    · rintro ⟨indexes, h⟩
      cases indexes with
      | nil => cases h
      | cons i more =>
        obtain ⟨ha, hr⟩ := List.cons.inj h
        exact ⟨by rw [ha]; rfl, more, hr⟩
    · rintro ⟨ha, more, hr⟩
      obtain ⟨i, hi⟩ := Option.isSome_iff_exists.1 ha
      exact ⟨i :: more, by rw [List.map_cons, hi, hr]; rfl⟩

theorem token?_range_iff {args : List Text} {token : Token} :
    Directive.range.token? args = some token ↔ ∃ first last, args = [first, last] ∧
      token = .range ⟨first, last⟩ ∧
      ((⟨first, last⟩ : Range).isLetters || (⟨first, last⟩ : Range).isNumbers) = true := by
  constructor
  · intro h
    match args, h with
    | [first, last], h =>
      simp only [Directive.token?, Option.ite_none_right_eq_some, Option.some.injEq] at h
      exact ⟨first, last, rfl, h.2.symm, h.1⟩
  · rintro ⟨first, last, rfl, rfl, sound⟩
    simp only [Directive.token?, sound, if_true]

theorem token?_domainParts_iff {args : List Text} {token : Token} :
    Directive.domainParts.token? args = some token ↔ ∃ indexes, args.length ≤ 2 ∧
      token = .domainParts indexes ∧ args.map readInt? = indexes.map some := by
  simp only [Directive.token?, Option.ite_none_right_eq_some, Option.map_eq_some_iff,
    mapM_readInt?_iff]
  constructor
  · rintro ⟨few, indexes, read, rfl⟩
    exact ⟨indexes, few, rfl, read⟩
  · rintro ⟨indexes, few, rfl, read⟩
    exact ⟨few, indexes, read, rfl⟩

theorem token?_optional_iff {args : List Text} {token : Token} :
    Directive.optional.token? args = some token ↔ ∃ suffix, args = [suffix] ∧
      token = .optional suffix := by
  constructor
  · intro h
    match args, h with
    | [suffix], h => exact ⟨suffix, rfl, (Option.some.inj h).symm⟩
  · rintro ⟨suffix, rfl, rfl⟩
    rfl

theorem isLetters_iff {first last : Text} :
    (⟨first, last⟩ : Range).isLetters = true ↔
      ∃ a b, first = [a] ∧ last = [b] ∧ isLetter a = true ∧ isLetter b = true := by
  constructor
  · intro h
    match first, last, h with
    | [a], [b], h => exact ⟨a, b, rfl, rfl, by simpa [Range.isLetters] using h⟩
  · rintro ⟨a, b, rfl, rfl, ha, hb⟩
    simp [Range.isLetters, ha, hb]

/-- A token is built from the bodies that the directive accepts and from no others. -/
theorem exists_token?_iff {d : Directive} {body : Text} :
    (∃ token, d.token? (arguments body) = some token) ↔ d.Accepts body := by
  cases d with
  | range =>
    simp only [token?_range_iff, Directive.Accepts, Bool.or_eq_true, isLetters_iff,
      Range.isNumbers, Bool.and_eq_true]
    constructor
    · rintro ⟨_, first, last, ha, -, sound⟩
      obtain ⟨text, free, free'⟩ := body_of_arguments_two ha
      exact ⟨first, last, text, free, free', sound⟩
    · rintro ⟨first, last, rfl, free, free', sound⟩
      exact ⟨_, first, last, arguments_two free free', rfl, sound⟩
  | domainParts =>
    have built : (∃ token, Directive.domainParts.token? (arguments body) = some token) ↔
        (arguments body).length ≤ 2 ∧ ∀ a ∈ arguments body, (readInt? a).isSome = true := by
      simp only [token?_domainParts_iff, ← exists_map_readInt?_iff]
      constructor
      · rintro ⟨_, indexes, few, -, read⟩
        exact ⟨few, indexes, read⟩
      · rintro ⟨few, indexes, read⟩
        exact ⟨_, indexes, few, rfl, read⟩
    rw [built, Directive.Accepts]
    constructor
    · rintro ⟨few, read⟩
      match ha : arguments body with
      | [] => exact .inl (arguments_eq_iff.1 ha).1.symm
      | [a] =>
        obtain ⟨rfl, -, free⟩ := body_of_arguments_one ha
        exact .inr (.inl ⟨free, read body (by simp [ha])⟩)
      | [a, b] =>
        obtain ⟨text, free, free'⟩ := body_of_arguments_two ha
        exact .inr (.inr ⟨a, b, text, free, free', read a (by simp [ha]), read b (by simp [ha])⟩)
      | a :: b :: c :: rest =>
        rw [ha] at few
        simp at few
    · rintro (rfl | ⟨free, read⟩ | ⟨first, last, rfl, free, free', read, read'⟩)
      · exact ⟨Nat.zero_le 2, nofun⟩
      · have filled : body ≠ [] := by
          rintro rfl
          cases read
        rw [arguments_one filled free]
        exact ⟨Nat.le_succ 1, by simpa using read⟩
      · rw [arguments_two free free']
        exact ⟨Nat.le_refl 2, by simpa using ⟨read, read'⟩⟩
  | items => exact ⟨fun _ => trivial, fun _ => ⟨_, rfl⟩⟩
  | optional =>
    simp only [token?_optional_iff, Directive.Accepts]
    constructor
    · rintro ⟨_, suffix, ha, -⟩
      obtain ⟨rfl, filled, free⟩ := body_of_arguments_one ha
      exact ⟨filled, free⟩
    · rintro ⟨filled, free⟩
      exact ⟨_, body, arguments_one filled free, rfl⟩

/-! ## Spans -/

theorem ofLetter?_eq_some_iff {letter : Char} {d : Directive} :
    Directive.ofLetter? letter = some d ↔ d.letter = letter := by
  constructor
  · intro h
    unfold Directive.ofLetter? at h
    split at h <;> cases h <;> rfl
  · rintro rfl
    exact Directive.ofLetter?_letter d

theorem isUpper_letter (d : Directive) : d.letter.isUpper = true := by
  cases d <;> rfl

theorem directiveParts?_enclose {letter : Char} {body : Text} (noFeed : '\n' ∉ body) :
    directiveParts? (enclose (letter :: body)) =
      if letter.isUpper = true then some (letter, body) else none := by
  have parts : (body ++ ['%']).getLast? = some '%' ∧ (body ++ ['%']).dropLast = body ∧
      (body ++ ['%']).contains '\n' = false := by
    refine ⟨List.getLast?_concat, List.dropLast_concat, ?_⟩
    simpa using noFeed
  simp only [enclose, List.cons_append, directiveParts?, parts]
  simp

theorem readDirective_of_token? {d : Directive} {body : Text} {token : Token}
    (noFeed : '\n' ∉ body) (h : d.token? (arguments body) = some token) :
    readDirective (enclose (d.letter :: body)) = .ok (some token) := by
  rw [readDirective, directiveParts?_enclose noFeed, if_pos (isUpper_letter d)]
  simp only [Directive.ofLetter?_letter, h]

/-- A span is plain text when no capital letter stands in front; otherwise it makes a token when a
directive has this letter and accepts what follows it, and is refused when not. -/
theorem readDirective_cases {body : Text} (clean : Clean body) :
    ((∀ letter rest, body = letter :: rest → letter.isUpper = false) ∧
        readDirective (enclose body) = .ok none) ∨
      (∃ letter rest, body = letter :: rest ∧ letter.isUpper = true ∧
        (∀ d : Directive, d.letter = letter → ¬d.Accepts rest) ∧
        ∃ e, readDirective (enclose body) = .error e) ∨
      ∃ (d : Directive) (rest : Text) (token : Token), body = d.letter :: rest ∧
        d.token? (arguments rest) = some token ∧
        readDirective (enclose body) = .ok (some token) := by
  cases body with
  | nil => exact .inl ⟨nofun, by decide⟩
  | cons letter rest =>
    have noFeed : '\n' ∉ rest := fun hc => clean.noFeed (List.mem_cons_of_mem _ hc)
    cases capital : letter.isUpper with
    | false =>
      refine .inl ⟨?_, ?_⟩
      · rintro _ _ ⟨⟩
        exact capital
      · rw [readDirective, directiveParts?_enclose noFeed, capital, if_neg Bool.false_ne_true]
    | true =>
      cases hd : Directive.ofLetter? letter with
      | none =>
        refine .inr (.inl ⟨letter, rest, rfl, capital, ?_,
          .unknownDirective letter (enclose (letter :: rest)), ?_⟩)
        · intro d h
          rw [ofLetter?_eq_some_iff.2 h] at hd
          cases hd
        · rw [readDirective, directiveParts?_enclose noFeed, if_pos capital]
          simp only [hd]
      | some d =>
        obtain rfl := ofLetter?_eq_some_iff.1 hd
        cases ht : d.token? (arguments rest) with
        | some token =>
          exact .inr (.inr ⟨d, rest, token, rfl, ht, readDirective_of_token? noFeed ht⟩)
        | none =>
          refine .inr (.inl ⟨d.letter, rest, rfl, capital, ?_,
            .badArguments d (arguments rest), ?_⟩)
          · intro d' h
            rw [← ofLetter?_eq_some_iff, hd] at h
            cases h
            rw [← exists_token?_iff, ht]
            exact nofun
          · rw [readDirective, directiveParts?_enclose noFeed, if_pos capital]
            simp only [hd, ht]

/-! ## Writing -/

theorem clean_ofInt (i : Int) : Clean (ofInt i) := by
  intro c hc
  refine ⟨?_, not_isBlank_of_mem_ofInt hc⟩
  rintro rfl
  rcases mem_ofInt hc with h | h
  · exact absurd h (by decide)
  · exact absurd h (by decide)

theorem clean_join_ofInt (indexes : List Int) : Clean (join [','] (indexes.map ofInt)) := by
  intro c hc
  rcases mem_join hc with hc | ⟨a, ha, hc⟩
  · rw [List.mem_singleton.1 hc]
    decide
  · obtain ⟨i, -, rfl⟩ := List.mem_map.1 ha
    exact clean_ofInt i c hc

theorem arguments_join_ofInt (indexes : List Int) :
    arguments (join [','] (indexes.map ofInt)) = indexes.map ofInt := by
  refine arguments_eq_iff.2 ⟨rfl, ?_, ?_⟩
  · intro a ha hc
    obtain ⟨i, -, rfl⟩ := List.mem_map.1 ha
    rcases mem_ofInt hc with h | h
    · exact absurd h (by decide)
    · exact absurd h (by decide)
  · intro e
    have blank : [] ∈ indexes.map ofInt := by
      rw [e]
      exact List.mem_cons_self
    obtain ⟨i, -, hi⟩ := List.mem_map.1 blank
    exact ofInt_ne_nil i hi

/-- Integers that were read are read again from their canonical decimals. -/
theorem map_readInt?_ofInt {args : List Text} {indexes : List Int}
    (read : args.map readInt? = indexes.map some) :
    (indexes.map ofInt).map readInt? = indexes.map some := by
  rw [List.map_map]
  apply List.map_congr_left
  intro i hi
  have read' : some i ∈ args.map readInt? := by
    rw [read]
    exact List.mem_map_of_mem hi
  obtain ⟨a, -, ha⟩ := List.mem_map.1 read'
  exact readInt?_ofInt_of_read ha

/-- A token is written as a span from which it is read again. -/
theorem exists_body_of_token? {d : Directive} {body : Text} {token : Token} (clean : Clean body)
    (h : d.token? (arguments body) = some token) :
    ∃ body', Clean body' ∧ token.source = enclose (d.letter :: body') ∧
      d.token? (arguments body') = some token := by
  have text : join [','] (arguments body) = body := (arguments_eq_iff.1 rfl).1
  cases d with
  | range =>
    obtain ⟨first, last, ha, rfl, -⟩ := token?_range_iff.1 h
    exact ⟨body, clean, by rw [← text, ha]; rfl, h⟩
  | domainParts =>
    -- the one directive whose arguments are not kept as they were read
    obtain ⟨indexes, few, rfl, read⟩ := token?_domainParts_iff.1 h
    have lengths := congrArg List.length read
    rw [List.length_map, List.length_map] at lengths
    refine ⟨join [','] (indexes.map ofInt), clean_join_ofInt indexes, rfl, ?_⟩
    rw [arguments_join_ofInt, token?_domainParts_iff]
    exact ⟨indexes, by rw [List.length_map, ← lengths]; exact few, rfl, map_readInt?_ofInt read⟩
  | items =>
    cases h
    exact ⟨body, clean, congrArg (fun t => enclose ('L' :: t)) text, rfl⟩
  | optional =>
    obtain ⟨suffix, ha, rfl⟩ := token?_optional_iff.1 h
    exact ⟨body, clean, by rw [← text, ha]; rfl, h⟩

end SelectorScan.Rule
