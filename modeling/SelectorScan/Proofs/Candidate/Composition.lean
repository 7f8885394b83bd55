import SelectorScan.Proofs.Candidate.Walk
import SelectorScan.Proofs.Rule.Composition

/-!
# The candidates of lines one behind the other

The tokens that a line compiles to always have values (`exists_tokenValues_of_compile`), so the walk
through them gives all candidates of the line and ends (`gives_candidates`). Two rules one behind
the other stand for every candidate of the first with every candidate of the second behind it:

    candidates domain (compose front back) = candidates of front, each before those of back
                                                                            (candidates_compose)

Together with `compile_append` that tells what a line with another one behind it is refused for and
stands for (`append_refused_or_gives`).
-/

namespace SelectorScan.Candidate

open Rule

variable {domain : Domain}

/-! ## Tokens of a line -/

/-- A range whose ends are two letters or two integers has values. -/
theorem exists_rangeValues {r : Range} (h : (r.isLetters || r.isNumbers) = true) :
    ∃ values, rangeValues r = .ok values := by
  obtain ⟨first, last⟩ := r
  cases letters : (⟨first, last⟩ : Range).isLetters with
  | true =>
    obtain ⟨a, b, rfl, rfl, -, -⟩ := isLetters_iff.1 letters
    exact ⟨_, by rw [rangeValues, letters]⟩
  | false =>
    rw [letters, Bool.false_or, Range.isNumbers, Bool.and_eq_true] at h
    obtain ⟨i, hi⟩ := Option.isSome_iff_exists.1 h.1
    obtain ⟨j, hj⟩ := Option.isSome_iff_exists.1 h.2
    simp only at hi hj
    exact ⟨_, by simp only [rangeValues, letters, rangeEnd, hi, hj]; rfl⟩

/-- A token that is read from a text has values for every domain. -/
theorem exists_tokenValues {token : Token} {t : Text} (h : token.ReadFrom t) :
    ∃ values, tokenValues domain token = .ok values := by
  cases h with
  | literal => exact ⟨_, rfl⟩
  | @directive d body _ built =>
    cases d with
    | range =>
      obtain ⟨first, last, -, rfl, sound⟩ := token?_range_iff.1 built
      exact exists_rangeValues sound
    | domainParts =>
      obtain ⟨indexes, few, rfl, read⟩ := token?_domainParts_iff.1 built
      have lengths := congrArg List.length read
      rw [List.length_map, List.length_map] at lengths
      match indexes with
      | [] => exact ⟨_, rfl⟩
      | [i] => exact ⟨_, rfl⟩
      | [i, j] => exact ⟨_, rfl⟩
      | i :: j :: k :: rest =>
        simp only [List.length_cons] at lengths
        omega
    | items =>
      cases built
      exact ⟨_, rfl⟩
    | optional =>
      obtain ⟨suffix, -, rfl⟩ := token?_optional_iff.1 built
      exact ⟨_, rfl⟩

/-- Each token of a line is read from a text. -/
theorem exists_readFrom_of_compile {line : Text} {tokens : List Token}
    (h : compile line = .ok tokens) : ∀ token ∈ tokens, ∃ t, token.ReadFrom t := by
  obtain ⟨parts, rfl, parsed⟩ := exists_parsing (segments_split_squeeze line) h
  intro token ht
  obtain ⟨part, hp, rfl⟩ := List.mem_map.1 ht
  exact ⟨part.2, parsed.read part hp⟩

theorem exists_tokenValues_of_compile {line : Text} {tokens : List Token}
    (h : compile line = .ok tokens) :
    ∀ token ∈ tokens, ∃ values, tokenValues domain token = .ok values := by
  intro token ht
  obtain ⟨t, read⟩ := exists_readFrom_of_compile h token ht
  exact exists_tokenValues read

/-! ## Candidates of a rule -/

/-- All candidates of a rule in order. -/
def candidates (domain : Domain) (tokens : List Token) : List Points :=
  product (tokens.map (valuesOf domain))

theorem candidates_cons (token : Token) (tokens : List Token) :
    candidates domain (token :: tokens) =
      (valuesOf domain token).flatMap fun v => (candidates domain tokens).map (v ++ ·) := rfl

theorem candidates_literal_cons (t : Text) (tokens : List Token) :
    candidates domain (.literal t :: tokens) =
      (candidates domain tokens).map (Points.ofText t ++ ·) := by
  rw [candidates_cons, valuesOf, tokenValues]
  exact List.append_nil _

/-- A literal that joins another stands for the same candidates as in front of it. -/
theorem candidates_consPlain (t : Text) (tokens : List Token) :
    candidates domain (consPlain t tokens) =
      (candidates domain tokens).map (Points.ofText t ++ ·) := by
  unfold consPlain
  split
  · next blank =>
    rw [List.isEmpty_iff.1 blank]
    exact (List.map_id _).symm
  · split
    · next more rest =>
      simp only [candidates_literal_cons, List.map_map, Function.comp_def, Points.ofText_append,
        List.append_assoc]
    · exact candidates_literal_cons t tokens

theorem candidates_consToken (token : Token) (tokens : List Token) :
    candidates domain (consToken token tokens) = candidates domain (token :: tokens) := by
  cases token with
  | literal t => rw [consToken, candidates_consPlain, candidates_literal_cons]
  | _ => rfl

/-- The candidates of two rules one behind the other are those of the first, each with those of the
second behind it. -/
theorem candidates_compose (front back : List Token) :
    candidates domain (compose front back) =
      (candidates domain front).flatMap fun a => (candidates domain back).map (a ++ ·) := by
  have apart : candidates domain (compose front back) = candidates domain (front ++ back) := by
    induction front with
    | nil => rfl
    | cons token front ih =>
      rw [compose_cons, candidates_consToken, List.cons_append, candidates_cons, candidates_cons, ih]
  rw [apart, candidates, List.map_append, product_append]
  rfl

/-- The walk through tokens that have values gives all candidates, each behind the front, and
ends. -/
theorem gives_candidates_behind (front : Points) {tokens : List Token}
    (sound : ∀ token ∈ tokens, ∃ values, tokenValues domain token = .ok values) :
    (Walk.start tokens front).Gives domain ((candidates domain tokens).map (front ++ ·)) := by
  have ahead : (Walk.start tokens front).ahead domain =
      (candidates domain tokens).map (front ++ ·) := by
    simp [Walk.start, Walk.ahead, Level.ahead, Values.toList, expansions_eq_map_product, candidates]
  rw [← ahead]
  apply Walk.gives_ahead
  intro l hl
  obtain rfl := List.mem_singleton.1 hl
  exact sound

theorem gives_candidates {tokens : List Token}
    (sound : ∀ token ∈ tokens, ∃ values, tokenValues domain token = .ok values) :
    (Walk.start tokens []).Gives domain (candidates domain tokens) := by
  have given := gives_candidates_behind [] sound
  simpa using given

/-- A walk gives one list of candidates only. -/
theorem Walk.Gives.unique {w : Walk} {cs cs' : List Points} (h : w.Gives domain cs)
    (h' : w.Gives domain cs') : cs = cs' := by
  induction h generalizing cs' with
  | finished h =>
    cases h' with
    | finished => rfl
    | candidate h' =>
      rw [h] at h'
      cases h'
  | candidate h _ ih =>
    cases h' with
    | finished h' =>
      rw [h] at h'
      cases h'
    | candidate h' more' =>
      rw [h] at h'
      cases h'
      rw [ih more']

/-! ## Candidates of lines -/

/-- When the percent signs of a line all have partners, the line with another one behind it compiles
exactly when both do, and otherwise fails as the first one that is refused; and it then gives every
candidate of the first in order, each with every candidate of the second in order behind it. -/
theorem append_refused_or_gives {front : Text} (even : front.count '%' % 2 = 0) (back : Text) :
    ((∃ both, compile (front ++ back) = .ok both) ↔
      (∃ first, compile front = .ok first) ∧ ∃ second, compile back = .ok second) ∧
    (∀ e, compile front = .error e → compile (front ++ back) = .error e) ∧
    (∀ first e, compile front = .ok first → compile back = .error e →
      compile (front ++ back) = .error e) ∧
    ∀ first second both, compile front = .ok first → compile back = .ok second →
      compile (front ++ back) = .ok both → ∀ domain : Domain, ∃ as bs,
        (Walk.start first []).Gives domain as ∧ (Walk.start second []).Gives domain bs ∧
        (Walk.start both []).Gives domain (as.flatMap fun a => bs.map (a ++ ·)) := by
  have composed := compile_append even back
  refine ⟨?_, ?_, ?_, ?_⟩
  · rw [composed]
    cases compile front with
    | error e => exact iff_of_false nofun (by rintro ⟨⟨_, ⟨⟩⟩, -⟩)
    | ok first =>
      cases compile back with
      | error e => exact iff_of_false nofun (by rintro ⟨-, _, ⟨⟩⟩)
      | ok second => exact iff_of_true ⟨_, rfl⟩ ⟨⟨_, rfl⟩, _, rfl⟩
  · intro e h
    rw [composed, h]
    rfl
  · intro first e h h'
    rw [composed, h, h']
    rfl
  · intro first second both h h' hb domain
    have tokens : compose first second = both := by
      rw [composed, h, h'] at hb
      exact Except.ok.inj hb
    refine ⟨candidates domain first, candidates domain second,
      gives_candidates (exists_tokenValues_of_compile h),
      gives_candidates (exists_tokenValues_of_compile h'), ?_⟩
    rw [← candidates_compose, tokens]
    exact gives_candidates (exists_tokenValues_of_compile hb)

/-- A line that ends in a literal before one that begins with a literal and ends in a sign without a
partner: the literals join, and each of the two candidates of the first stands before both of the
second. Before a line with an unknown directive it fails as that line does. -/
theorem append_refused_or_gives_joined :
    let front := "%Ox% a%%".toList
    let back := "-%Ly,z%%".toList
    let both : List Token :=
      [.optional ['x'], .literal "a%%-".toList, .items [['y'], ['z']], .literal ['%']]
    compile (front ++ back) = .ok both ∧
      (Walk.start both []).Gives ⟨['d']⟩
        (["a%%-y%", "a%%-z%", "xa%%-y%", "xa%%-z%"].map fun s => s.toList) ∧
      compile (front ++ "%X%".toList) = .error (.unknownDirective 'X' "%X%".toList) := by
  intro front back both
  have even : front.count '%' % 2 = 0 := by decide
  have first : compile front = .ok [.optional ['x'], .literal "a%%".toList] := by decide +kernel
  have second : compile back = .ok [.literal ['-'], .items [['y'], ['z']], .literal ['%']] := by
    decide +kernel
  have joined : compile (front ++ back) = .ok both := by decide +kernel
  have unknown : compile "%X%".toList = .error (.unknownDirective 'X' "%X%".toList) := by
    decide +kernel
  obtain ⟨-, -, -, gives⟩ := append_refused_or_gives even back
  obtain ⟨as, bs, has, hbs, given⟩ := gives _ _ _ first second joined ⟨['d']⟩
  obtain rfl := has.unique (gives_candidates (exists_tokenValues_of_compile first))
  obtain rfl := hbs.unique (gives_candidates (exists_tokenValues_of_compile second))
  exact ⟨joined, given, (append_refused_or_gives even _).2.2.1 _ _ first unknown⟩

end SelectorScan.Candidate
