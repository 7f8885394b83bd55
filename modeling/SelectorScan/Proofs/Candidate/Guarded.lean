import SelectorScan.Candidate.Guarded
import SelectorScan.Proofs.Candidate.Stream
import SelectorScan.Proofs.Domain
import SelectorScan.Proofs.Number.Integer

/-!
# What compiles can be pulled

No guard ever stops a pull. An index stands for a label that the domain has, whatever the index and
the domain are, so a token is entered under guard as without (`enter_eq`). The values that it then
has can all be made (`makeable_of_tokenValues`): letters lie between two letters, and numbers
between two numbers that were read from text, so they have no more digits than may be written. This
is kept from pull to pull, so guarded pulls are the pulls of the walk (`pulls_pull_eq`). A line that
compiles therefore gives its candidates and ends, and the only thing that breaks off a stream of
lines is a line that does not compile, before the first candidate of this line:

    pulls (Walk.pull domain) n (Walk.start tokens front) = (the first n candidates, none)
                                                                              (compiled_expands)
-/

namespace SelectorScan.Candidate

open Rule Number

variable {domain : Domain}

/-! ## Tokens -/

theorem mapM_lookUp {ps : List Int} (h : ∀ p ∈ ps, domain.Has p) :
    ps.mapM (lookUp domain) = .ok (ps.map domain.labelAt) := by
  induction ps with
  | nil => rfl
  | cons p ps ih =>
    obtain ⟨hp, h⟩ := List.forall_mem_cons.1 h
    rw [List.mapM_cons, ih h, lookUp, Domain.labelAt?_eq_some hp]
    rfl

/-- Every label that a token asks for is there. -/
theorem enter_eq (domain : Domain) (token : Token) :
    enter domain token = (tokenValues domain token).mapError .ofExpansion := by
  unfold enter
  split
  · next index =>
    rw [lookUp, Domain.labelAt?_position]
    rfl
  · next first last =>
    have has : ∀ p ∈ Domain.positions (Domain.position domain.labels.length first)
        (Domain.position domain.labels.length last), domain.Has p := by
      intro p hp
      exact Domain.has_of_mem_positions (domain.has_position first) (domain.has_position last) hp
    simp only
    rw [mapM_lookUp has]
    rfl
  · rfl

/-- All values to come can be made. -/
def Values.Makeable : Values → Prop
  | .listed _ => True
  | .letters code count => code + count ≤ lastCode + 1
  | .numbers i count _ => ∀ k : Nat, k < count → (Text.ofNat (i + k).natAbs).length ≤ maxDigits

theorem Values.pull_eq {v : Values} (h : v.Makeable) : v.pull = .ok v.next? := by
  unfold pull
  split
  · rfl
  · rfl
  · rfl
  · next code n =>
    unfold Makeable at h
    rw [if_pos (by omega)]
    rfl
  · rfl
  · next i n width =>
    have few := h 0 (Nat.succ_pos n)
    rw [Int.natCast_zero, Int.add_zero] at few
    unfold writeInt?
    rw [if_pos few]
    rfl

theorem Values.Makeable.next {v rest : Values} {t : Points} (h : v.Makeable)
    (hn : v.next? = some (t, rest)) : rest.Makeable := by
  cases v with
  | listed list =>
    cases list with
    | nil => cases hn
    | cons a as => cases hn; trivial
  | letters code n =>
    cases n with
    | zero => cases hn
    | succ n =>
      cases hn
      unfold Makeable at *
      omega
  | numbers i n width =>
    cases n with
    | zero => cases hn
    | succ n =>
      cases hn
      intro k hk
      have later := h (k + 1) (by omega)
      have same : i + ((k + 1 : Nat) : Int) = i + 1 + (k : Int) := by omega
      rw [same] at later
      exact later

/-- An integer between two that were read has few enough digits to be written. -/
theorem length_ofNat_between {i j n : Int} {s t : Text} (hs : readInt? s = some i)
    (ht : readInt? t = some j) (low : i ≤ n) (high : n ≤ j) :
    (Text.ofNat n.natAbs).length ≤ maxDigits := by
  have hi := natAbs_lt_of_readInt? hs
  have hj := natAbs_lt_of_readInt? ht
  have bound : n.natAbs < 10 ^ maxDigits := by
    generalize 10 ^ maxDigits = most at *
    omega
  exact (Nat.length_toDigits_le_iff (by decide) (by decide)).2 bound

theorem rangeEnd_eq_ok {t : Text} {i : Int} (h : rangeEnd t = .ok i) : readInt? t = some i := by
  unfold rangeEnd at h
  split at h
  · next hi =>
    cases h
    exact hi
  · cases h

theorem makeable_of_rangeValues {r : Range} {values : Values} (h : rangeValues r = .ok values) :
    values.Makeable := by
  obtain ⟨first, last⟩ := r
  cases letters : (⟨first, last⟩ : Range).isLetters with
  | true =>
    obtain ⟨a, b, rfl, rfl, -, -⟩ := isLetters_iff.1 letters
    rw [rangeValues, letters] at h
    cases h
    have ha := Point.toNat_le a
    have hb := Point.toNat_le b
    unfold Values.Makeable lastCode
    omega
  | false =>
    simp only [rangeValues, letters] at h
    cases hf : rangeEnd first with
    | error e => rw [hf] at h; cases h
    | ok i =>
      cases hl : rangeEnd last with
      | error e => rw [hf, hl] at h; cases h
      | ok j =>
        rw [hf, hl] at h
        cases h
        intro k hk
        exact length_ofNat_between (rangeEnd_eq_ok hf) (rangeEnd_eq_ok hl) (by omega) (by omega)

/-- Whatever values a token has can be made. -/
theorem makeable_of_tokenValues {token : Token} {values : Values}
    (h : tokenValues domain token = .ok values) : values.Makeable := by
  unfold tokenValues at h
  split at h
  · cases h; trivial
  · exact makeable_of_rangeValues h
  · cases h; trivial
  · cases h; trivial
  · cases h; trivial
  · cases h
  · cases h; trivial
  · cases h; trivial

/-- A token asks for nothing that is not there: each index, converted and clamped, is the position
of a label, the ends of a range are two letters or two integers, and no number of it has more digits
than may be written. -/
structure Fits (domain : Domain) (token : Token) : Prop where
  labels : ∀ indexes, token = .domainParts indexes → ∀ index ∈ indexes,
    domain.Has (Domain.position domain.labels.length index)
  ends : ∀ r, token = .range r → r.isLetters = true ∨ r.isNumbers = true
  digits : ∀ i count width, tokenValues domain token = .ok (.numbers i count width) →
    ∀ k : Nat, k < count → (Text.ofNat (i + k).natAbs).length ≤ maxDigits

theorem fits_of_readFrom {token : Token} {t : Text} (h : token.ReadFrom t) :
    Fits domain token where
  labels := by
    intro indexes _ index _
    exact domain.has_position index
  ends := by
    rintro r rfl
    cases h with
    | @directive d body _ built =>
      cases d with
      | range =>
        obtain ⟨first, last, -, e, sound⟩ := token?_range_iff.1 built
        cases e
        exact Bool.or_eq_true_iff.1 sound
      | domainParts =>
        obtain ⟨indexes, -, e, -⟩ := token?_domainParts_iff.1 built
        cases e
      | items => cases built
      | optional =>
        obtain ⟨suffix, -, e⟩ := token?_optional_iff.1 built
        cases e
  digits := by
    intro i count width values
    exact makeable_of_tokenValues values

/-! ## Walks -/

namespace Walk

/-- All values to come in the levels of the walk can be made. -/
def Makeable (w : Walk) : Prop :=
  ∀ l ∈ w, l.values.Makeable

theorem makeable_start (tokens : List Token) (front : Points) : (start tokens front).Makeable := by
  intro l hl
  obtain rfl := List.mem_singleton.1 hl
  trivial

variable {w : Walk}

theorem Makeable.tail {top : Level} {below : Walk} (h : Makeable (top :: below)) :
    Makeable below :=
  fun l hl => h l (List.mem_cons_of_mem _ hl)

/-- Taking a value leaves values that can be made. -/
theorem Makeable.take {top : Level} {below : Walk} (h : Makeable (top :: below)) {value : Points}
    {values : Values} (hv : top.values.next? = some (value, values)) :
    Makeable ({ top with values } :: below) := by
  intro l hl
  rcases List.mem_cons.1 hl with rfl | hl
  · exact (h top List.mem_cons_self).next hv
  · exact h.tail l hl

/-- Entering a token adds values that can be made. -/
theorem Makeable.enter {below : Walk} (h : below.Makeable) {token : Token} {inner : Values}
    (ht : tokenValues domain token = .ok inner) (chosen : Points) (rest : List Token) :
    Makeable (⟨chosen, inner, rest⟩ :: below) := by
  intro l hl
  rcases List.mem_cons.1 hl with rfl | hl
  · exact makeable_of_tokenValues ht
  · exact h l hl

/-- Behind a value that is not the last of a candidate the walk goes on into the next token. -/
theorem pull_descend {top : Level} (h : top.values.Makeable) {value : Points} {values : Values}
    (hv : top.values.next? = some (value, values)) {token : Token} {rest : List Token}
    (hr : top.rest = token :: rest) (below : Walk) :
    pull domain (top :: below) = match tokenValues domain token with
      | .error e => .error (.ofExpansion e)
      | .ok inner =>
        pull domain (⟨top.chosen ++ value, inner, rest⟩ :: { top with values } :: below) := by
  rw [pull, Values.pull_eq h, hv]
  simp only
  split
  · next hr' =>
    rw [hr] at hr'
    cases hr'
  · next hr' =>
    rw [hr] at hr'
    cases hr'
    rw [enter_eq]
    cases tokenValues domain token with
    | error e => rfl
    | ok inner => rfl

/-- Under guard a walk takes the same way to its next candidate, and is as good as before. -/
theorem pull_eq (domain : Domain) (h : w.Makeable) :
    w.pull domain = (w.next? domain).mapError .ofExpansion ∧
      ∀ c rest, w.next? domain = .ok (some (c, rest)) → rest.Makeable := by
  fun_induction next? domain w with
  | case1 =>
    rw [pull]
    refine ⟨rfl, ?_⟩
    rintro c rest ⟨⟩
  | case2 top below hv ih =>
    have same : pull domain (top :: below) = pull domain below := by
      rw [pull, Values.pull_eq (h top List.mem_cons_self), hv]
    rw [same]
    exact ih h.tail
  | case3 top below value values hv hr =>
    constructor
    · rw [pull, Values.pull_eq (h top List.mem_cons_self), hv]
      simp only
      split
      · rfl
      · next hr' =>
        rw [hr] at hr'
        cases hr'
    · rintro c rest ⟨⟩
      exact h.take hv
  | case4 top below value values hv token rest hr e ht =>
    constructor
    · rw [pull_descend (h top List.mem_cons_self) hv hr, ht]
      rfl
    · rintro c rest ⟨⟩
  | case5 top below value values hv token rest hr inner ht ih =>
    rw [pull_descend (h top List.mem_cons_self) hv hr, ht]
    exact ih ((h.take hv).enter ht _ _)

/-- Pulling so many times gives so many of the candidates of a walk, and nothing breaks it off. -/
theorem pulls_next?_of_gives {cs : List Points} (h : w.Gives domain cs) (n : Nat) :
    pulls (next? domain) n w = (cs.take n, none) := by
  induction h generalizing n with
  | finished h =>
    cases n with
    | zero => rfl
    | succ n =>
      rw [pulls, h]
      rfl
  | candidate h _ ih =>
    cases n with
    | zero => rfl
    | succ n =>
      rw [pulls, h]
      simp only [ih n]
      rfl

/-- Guarded pulls are the pulls of the walk. -/
theorem pulls_pull_eq (sound : w.Makeable) (n : Nat) :
    pulls (pull domain) n w =
      ((pulls (next? domain) n w).1, (pulls (next? domain) n w).2.map .ofExpansion) := by
  induction n generalizing w with
  | zero => rfl
  | succ n ih =>
    obtain ⟨same, kept⟩ := pull_eq domain sound
    rw [pulls, pulls, same]
    cases h : w.next? domain with
    | error e => rfl
    | ok given =>
      cases given with
      | none => rfl
      | some given =>
        simp only [Except.mapError, ih (kept given.1 given.2 h)]

end Walk

/-! ## Streams -/

namespace Stream

/-- What reading on gives is a note, and a rule that is about to be walked through. -/
theorem note_of_nextRule {number : Nat} {lines : List Text} {i : Item} {rest : Stream}
    (h : nextRule number lines = .item i rest) : i.selector? = none ∧ rest.walk.Makeable := by
  induction lines with
  | nil => cases h
  | cons raw lines ih =>
    unfold nextRule at h
    split at h
    · exact ih h
    · cases h
      exact ⟨rfl, nofun⟩
    · split at h
      · cases h
      · next tokens _ =>
        cases h
        exact ⟨rfl, Walk.makeable_start tokens []⟩

variable {s : Stream}

theorem makeable_of_next (sound : s.walk.Makeable) {i : Item} {rest : Stream}
    (h : s.next domain = .item i rest) : rest.walk.Makeable := by
  unfold next at h
  split at h
  · cases h
  · next selector walk given =>
    cases h
    exact (Walk.pull_eq domain sound).2 selector walk given
  · exact (note_of_nextRule h).2

/-- A pull gives the candidate that comes next, and passes over a note. -/
theorem pull_eq (sound : s.walk.Makeable) :
    s.pull domain = match s.next domain with
      | .finished => .ok none
      | .fault f => .error (.fault f)
      | .item (.candidate selector) rest => .ok (some (selector, rest))
      | .item (.note _) rest => rest.pull domain := by
  rw [pull, (Walk.pull_eq domain sound).1, next]
  cases s.walk.next? domain with
  | error e => rfl
  | ok given =>
    cases given with
    | some given => rfl
    | none =>
      simp only [Except.mapError]
      split
      · next h => rw [h]
      · next h => rw [h]
      · next i rest h =>
        rw [h]
        cases i with
        | candidate selector => cases (note_of_nextRule h).1
        | note entry => rfl

/-- Pulling so many times gives so many of the candidates of a stream. What ends the stream before
its time breaks it off only when no candidate is left. -/
theorem pulls_eq (s : Stream) (sound : s.walk.Makeable) (n : Nat) :
    pulls (pull domain) n s = ((s.items domain).selectors.take n,
      if n ≤ (s.items domain).selectors.length then none
      else (s.items domain).fault.map .fault) := by
  cases n with
  | zero => rw [if_pos (Nat.zero_le _)]; rfl
  | succ n =>
    rw [items_eq]
    cases h : s.next domain with
    | finished =>
      rw [pulls, pull_eq sound, h]
      rfl
    | fault f =>
      rw [pulls, pull_eq sound, h]
      rfl
    | item i rest =>
      have kept := makeable_of_next sound h
      cases i with
      | note entry =>
        have later := pulls_eq rest kept (n + 1)
        rw [pulls] at later ⊢
        rw [pull_eq sound, h]
        exact later
      | candidate selector =>
        rw [pulls, pull_eq sound, h]
        simp [pulls_eq rest kept n, Item.selector?]
termination_by (s.lines.length, s.walk.weight domain)
decreasing_by all_goals exact Prod.lex_def.2 (smaller_of_next h)

end Stream

/-! ## Lines -/

/-- For every domain, the tokens of a line that compiles ask for nothing that is not there, and
however often the walk through them is pulled, with and without guard, it gives the candidates of
the line in order, each behind the front, and nothing breaks it off. A guarded stream gives all
that the stream gives, and only a line that does not compile breaks it off, behind the candidates of
the lines before it. -/
theorem compiled_expands (domain : Domain) :
    (∀ line tokens, compile line = .ok tokens →
      (∀ token ∈ tokens, Fits domain token) ∧
      ∀ front n,
        pulls (Walk.pull domain) n (Walk.start tokens front) =
          (((candidates domain tokens).map (front ++ ·)).take n, none) ∧
        pulls (Walk.next? domain) n (Walk.start tokens front) =
          (((candidates domain tokens).map (front ++ ·)).take n, none)) ∧
    ∀ lines,
      let all := (Stream.ofLines lines).items domain
      (∀ n, pulls (Stream.pull domain) n (Stream.ofLines lines) =
        (all.selectors.take n, if n ≤ all.selectors.length then none else all.fault.map .fault)) ∧
      ∀ f, all.fault = some f → ∃ front bad back e, liveLines lines = front ++ bad :: back ∧
        (∀ line ∈ front, ∃ tokens, compile line = .ok tokens) ∧ compile bad = .error e ∧
        f = .rule e ∧ all.selectors = (ofRules domain front).1 := by
  constructor
  · intro line tokens h
    constructor
    · intro token ht
      obtain ⟨t, read⟩ := exists_readFrom_of_compile h token ht
      exact fits_of_readFrom read
    · intro front n
      have given : (Walk.start tokens front).Gives domain _ :=
        gives_candidates_behind front (exists_tokenValues_of_compile h)
      have pulled := Walk.pulls_next?_of_gives given n
      refine ⟨?_, pulled⟩
      rw [Walk.pulls_pull_eq (Walk.makeable_start tokens front), pulled]
      rfl
  · intro lines all
    constructor
    · exact Stream.pulls_eq (Stream.ofLines lines) nofun
    · intro f hf
      obtain ⟨selectors, fault⟩ := Stream.items_ofLines domain lines
      rw [show all.fault = _ from fault, Option.map_eq_some_iff] at hf
      obtain ⟨e, he, rfl⟩ := hf
      obtain ⟨front, bad, back, live, sound, refused⟩ := exists_refused_of_ofRules he
      refine ⟨front, bad, back, e, live, sound, refused, rfl, ?_⟩
      rw [show all.selectors = _ from selectors, live, ofRules_of_refused sound refused]

/-- Indexes far beyond the only label of the empty domain select it twice, from both sides, behind
a range that is padded. In a file the line gives its candidates before the unknown directive behind
it breaks the stream off. -/
theorem compiled_expands_clamped :
    let line := "%N08,9% . %D-7,9% %Ox%".toList
    let tokens : List Token :=
      [.range ⟨"08".toList, ['9']⟩, .literal ['.'], .domainParts [-7, 9], .optional ['x']]
    compile line = .ok tokens ∧
      pulls (Walk.pull ⟨[]⟩) 3 (Walk.start tokens [.char 'p']) =
        (["p08..", "p08..x", "p09.."].map fun x => (x.toList : Points), none) ∧
      pulls (Stream.pull ⟨[]⟩) 9 (Stream.ofLines ["%Na,c%%L%".toList, ['#'], line, "%X%".toList]) =
        (["08..", "08..x", "09..", "09..x"].map fun x => (x.toList : Points),
          some (.fault (.rule (.unknownDirective 'X' "%X%".toList)))) := by
  intro line tokens
  have compiled : compile line = .ok tokens := by decide +kernel
  obtain ⟨walks, streams⟩ := compiled_expands ⟨[]⟩
  obtain ⟨-, pulled⟩ := walks line tokens compiled
  obtain ⟨given, -⟩ := streams ["%Na,c%%L%".toList, ['#'], line, "%X%".toList]
  refine ⟨compiled, ?_, ?_⟩
  · rw [(pulled [.char 'p'] 3).1]
    decide +kernel
  · obtain ⟨selectors, fault⟩ :=
      Stream.items_ofLines ⟨[]⟩ ["%Na,c%%L%".toList, ['#'], line, "%X%".toList]
    rw [given 9, selectors, fault]
    decide +kernel

end SelectorScan.Candidate
