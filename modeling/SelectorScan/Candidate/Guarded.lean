import SelectorScan.Candidate.Stream

/-!
# Pulling under guard

A walk looks labels up, makes characters and writes numbers with functions that have a result for
every argument. Here each of them is asked first whether it can be used at all: a label is taken
only from a position that the domain has, a character is made only of a code point up to U+10FFFF,
and a number is written only if it has few enough digits. What cannot be done ends the pull with a
`Mishap`. Apart from that the guarded `pull` of a walk, and of a stream, takes the same way to the
next candidate.
-/

namespace SelectorScan.Candidate

open Rule

/-- What a pull ends with that gives no candidate before the end. -/
inductive Mishap where
  /-- A rule is refused, or a token has no values. -/
  | fault (fault : Fault)
  /-- The domain has no label at a position. -/
  | noLabel (position : Int)
  /-- No character has a code point. -/
  | noCharacter (code : Nat)
  /-- An integer has more digits than may be written. -/
  | tooManyDigits (number : Int)
deriving DecidableEq, Repr

/-- The mishap that a token without values is. -/
def Mishap.ofExpansion (e : ExpansionError) : Mishap :=
  .fault (.expansion e)

/-! ## Values -/

def lastCode : Nat := 0x10FFFF

/-- The first value and those after it, if it can be made. -/
def Values.pull : Values → Except Mishap (Option (Points × Values))
  | listed [] => .ok none
  | listed (v :: rest) => .ok (some (v, listed rest))
  | letters _ 0 => .ok none
  | letters code (n + 1) =>
    if code ≤ lastCode then .ok (some ([.ofCode code], letters (code + 1) n))
    else .error (.noCharacter code)
  | numbers _ 0 _ => .ok none
  | numbers i (n + 1) width =>
    match Number.writeInt? width i with
    | some t => .ok (some (t, numbers (i + 1) n width))
    | none => .error (.tooManyDigits i)

/-- The label at a position, if the domain has one there. -/
def lookUp (domain : Domain) (p : Int) : Except Mishap Text :=
  match domain.labelAt? p with
  | some label => .ok label
  | none => .error (.noLabel p)

/-- The values of a token, if the domain has the labels that it asks for. -/
def enter (domain : Domain) : Token → Except Mishap Values
  | .domainParts [index] =>
    (lookUp domain (Domain.position domain.labels.length index)).map fun label =>
      .listed [label]
  | .domainParts [first, last] =>
    let position := Domain.position domain.labels.length
    ((Domain.positions (position first) (position last)).mapM (lookUp domain)).map fun labels =>
      .listed [Text.join ['.'] labels]
  | token => (tokenValues domain token).mapError .ofExpansion

/-! ## Walks and streams -/

theorem Values.next?_of_pull {v : Values} {next : Option (Points × Values)}
    (h : v.pull = .ok next) : v.next? = next := by
  unfold pull at h
  split at h
  · cases h; rfl
  · cases h; rfl
  · cases h; rfl
  · split at h
    · cases h; rfl
    · cases h
  · cases h; rfl
  · next i n width =>
    unfold Number.writeInt? at h
    split at h
    · next ht =>
      cases h
      split at ht
      · cases ht; rfl
      · cases ht
    · cases h

/-- A token has as many values under guard as without. -/
theorem exists_tokenValues_of_enter {domain : Domain} {token : Token} {inner : Values}
    (h : enter domain token = .ok inner) :
    ∃ values, tokenValues domain token = .ok values ∧ values.count = inner.count := by
  unfold enter at h
  split at h
  · next index =>
    cases hl : lookUp domain (Domain.position domain.labels.length index) with
    | error m => rw [hl] at h; cases h
    | ok label =>
      rw [hl] at h
      cases h
      exact ⟨_, rfl, rfl⟩
  · next first last =>
    simp only at h
    revert h
    generalize (Domain.positions _ _).mapM (lookUp domain) = labels
    intro h
    cases labels with
    | error m => cases h
    | ok labels =>
      cases h
      exact ⟨_, rfl, rfl⟩
  · cases ht : tokenValues domain token with
    | error e => rw [ht] at h; cases h
    | ok values =>
      rw [ht] at h
      cases h
      exact ⟨_, rfl, rfl⟩

/-- The next candidate of a walk and the walk after it, `none` at the end. -/
def Walk.pull (domain : Domain) : Walk → Except Mishap (Option (Points × Walk))
  | [] => .ok none
  | top :: below =>
    match _hv : top.values.pull with
    | .error m => .error m
    | .ok none => pull domain below
    | .ok (some (value, values)) =>
      match _hr : top.rest with
      | [] => .ok (some (top.chosen ++ value, { top with values } :: below))
      | token :: rest =>
        match _ht : enter domain token with
        | .error m => .error m
        | .ok inner =>
          pull domain (⟨top.chosen ++ value, inner, rest⟩ :: { top with values } :: below)
termination_by w => weight domain w
decreasing_by
  · simp only [weight, Level.weight]
    omega
  · have hc := Values.count_of_next? (Values.next?_of_pull _hv)
    obtain ⟨inner', ht, hi⟩ := exists_tokenValues_of_enter _ht
    simp only [weight, Level.weight, hc, _hr, cost, ht, hi, Nat.add_mul, Nat.one_mul]
    omega

/-- The next candidate of a stream and the stream after it, `none` at the end. -/
def Stream.pull (domain : Domain) (s : Stream) : Except Mishap (Option (Points × Stream)) :=
  match s.walk.pull domain with
  | .error m => .error m
  | .ok (some (selector, walk)) => .ok (some (selector, { s with walk }))
  | .ok none =>
    match _h : nextRule s.number s.lines with
    | .finished => .ok none
    | .fault f => .error (.fault f)
    | .item _ rest => pull domain rest
termination_by s.lines.length
decreasing_by exact lines_of_nextRule _h

/-- What pulling so many times gives, and what breaks it off. -/
def pulls {σ ε : Type} (pull : σ → Except ε (Option (Points × σ))) :
    Nat → σ → List Points × Option ε
  | 0, _ => ([], none)
  | n + 1, s =>
    match pull s with
    | .error e => ([], some e)
    | .ok none => ([], none)
    | .ok (some (selector, rest)) =>
      let more := pulls pull n rest
      (selector :: more.1, more.2)

end SelectorScan.Candidate
