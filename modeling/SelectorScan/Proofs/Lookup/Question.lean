import SelectorScan.Lookup.Scheduler
import SelectorScan.Proofs.Dns.Name
import SelectorScan.Proofs.Session.Selector

/-!
# Whom an answer is credited to

A lookup asks for `selector._domainkey.domain`, and a session cuts the name in the question of the
answer at the first `._domainkey.` in it. This marker overlaps itself in its dots and nowhere else,
so the only occurrences of it left of the lookup's own are those in the selector with one dot behind
it (`occurs_before_iff`). Without such an occurrence the answer is credited to the selector that was
asked for; with one, to a shorter selector.
-/

namespace SelectorScan.Lookup

open KeyRecord Dns Text

variable {selector domain : Text}

/-! ## The marker in the name that is looked up -/

theorem questionName_eq (selector domain : Text) :
    questionName selector domain = selector ++ marker ++ domain := by
  rw [questionName, Points.shown_ofText]
  rfl

/-- The marker has dots at its ends only. -/
theorem marker_getElem?_ne_dot : ∀ k < marker.length - 1, k ≠ 0 → marker[k]? ≠ some '.' := by
  decide

/-- The marker stands further left than behind the selector when it stands in the selector, the dot
behind the selector included. -/
theorem occurs_before_iff (selector domain : Text) :
    (∃ front back, questionName selector domain = front ++ marker ++ back ∧
      front.length < selector.length) ↔ marker <:+: selector ++ ['.'] := by
  have own : questionName selector domain = (selector ++ ['.']) ++ (marker.tail ++ domain) := by
    rw [questionName_eq, List.append_assoc, List.append_assoc]
    rfl
  constructor
  · rintro ⟨front, back, found, left⟩
    rw [own] at found
    obtain ⟨k, hk⟩ := Nat.exists_eq_add_of_le left.le
    by_cases inside : marker.length - 1 ≤ k
    · have fits : (front ++ marker).length ≤ (selector ++ ['.']).length := by
        rw [List.length_append, List.length_append, List.length_singleton]
        omega
      have initial : front ++ marker <+: selector ++ ['.'] :=
        List.prefix_of_prefix_length_le ⟨back, found.symm⟩ ⟨_, rfl⟩ fits
      exact (List.suffix_append front marker).isInfix.trans initial.isInfix
    · -- the dot behind the selector would stand in the middle of the marker
      exfalso
      have dot : ((selector ++ ['.']) ++ (marker.tail ++ domain))[selector.length]? = some '.' := by
        simp
      have middle : (front ++ marker ++ back)[front.length + k]? = marker[k]? := by
        rw [List.append_assoc, List.getElem?_append_right (by omega), Nat.add_sub_cancel_left,
          List.getElem?_append_left (by omega)]
      rw [found, hk, middle] at dot
      exact marker_getElem?_ne_dot k (by omega) (by omega) dot
  · rintro ⟨front, back, found⟩
    refine ⟨front, back ++ (marker.tail ++ domain), ?_, ?_⟩
    · rw [own, ← found, List.append_assoc _ back]
    · have len := congrArg List.length found
      have size : marker.length = 12 := rfl
      simp only [List.length_append, List.length_singleton, size] at len
      omega

theorem cutFirst_questionName_iff (selector domain : Text) :
    CutFirst marker (questionName selector domain) selector domain ↔
      ¬marker <:+: selector ++ ['.'] := by
  rw [← occurs_before_iff selector domain]
  constructor
  · rintro ⟨-, least⟩ ⟨front, back, found, left⟩
    exact absurd (least front back found) (Nat.not_le.2 left)
  · intro none
    refine ⟨questionName_eq selector domain, fun front back found => ?_⟩
    exact Nat.not_lt.1 fun left => none ⟨front, back, found, left⟩

/-- With the marker in the selector the name is cut further left. -/
theorem exists_splitName_questionName (domain : Text) (h : marker <:+: selector ++ ['.']) :
    ∃ front back, splitName (questionName selector domain) = some (front, back) ∧
      front.length < selector.length := by
  obtain ⟨front, back, found, left⟩ := (occurs_before_iff selector domain).2 h
  obtain ⟨front', back', split, le⟩ := exists_breakOn found
  exact ⟨front', back', split, Nat.lt_of_le_of_lt le left⟩

/-! ## The name in an answer -/

/-- The name that is looked up comes back as it was. -/
theorem toText_of_ofText_questionName {name : Name}
    (plain : ∀ c ∈ selector ++ domain, Name.Plain c) (filled : domain ≠ [])
    (unended : domain.getLast? ≠ some '.')
    (named : Name.ofText (questionName selector domain) = .ok name) :
    name.toText = questionName selector domain := by
  rw [List.forall_mem_append] at plain
  have last : (questionName selector domain).getLast? = domain.getLast? := by
    rw [questionName_eq, List.getLast?_append, List.getLast?_eq_some_getLast filled]
    rfl
  refine Name.toText_of_ofText ?_ (by simp [questionName_eq, filled]) (last ▸ unended) named
  rw [questionName_eq, List.forall_mem_append, List.forall_mem_append]
  exact ⟨⟨plain.1, Name.plain_of_all (by decide)⟩, plain.2⟩

/-- The answer to a lookup is split into the selector and the domain that were asked for unless the
marker stands in the selector with a dot behind it; then the selector that it is split into is
shorter. Accordingly a session takes the answer's records for the selector and the domain that were
asked for, or does not settle the selector. -/
theorem splitName_question_iff {name : Name}
    (plain : ∀ c ∈ selector ++ domain, Name.Plain c) (filled : domain ≠ [])
    (unended : domain.getLast? ≠ some '.')
    (named : Name.ofText (questionName selector domain) = .ok name) :
    (splitName name.toText = some (selector, domain) ↔ ¬marker <:+: selector ++ ['.']) ∧
      (marker <:+: selector ++ ['.'] →
        ∃ front back, splitName name.toText = some (front, back) ∧
          front.length < selector.length) ∧
      ∀ (listener : Option Session.Listener) (s : Session) (r : Response), r.question = some name →
        r.code ≠ Response.noSuchName → selector ∉ s.found →
        (¬marker <:+: selector ++ ['.'] → (s.handle listener (some r)).session =
          ⟨selector :: s.found, s.findings ++
            Session.findingsIn (questionName selector domain) selector domain r.textRecords⟩) ∧
        (marker <:+: selector ++ ['.'] →
          selector ∉ (s.handle listener (some r)).session.found) := by
  have same := toText_of_ofText_questionName plain filled unended named
  refine ⟨?_, ?_, ?_⟩
  · rw [same, splitName, breakOn_eq_some_iff, cutFirst_questionName_iff]
  · rw [same]
    exact exists_splitName_questionName domain
  · intro listener s r asked code new
    rw [Session.handle_session]
    constructor
    · intro outside
      have cut := (cutFirst_questionName_iff selector domain).2 outside
      rw [← same] at cut
      rw [Session.credit?_eq_some code asked cut, Session.take_some, if_neg new, same]
    · intro inside
      obtain ⟨front, back, split, shorter⟩ := exists_splitName_questionName domain inside
      rw [← same, splitName, breakOn_eq_some_iff] at split
      rw [Session.credit?_eq_some code asked split, Session.mem_found_take]
      rintro (rfl | old)
      · exact Nat.lt_irrefl _ shorter
      · exact new old

/-- The name of the lookup for `x` in `_domainkey.d` and also of that for `x._domainkey` in `d`. -/
def sharedName : Name :=
  ⟨["x", "_domainkey", "_domainkey", "d"].map fun l => Utf8.encode l.toList⟩

/-- The marker at the front of the domain does no harm; at the end of the selector it takes some of
the selector away. -/
theorem splitName_question_iff_shared :
    splitName sharedName.toText = some ("x".toList, "_domainkey.d".toList) ∧
      ∃ front back, splitName sharedName.toText = some (front, back) ∧
        front.length < "x._domainkey".toList.length := by
  constructor
  · have plain := Name.plain_of_all (t := "x".toList ++ "_domainkey.d".toList) (by decide)
    have named : Name.ofText (questionName "x".toList "_domainkey.d".toList) = .ok sharedName := by
      decide +kernel
    rw [(splitName_question_iff plain (by decide) (by decide) named).1]
    decide
  · have plain := Name.plain_of_all (t := "x._domainkey".toList ++ "d".toList) (by decide)
    have named : Name.ofText (questionName "x._domainkey".toList "d".toList) = .ok sharedName := by
      decide +kernel
    apply (splitName_question_iff plain (by decide) (by decide) named).2.1
    exact ⟨['x'], [], rfl⟩

end SelectorScan.Lookup
