import SelectorScan.Proofs.Session.Inspection

/-!
# What a session says about one selector

Of all that responses bring about a selector (`credits`), the first thing counts: whatever else is
handled before, between and after, the findings about a selector that is new are those that the
first response which settles it brings (`findingsAbout_handleAll`):

    findings about x after rs = findings about x before, then ((credits rs).lookup x).getD []

So two sequences of responses that agree selector by selector lead to the same findings, in some
order, and a sequence handled again brings nothing (`handleAll_rearranged`). And a response with a
usable key goes unheard when another one about its selector came first, be that a failure with
nothing in it: only the failure that says that the name does not exist is passed over
(`found_behind_failures_iff`).
-/

namespace SelectorScan.Session

open KeyRecord Key Dns

variable {selector : Text} {listener : Option Listener}

/-! ## The first response about a selector -/

/-- What responses bring, selector by selector. -/
def credits (rs : List (Option Response)) : List (Text × List Finding) :=
  rs.filterMap credit?

theorem credits_cons (r : Option Response) (rs : List (Option Response)) :
    credits (r :: rs) = (credit? r).toList ++ credits rs := by
  unfold credits
  cases h : credit? r with
  | none =>
    rw [List.filterMap_cons_none h]
    rfl
  | some credit =>
    rw [List.filterMap_cons_some h]
    rfl

theorem mem_credits {rs : List (Option Response)} {c : Text × List Finding} :
    c ∈ credits rs ↔ ∃ r ∈ rs, credit? r = some c :=
  List.mem_filterMap

def findingsAbout (s : Session) (selector : Text) : List Finding :=
  s.findings.filter fun f => f.source.selector = selector

theorem handleAll_cons (s : Session) (r : Option Response) (rs : List (Option Response)) :
    handleAll listener s (r :: rs) = handleAll listener (s.take (credit? r)) rs := by
  rw [← handle_session]
  rfl

/-- What a response brings is about the selector that it brings it for. -/
theorem about_of_credit? {r : Option Response} {fs : List Finding}
    (h : credit? r = some (selector, fs)) : ∀ f ∈ fs, f.source.selector = selector := by
  cases r with
  | none => cases h
  | some r =>
    by_cases hc : r.code = Response.noSuchName
    · simp only [credit?, if_pos hc] at h
      cases h
    · simp only [credit?, if_neg hc, Option.bind_eq_some_iff, Option.map_eq_some_iff] at h
      obtain ⟨question, -, parts, -, ⟨⟩⟩ := h
      exact fun f => selector_of_mem_findingsIn

/-- Findings taken for one selector leave those about the others alone. -/
theorem findingsAbout_take {s : Session} {x : Text} {fs : List Finding}
    (about : ∀ f ∈ fs, f.source.selector = x) :
    (s.take (some (x, fs))).findingsAbout selector =
      s.findingsAbout selector ++ if selector = x ∧ x ∉ s.found then fs else [] := by
  rw [take_some]
  by_cases old : x ∈ s.found
  · rw [if_pos old, if_neg fun h => h.2 old, List.append_nil]
  · rw [if_neg old, findingsAbout, List.filter_append]
    congr 1
    by_cases same : selector = x
    · rw [if_pos ⟨same, old⟩, List.filter_eq_self]
      intro f hf
      rw [about f hf, same]
      exact decide_eq_true rfl
    · rw [if_neg fun h => same h.1, List.filter_eq_nil_iff]
      intro f hf
      rw [about f hf]
      exact fun h => same (of_decide_eq_true h).symm

theorem mem_found_take {s : Session} {x : Text} {fs : List Finding} :
    selector ∈ (s.take (some (x, fs))).found ↔ selector = x ∨ selector ∈ s.found := by
  rw [take_some]
  by_cases old : x ∈ s.found
  · rw [if_pos old]
    constructor
    · exact .inr
    · rintro (rfl | h)
      · exact old
      · exact h
  · rw [if_neg old, List.mem_cons]

/-- A selector is found when it was before or some response brings anything about it. -/
theorem mem_found_handleAll {s : Session} {rs : List (Option Response)} :
    selector ∈ (handleAll listener s rs).found ↔
      selector ∈ s.found ∨ ∃ fs, (selector, fs) ∈ credits rs := by
  induction rs generalizing s with
  | nil => simp [handleAll, credits]
  | cons r rs ih =>
    rw [handleAll_cons, ih, credits_cons]
    cases credit? r with
    | none => rfl
    | some credit =>
      obtain ⟨x, fs⟩ := credit
      rw [mem_found_take, Option.toList_some, List.singleton_append]
      simp only [List.mem_cons, Prod.mk.injEq, exists_or, exists_and_left, exists_eq, and_true]
      rw [or_comm (a := selector = x), or_assoc]

/-- The findings about a selector that is new are those of the first response about it. -/
theorem findingsAbout_handleAll {s : Session} (rs : List (Option Response)) :
    (handleAll listener s rs).findingsAbout selector = s.findingsAbout selector ++
      if selector ∈ s.found then [] else ((credits rs).lookup selector).getD [] := by
  induction rs generalizing s with
  | nil => simp [handleAll, credits]
  | cons r rs ih =>
    rw [handleAll_cons, ih, credits_cons]
    cases hr : credit? r with
    | none => rfl
    | some credit =>
      obtain ⟨x, fs⟩ := credit
      rw [findingsAbout_take (about_of_credit? hr), Option.toList_some, List.singleton_append,
        List.append_assoc]
      simp only [mem_found_take]
      congr 1
      by_cases same : selector = x
      · subst same
        by_cases old : selector ∈ s.found <;> simp [old]
      · simp [same, List.lookup_cons, beq_false_of_ne same]

theorem credit?_eq_some {r : Response} {question : Name} {domain : Text}
    (code : r.code ≠ Response.noSuchName) (asked : r.question = some question)
    (cut : Text.CutFirst marker question.toText selector domain) :
    credit? (some r) =
      some (selector, findingsIn question.toText selector domain r.textRecords) := by
  rw [credit?, if_neg code, asked, Option.bind_some, splitName, Text.breakOn_eq_some_iff.2 cut]
  rfl

/-- Whether the response is about the selector and does not say that the name does not exist. -/
def concerns (selector : Text) : Option Response → Bool
  | none => false
  | some r => r.code != Response.noSuchName && r.selector? == some selector

theorem concerns_some_iff {r : Response} :
    concerns selector (some r) = true ↔
      r.code ≠ Response.noSuchName ∧ r.selector? = some selector := by
  simp only [concerns, Bool.and_eq_true, bne_iff_ne, beq_iff_eq]

theorem concerns_iff {r : Option Response} :
    concerns selector r = true ↔ (credit? r).map Prod.fst = some selector := by
  cases r with
  | none => exact iff_of_false Bool.false_ne_true (by rintro ⟨⟩)
  | some r =>
    rw [concerns_some_iff, credit?, Response.selector?]
    by_cases hc : r.code = Response.noSuchName
    · rw [if_pos hc]
      exact iff_of_false (fun h => h.1 hc) (by rintro ⟨⟩)
    · rw [if_neg hc, and_iff_right hc]
      cases r.question with
      | none => rfl
      | some question =>
        rw [Option.bind_some, Option.bind_some]
        cases splitName question.toText <;> rfl

theorem exists_mem_credits_iff {rs : List (Option Response)} :
    (∃ fs, (selector, fs) ∈ credits rs) ↔ ∃ r ∈ rs, concerns selector r = true := by
  simp only [mem_credits, concerns_iff, Option.map_eq_some_iff]
  constructor
  · rintro ⟨fs, r, hr, h⟩
    exact ⟨r, hr, _, h, rfl⟩
  · rintro ⟨r, hr, ⟨x, fs⟩, h, rfl⟩
    exact ⟨fs, r, hr, h⟩

/-- What is first brought about a selector comes from the first response that concerns it. -/
theorem lookup_credits (rs : List (Option Response)) :
    (credits rs).lookup selector =
      (rs.find? (concerns selector)).bind fun r => (credit? r).map Prod.snd := by
  induction rs with
  | nil => rfl
  | cons r rs ih =>
    rw [credits_cons]
    cases hr : credit? r with
    | none =>
      have other : concerns selector r = false := by
        rw [← Bool.not_eq_true, concerns_iff, hr]
        exact nofun
      rw [List.find?_cons_of_neg (by rw [other]; exact nofun), ← ih]
      rfl
    | some credit =>
      obtain ⟨x, fs⟩ := credit
      rw [Option.toList_some, List.singleton_append, List.lookup_cons]
      by_cases same : selector = x
      · have own : concerns selector r = true := by rw [concerns_iff, hr, same]; rfl
        rw [same, beq_self_eq_true, ← same, List.find?_cons_of_pos own, Option.bind_some, hr]
        rfl
      · have other : ¬concerns selector r = true := by
          rw [concerns_iff, hr]
          exact fun h => same (Option.some.inj h).symm
        rw [beq_false_of_ne same, List.find?_cons_of_neg other, ← ih]

/-! ## Failures -/

/-- A response without an answer brings no findings. -/
theorem eq_nil_of_credit? {r : Response} {x : Text} {fs : List Finding} (empty : r.answer = [])
    (h : credit? (some r) = some (x, fs)) : fs = [] := by
  have records : r.textRecords = [] := by
    rw [Response.textRecords, empty]
    rfl
  by_cases code : r.code = Response.noSuchName
  · rw [credit?, if_pos code] at h
    cases h
  · simp only [credit?, if_neg code, records, Option.bind_eq_some_iff, Option.map_eq_some_iff] at h
    obtain ⟨question, -, parts, -, ⟨⟩⟩ := h
    rfl

/-- A selector has a finding when the first response that concerns it brings one. -/
theorem exists_finding_iff {rs : List (Option Response)} :
    (∃ f ∈ (handleAll listener empty rs).findings, f.source.selector = selector) ↔
      ∃ r ∈ rs.find? (concerns selector), ∃ fs, credit? r = some (selector, fs) ∧ fs ≠ [] := by
  have about : (∃ f ∈ (handleAll listener empty rs).findings, f.source.selector = selector) ↔
      (handleAll listener empty rs).findingsAbout selector ≠ [] := by
    rw [findingsAbout, Ne, List.filter_eq_nil_iff]
    simp
  have start : empty.findingsAbout selector = [] := rfl
  have fresh : selector ∉ empty.found := List.not_mem_nil
  rw [about, findingsAbout_handleAll, start, if_neg fresh, lookup_credits, List.nil_append]
  cases hr : rs.find? (concerns selector) with
  | none => exact iff_of_false (fun h => h rfl) (by rintro ⟨r, ⟨⟩, -⟩)
  | some r =>
    obtain ⟨⟨x, fs⟩, hc, rfl⟩ := Option.map_eq_some_iff.1 (concerns_iff.1 (List.find?_some hr))
    simp [hc]

/-- A selector whose key is published in a response, after failures without an answer, has a finding
exactly when all of these failures say that the name does not exist, and no record of the response
bars the others. -/
theorem found_behind_failures_iff {r : Response} {question : Name} {domain : Text}
    (code : r.code = Response.noError) (asked : r.question = some question)
    (cut : Text.CutFirst marker question.toText selector domain)
    (yields : ∃ record ∈ r.textRecords, ∃ f, Yields question.toText selector domain record f)
    {before : List (Option Response)}
    (failed : ∀ r', some r' ∈ before → r'.selector? = some selector →
      r'.code ≠ Response.noError ∧ r'.answer = [])
    (after : List (Option Response)) (listener : Option Listener) :
    (∃ f ∈ (handleAll listener empty (before ++ some r :: after)).findings,
        f.source.selector = selector) ↔
      (∀ r', some r' ∈ before → r'.selector? = some selector →
        r'.code = Response.noSuchName) ∧
      ¬Barred question.toText selector domain r.textRecords := by
  have named : r.code ≠ Response.noSuchName := by
    rw [code]
    decide
  have brings := credit?_eq_some named asked cut
  have own : concerns selector (some r) = true := by
    rw [concerns_iff, brings]
    rfl
  rw [exists_finding_iff, List.find?_append]
  cases first : before.find? (concerns selector) with
  | none =>
    -- all responses before are passed over, and the one with the key is the first that counts
    have silent : ∀ r', some r' ∈ before → r'.selector? = some selector →
        r'.code = Response.noSuchName := by
      intro r' hr about
      apply Classical.byContradiction
      intro other
      exact List.find?_eq_none.1 first _ hr (concerns_some_iff.2 ⟨other, about⟩)
    rw [and_iff_right silent, Option.none_or, List.find?_cons_of_pos own]
    simp only [Option.mem_def, Option.some.injEq, existsAndEq, brings, Prod.mk.injEq, true_and]
    rw [← exists_firstFinding_eq_error_iff]
    constructor
    · rintro h ⟨e, failed⟩
      rw [findingsIn, failed] at h
      exact h rfl
    · intro sound
      exact (findingsIn_ne_nil_iff fun e he => sound ⟨e, he⟩).2 yields
  | some r' =>
    -- the first response that counts has no answer
    have counts := List.find?_some first
    have hr := List.mem_of_find?_eq_some first
    cases r' with
    | none => cases counts
    | some r' =>
      obtain ⟨other, about⟩ := concerns_some_iff.1 counts
      refine iff_of_false ?_ fun h => other (h.1 r' hr about)
      rintro ⟨_, ⟨⟩, fs, brought, filled⟩
      exact filled (eq_nil_of_credit? (failed r' hr about).2 brought)

/-- After a lookup that was given up, a failure about another selector and the word that the name
does not exist, the key is found; what comes later about the selector does not matter. -/
theorem found_behind_failures_iff_missing :
    let before := [none, some (responseOf "b" "SERVFAIL" []),
      some (responseOf "a" Response.noSuchName [])]
    let r := responseOf "a" Response.noError [smallRecord]
    ∃ f ∈ (handleAll none empty (before ++ some r :: [some (responseOf "a" "REFUSED" [])])).findings,
      f.source.selector = ['a'] := by
  intro before r
  obtain ⟨_, question, ⟨⟩, -, asked, name, cut, -, records⟩ := settles_responseOf [smallRecord]
  rw [← name] at cut
  obtain ⟨passes, f, hf⟩ := yields_smallRecord question.toText ['a'] ['d']
  have sound : ¬Barred question.toText ['a'] ['d'] r.textRecords := by
    rw [records]
    exact not_barred_cons passes hf []
  have published : ∃ record ∈ r.textRecords, ∃ f,
      Yields question.toText ['a'] ['d'] record f := by
    rw [records]
    exact ⟨_, List.mem_cons_self, f, hf⟩
  have missing : ∀ r', some r' ∈ before → r'.selector? = some ['a'] →
      r'.code = Response.noSuchName ∧ r'.answer = [] := by
    intro r' hr about
    simp only [before, List.mem_cons, List.not_mem_nil, or_false, reduceCtorEq, false_or,
      Option.some.injEq] at hr
    rcases hr with rfl | rfl
    · have other : (responseOf "b" "SERVFAIL" []).selector? = some ['b'] := by decide
      rw [other] at about
      cases about
    · exact ⟨rfl, rfl⟩
  have failed : ∀ r', some r' ∈ before → r'.selector? = some ['a'] →
      r'.code ≠ Response.noError ∧ r'.answer = [] := by
    intro r' hr about
    obtain ⟨code, empty⟩ := missing r' hr about
    rw [code]
    exact ⟨by decide, empty⟩
  exact (found_behind_failures_iff rfl asked cut published failed _ none).2
    ⟨fun r' hr about => (missing r' hr about).1, sound⟩

/-- After any other failure it is not, though its record yields a finding. -/
theorem key_unheard_behind_failure :
    let failure := responseOf "a" "SERVFAIL" []
    let r := responseOf "a" Response.noError [smallRecord]
    (∃ f, Yields "a._domainkey.d".toList ['a'] ['d'] smallRecord f) ∧
      ¬∃ f ∈ (handleAll none empty [some failure, some r]).findings, f.source.selector = ['a'] := by
  intro failure r
  refine ⟨(yields_smallRecord _ _ _).2, ?_⟩
  have counts : concerns ['a'] (some failure) = true := by decide
  rw [exists_finding_iff, List.find?_cons_of_pos counts]
  rintro ⟨_, ⟨⟩, fs, brought, filled⟩
  exact filled (eq_nil_of_credit? rfl brought)

/-! ## Another order -/

/-- The second sequence has the responses of the first in another order, but those that concern one
selector in the same order. -/
structure Rearranged (rs rs' : List (Option Response)) : Prop where
  perm : rs.Perm rs'
  order : ∀ selector, rs.filter (concerns selector) = rs'.filter (concerns selector)

/-- Findings that agree selector by selector are the same in some order. -/
theorem findings_perm_of_about {s s' : Session}
    (h : ∀ selector, s.findingsAbout selector = s'.findingsAbout selector) :
    s.findings.Perm s'.findings := by
  rw [List.perm_iff_count]
  intro f
  have count (s : Session) : (s.findingsAbout f.source.selector).count f = s.findings.count f :=
    List.count_filter (decide_eq_true rfl)
  rw [← count s, ← count s', h]

/-- After a sequence of responses none of them has anything left to bring. -/
theorem idle_of_mem {s : Session} {rs : List (Option Response)} {r : Option Response}
    (h : r ∈ rs) : (handleAll listener s rs).Idle r := by
  have same : ((handleAll listener s rs).handle listener r).session = handleAll listener s rs := by
    rw [handle_session]
    cases hr : credit? r with
    | none => rfl
    | some credit =>
      obtain ⟨x, fs⟩ := credit
      rw [take_some, if_pos (mem_found_handleAll.2 (.inr ⟨fs, mem_credits.2 ⟨r, h, hr⟩⟩))]
  exact handle_session_eq_iff.1 same

/-- Responses that are all idle leave a session as it is, and the listener alone. -/
theorem handleAll_of_idle {s : Session} {rs : List (Option Response)} (h : ∀ r ∈ rs, s.Idle r) :
    handleAll listener s rs = s ∧ announcements listener s rs = [] := by
  induction rs with
  | nil => exact ⟨rfl, rfl⟩
  | cons r rs ih =>
    obtain ⟨idle, rest⟩ := List.forall_mem_cons.1 h
    obtain ⟨same, silent⟩ := ih rest
    obtain ⟨notes, unchanged⟩ := handle_of_idle listener idle
    constructor
    · rw [handleAll, List.foldl_cons, unchanged]
      exact same
    · rw [announcements, unchanged]
      exact silent

/-- Responses in another order, but in the same order for each selector, lead to the same selectors
and, in some order, the same findings, whatever the listeners make of them and from whatever session
on; and any of them handled once more, in any order, change nothing and are not announced. -/
theorem handleAll_rearranged {rs rs' : List (Option Response)} (h : Rearranged rs rs')
    (s : Session) (listener listener' : Option Listener) :
    let t := handleAll listener s rs
    let t' := handleAll listener' s rs'
    (∀ selector, selector ∈ t.found ↔ selector ∈ t'.found) ∧ t.findings.Perm t'.findings ∧
      ∀ again ⊆ rs, ∀ listener'' : Option Listener,
        handleAll listener'' t again = t ∧ announcements listener'' t again = [] := by
  intro t t'
  refine ⟨?_, ?_, ?_⟩
  · intro selector
    rw [mem_found_handleAll, mem_found_handleAll, exists_mem_credits_iff, exists_mem_credits_iff]
    simp only [h.perm.mem_iff]
  · apply findings_perm_of_about
    intro selector
    rw [findingsAbout_handleAll, findingsAbout_handleAll, lookup_credits, lookup_credits,
      ← List.head?_filter, ← List.head?_filter, h.order selector]
  · intro again within listener''
    exact handleAll_of_idle fun r hr => idle_of_mem (within hr)

/-- Two answers about one selector, one about another, a lookup that was given up and a name that
does not exist, in two orders. -/
theorem handleAll_rearranged_mixed :
    let a := some (responseOf "a" Response.noError [smallRecord])
    let a' := some (responseOf "a" Response.noError [plainRecord (PublicKey.writeBare ⟨33, 3⟩)])
    let b := some (responseOf "b" Response.noError [smallRecord])
    let missing := some (responseOf "a" Response.noSuchName [])
    let t := handleAll none empty [a, b, a', none, missing]
    let t' := handleAll (some refusing) empty [b, a, missing, a', none]
    t.findings.Perm t'.findings ∧ t.findings.length = 2 ∧
      handleAll none t [a', b, a] = t ∧ announcements (some refusing) t [a', b, a] = [] := by
  intro a a' b missing t t'
  have rearranged : Rearranged [a, b, a', none, missing] [b, a, missing, a', none] := by
    constructor
    · exact (List.Perm.swap b a _).trans
        ((@List.perm_append_comm _ [a', none] [missing]).append_left [b, a])
    · intro selector
      by_cases ha : selector = ['a']
      · subst ha
        rfl
      by_cases hb : selector = ['b']
      · subst hb
        rfl
      have about : ∀ r ∈ [a, b, a', none, missing],
          r.bind Response.selector? ∈ [some ['a'], some ['b'], none] := by
        decide
      have silent (rs : List (Option Response)) (h : rs ⊆ [a, b, a', none, missing]) :
          rs.filter (concerns selector) = [] := by
        rw [List.filter_eq_nil_iff]
        intro r hr counts
        have asked := about r (h hr)
        cases r with
        | none => cases counts
        | some r =>
          rw [Option.bind_some, (concerns_some_iff.1 counts).2] at asked
          simp [ha, hb] at asked
      rw [silent _ (List.Subset.refl _), silent]
      simp
  obtain ⟨-, findings, again⟩ := handleAll_rearranged rearranged empty none (some refusing)
  have within : [a', b, a] ⊆ [a, b, a', none, missing] := by simp
  exact ⟨findings, by decide +kernel, (again _ within none).1, (again _ within _).2⟩

end SelectorScan.Session
