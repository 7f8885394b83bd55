import SelectorScan.Session

/-!
# The order of responses

A session takes from a response at most a selector and findings, and only if the selector is new
(`handle_session`). So two responses may change places unless they are about one selector and
differ; and when responses about one selector never differ, their order does not matter.

    rs.Perm rs' → Agree rs → Similar (handleAll listener s rs) (handleAll listener s rs')
                                                                            (handleAll_perm)
-/

namespace SelectorScan

open KeyRecord Key Dns

/-- The selector in the name that a response is about. -/
def Dns.Response.selector? (r : Response) : Option Text :=
  r.question.bind fun question => (splitName question.toText).map Prod.fst

namespace Session

variable {listener : Option Listener}

/-! ## What a response brings -/

def findingsIn (name selector domain : Text) (records : List TextRecord) : List Finding :=
  match (firstFinding name domain selector records).1 with
  | .ok (some f) => [f]
  | _ => []

/-- The selector that a response settles if it is new, and the findings in the response. -/
def credit? : Option Response → Option (Text × List Finding)
  | none => none
  | some r =>
    if r.code = Response.noSuchName then none
    else
      r.question.bind fun question => (splitName question.toText).map fun parts =>
        (parts.1, findingsIn question.toText parts.1 parts.2 r.textRecords)

/-- Takes a selector and its findings if the selector is new. -/
def take (s : Session) : Option (Text × List Finding) → Session
  | none => s
  | some (selector, findings) =>
    if selector ∈ s.found then s else ⟨selector :: s.found, s.findings ++ findings⟩

theorem settle_session (s : Session) (name selector domain : Text) (records : List TextRecord) :
    (s.settle listener name selector domain records).session =
      ⟨selector :: s.found, s.findings ++ findingsIn name selector domain records⟩ := by
  unfold settle findingsIn
  cases h : firstFinding name domain selector records with
  | mk result notes =>
    cases result with
    | error e => simp
    | ok finding =>
      cases finding with
      | none => simp [unchanged]
      | some f => cases listener <;> rfl

theorem take_some (s : Session) (selector : Text) (findings : List Finding) :
    s.take (some (selector, findings)) =
      if selector ∈ s.found then s else ⟨selector :: s.found, s.findings ++ findings⟩ := rfl

/-- A session takes what a response brings; the listener has no part in that. -/
theorem handle_session (s : Session) (response : Option Response) :
    (s.handle listener response).session = s.take (credit? response) := by
  cases response with
  | none => rfl
  | some r =>
    by_cases hc : r.code = Response.noSuchName
    · simp only [handle, credit?, if_pos hc]
      rfl
    · simp only [handle, credit?, if_neg hc]
      cases r.question with
      | none => rfl
      | some question =>
        simp only [Option.bind_some]
        cases splitName question.toText with
        | none => rfl
        | some parts =>
          simp only [Option.map_some, take_some, List.contains_iff_mem]
          split
          · rfl
          · exact settle_session ..

theorem handleAll_eq (s : Session) (rs : List (Option Response)) :
    handleAll listener s rs = (rs.map credit?).foldl take s := by
  rw [handleAll, List.foldl_map]
  congr 1
  funext s r
  exact handle_session s r

/-! ## Changing places -/

/-- The same selectors are found, and the same findings are made, in some order. -/
structure Similar (s s' : Session) : Prop where
  found : s.found.Perm s'.found
  findings : s.findings.Perm s'.findings

theorem Similar.refl (s : Session) : Similar s s :=
  ⟨List.Perm.refl _, List.Perm.refl _⟩

theorem Similar.trans {s t u : Session} (h : Similar s t) (h' : Similar t u) : Similar s u :=
  ⟨h.found.trans h'.found, h.findings.trans h'.findings⟩

theorem Similar.take {s s' : Session} (h : Similar s s') (credit : Option (Text × List Finding)) :
    Similar (s.take credit) (s'.take credit) := by
  cases credit with
  | none => exact h
  | some c =>
    obtain ⟨selector, findings⟩ := c
    rw [take_some, take_some]
    by_cases hx : selector ∈ s.found
    · rwa [if_pos hx, if_pos (h.found.mem_iff.1 hx)]
    · rw [if_neg hx, if_neg (mt h.found.mem_iff.2 hx)]
      exact ⟨h.found.cons _, h.findings.append_right _⟩

theorem Similar.foldl {s s' : Session} (h : Similar s s')
    (credits : List (Option (Text × List Finding))) :
    Similar (credits.foldl Session.take s) (credits.foldl Session.take s') := by
  induction credits generalizing s s' with
  | nil => exact h
  | cons c credits ih => exact ih (h.take c)

/-- Credits for different selectors may change places. -/
theorem similar_take_take (s : Session) {x y : Text} (ne : x ≠ y) (fs gs : List Finding) :
    Similar ((s.take (some (x, fs))).take (some (y, gs)))
      ((s.take (some (y, gs))).take (some (x, fs))) := by
  by_cases hx : x ∈ s.found
  · by_cases hy : y ∈ s.found
    · simpa [take_some, hx, hy] using Similar.refl s
    · simpa [take_some, hx, hy] using Similar.refl _
  · by_cases hy : y ∈ s.found
    · simpa [take_some, hx, hy] using Similar.refl _
    · simp only [take_some, List.mem_cons, ne, ne.symm, hx, hy, or_self, if_false]
      constructor
      · exact List.Perm.swap ..
      · rw [List.append_assoc, List.append_assoc]
        exact List.perm_append_comm.append_left _

/-- Credits for one selector are equal. -/
def Agree (credits : List (Option (Text × List Finding))) : Prop :=
  ∀ selector fs gs, some (selector, fs) ∈ credits → some (selector, gs) ∈ credits → fs = gs

/-- The order of credits does not matter. -/
theorem similar_foldl_of_perm {cs cs' : List (Option (Text × List Finding))} (h : cs.Perm cs')
    (agree : Agree cs) (s : Session) : Similar (cs.foldl take s) (cs'.foldl take s) := by
  induction h generalizing s with
  | nil => exact .refl s
  | cons c _ ih =>
    apply ih
    intro x fs gs hf hg
    apply agree x fs gs
    · exact List.mem_cons_of_mem _ hf
    · exact List.mem_cons_of_mem _ hg
  | swap c c' l =>
    show Similar (l.foldl take ((s.take c').take c)) (l.foldl take ((s.take c).take c'))
    apply Similar.foldl
    cases c with
    | none => exact .refl _
    | some c =>
      cases c' with
      | none => exact .refl _
      | some c' =>
        obtain ⟨x, fs⟩ := c
        obtain ⟨y, gs⟩ := c'
        by_cases e : y = x
        · subst e
          rw [agree y gs fs List.mem_cons_self (List.mem_cons_of_mem _ List.mem_cons_self)]
          exact .refl _
        · exact similar_take_take s e gs fs
  | trans h _ ih ih' =>
    apply (ih agree s).trans
    apply ih'
    intro x fs gs hf hg
    apply agree x fs gs
    · exact h.mem_iff.2 hf
    · exact h.mem_iff.2 hg

/-- What a response brings is brought about the selector in its question. -/
theorem selector?_of_credit? {r : Response} {selector : Text} {fs : List Finding}
    (h : credit? (some r) = some (selector, fs)) : r.selector? = some selector := by
  by_cases hc : r.code = Response.noSuchName
  · simp only [credit?, if_pos hc] at h
    cases h
  · simp only [credit?, if_neg hc, Option.bind_eq_some_iff, Option.map_eq_some_iff] at h
    obtain ⟨question, hq, parts, hp, e⟩ := h
    rw [Response.selector?, hq, Option.bind_some, hp]
    exact congrArg some (Prod.mk.inj e).1

/-- When answers about one selector are equal, the order of responses does not matter. -/
theorem handleAll_perm {rs rs' : List (Option Response)} (h : rs.Perm rs')
    (agree : ∀ r r' selector, some r ∈ rs → some r' ∈ rs → r.selector? = some selector →
      r'.selector? = some selector → r = r') (s : Session) :
    Similar (handleAll listener s rs) (handleAll listener s rs') := by
  rw [handleAll_eq, handleAll_eq]
  refine similar_foldl_of_perm (h.map credit?) ?_ s
  intro selector fs gs hf hg
  obtain ⟨r, hr, ef⟩ := List.mem_map.1 hf
  obtain ⟨r', hr', eg⟩ := List.mem_map.1 hg
  cases r with
  | none => cases ef
  | some r =>
    cases r' with
    | none => cases eg
    | some r' =>
      obtain rfl := agree r r' selector hr hr' (selector?_of_credit? ef) (selector?_of_credit? eg)
      exact (Prod.mk.inj (Option.some.inj (ef.symm.trans eg))).2

end Session

end SelectorScan
