import Mathlib.Data.List.Nodup
import Mathlib.Data.List.Perm.Subperm
import SelectorScan.Lookup.Sequential
import SelectorScan.Proofs.Lookup.Completion

/-!
# A run on its own

When a run is the only call and is done, its lookups are those of its candidates, each once, and all
of them have ended. If the transport decides a lookup by its name (`Decided`), then whatever came in
between, what the handler was given is what the names decide, in some order.

    ((handled s.trace).map Prod.snd).Perm
      (c.selectors.filterMap fun x => outcome read final (questionName x domain))
                                                                       (Reachable.responses_perm)
-/

namespace SelectorScan.Lookup

open Candidate

variable {σ η α : Type} {read : Text → Reading}

/-! ## Names that decide -/

/-- What the handler is given about a lookup, when `final` says what comes of a name that is well
formed. -/
def outcome (read : Text → Reading) (final : Text → Option α) (name : Text) : Option (Option α) :=
  match read name with
  | .wellFormed => some (final name)
  | .malformed _ => some none
  | .breakdown _ => none

/-- Lookups are decided by their names: they are answered as `final` says, they use up their
attempts only if `final` has no answer, and none breaks down. -/
structure Decided (attempts : Nat) (final : Text → Option α) (trace : List (Event α)) : Prop where
  answered : ∀ g ∈ granted trace, ∀ a ∈ answers trace, a.1 = g.1 → final g.2.2.name = some a.2
  failed : ∀ g ∈ granted trace,
    (eventsOf g.1 trace).countP Event.isFailure = attempts → final g.2.2.name = none
  unbroken : crashed trace = []

/-- Queries for a well-formed name, made one after the other, come to what `final` says of it,
whatever was queried before. -/
def Ports.Settles (ports : Ports σ η α) (read : Text → Reading) (attempts : Nat)
    (final : Text → Option α) : Prop :=
  ∀ name, read name = .wellFormed →
    ∀ transport, (ports.query name attempts transport).2 = some (final name)

/-- One after the other, lookups are handled with what their names decide. -/
theorem lookUpAll_of_settles {ports : Ports σ η α} {attempts : Nat} {final : Text → Option α}
    (settles : ports.Settles read attempts final) (domain : Text) (selectors : List Points)
    (s : σ × η) :
    (ports.lookUpAll read attempts domain selectors s).2 =
      (selectors.filterMap fun x => outcome read final (questionName x domain)).foldl
        (fun h r => (ports.handle h r).state) s.2 := by
  induction selectors generalizing s with
  | nil => rfl
  | cons x selectors ih =>
    have one : (ports.lookUp read attempts (questionName x domain) s).2 =
        (outcome read final (questionName x domain)).toList.foldl
          (fun h r => (ports.handle h r).state) s.2 := by
      unfold Ports.lookUp outcome
      cases hn : read (questionName x domain) with
      | malformed message => rfl
      | breakdown message => rfl
      | wellFormed =>
        have settled := settles _ hn s.1
        cases hq : ports.query (questionName x domain) attempts s.1 with
        | mk transport response =>
          rw [hq] at settled
          obtain rfl : response = some (final (questionName x domain)) := settled
          rfl
    rw [Ports.lookUpAll_cons, ih, one, List.filterMap_cons]
    cases outcome read final (questionName x domain) <;> rfl

/-- A transport that replies at once, as `final` says. -/
def answering (final : Text → Option α) (_ : Unit) (name : Text) : Asked Unit α :=
  ⟨(), [], some ((final name).elim .failure .answer)⟩

theorem settles_answering {ports : Ports Unit η α} {final : Text → Option α}
    (ha : ports.ask = answering final) (attempts : Nat) :
    ports.Settles read (attempts + 1) final := by
  intro name _ transport
  induction attempts with
  | zero =>
    simp only [Ports.query, ha, answering]
    cases final name with
    | none => rfl
    | some value => rfl
  | succ attempts ih =>
    rw [Ports.query]
    simp only [ha, answering]
    cases hf : final name with
    | none =>
      rw [hf] at ih
      exact ih
    | some value => rfl

namespace Scheduler

variable {ports : Ports σ η α} {s t : Scheduler σ η α}

/-- What the handler is given about a lookup is what its name decides. -/
theorem Stories.response_eq (h : s.Stories) {final : Text → Option α}
    (decided : Decided s.terms.attempts final s.trace) {n call : Nat} {target : Target}
    {r : Option α} (hr : (n, r) ∈ handled s.trace) (hg : (n, call, target) ∈ granted s.trace) :
    outcome s.terms.read final target.name = some r := by
  obtain ⟨o, c⟩ := h.gone n (List.mem_append_left _
    (List.mem_append_left _ (List.mem_map.2 ⟨(n, r), hr, rfl⟩)))
  have spent := c.spent (mem_granted.1 hg)
  have fits := c.fits (mem_granted.1 hg)
  have given : (n, r) ∈ o.handled n := by
    have own : (n, r) ∈ handled (eventsOf n s.trace) :=
      mem_handled.2 (mem_eventsOf.2 ⟨mem_handled.1 hr, rfl⟩)
    rwa [c.handled_eventsOf] at own
  unfold outcome
  unfold Terms.allowance at spent
  cases o with
  | broke message => cases given
  | unread message => cases given
  | answered value =>
    obtain rfl : r = some value := by simpa [Outcome.handled, Outcome.response?] using given
    have replied := (h.answered_iff n value).1 hr
    cases hn : s.terms.read target.name with
    | wellFormed => exact congrArg some (decided.answered _ hg _ replied rfl)
    | malformed message =>
      -- a malformed name leaves no attempt that could be answered
      obtain ⟨_, none⟩ : _ ∧ _ := spent
      simp only [hn, Reading.isWellFormed, Bool.false_eq_true, if_false] at none
      omega
    | breakdown message => exact absurd hn (fits message)
  | gaveUp =>
    obtain rfl : r = none := by simpa [Outcome.handled, Outcome.response?] using given
    cases hn : s.terms.read target.name with
    | wellFormed =>
      rw [hn] at spent
      exact congrArg some (decided.failed _ hg spent.2)
    | malformed message => rfl
    | breakdown message => exact absurd hn (fits message)

/-- Once the only call is done and drains, nothing is in flight. -/
theorem Reachable.flight_of_only {cap : Nat} {retries : Int} {transport : σ} {handler : η}
    {r : Request} (h : Reachable ports (idle cap retries transport handler read) s)
    (only : s.requests = [r]) (drains : r.isSubmit = false) (done : s.calls[0]? = some Call.done) :
    s.flight = [] := by
  induction h with
  | refl => cases only
  | @tail u v before hs ih =>
    have hu : Reachable ports (idle cap retries transport handler read) u := before
    by_cases early : u.calls[0]? = some Call.done
    · -- the call was done before: no other call came, and no query waits for a reply
      have one : u.requests = [r] := by
        have kept := hs.moves.requests_grow
        rw [only] at kept
        have some := (List.getElem?_eq_some_iff.1 early).1
        rw [← hu.roster.length] at some
        exact kept.eq_of_length_le some
      have hf := ih one early
      cases hs with
      | turn ht => exact flight_of_turns hu hf (.single ht)
      | call request =>
        have moves : Moves ports _ _ := moves_receive request u
        have more := moves.requests_grow.length_le
        rw [only, one] at more
        simp at more
      | reply reply hw =>
        rw [(hu.underway.chores_of_flight hf).1] at hw
        simp at hw
    · rcases hs.endsQuietly hu.roster 0 done with hd | ⟨r', hr, single⟩ | hf
      · exact absurd hd early
      · rw [only] at hr
        cases hr
        rw [drains] at single
        cases single
      · exact hf

/-- Among lookups of different numbers, those that the handler is given something about differ. -/
theorem nodup_outcomes (final : Text → Option α) {gs : List (Nat × Nat × Target)}
    (numbers : (gs.map Prod.fst).Nodup) :
    (gs.filterMap fun g => (outcome read final g.2.2.name).map fun r => (g.1, r)).Nodup := by
  refine List.Pairwise.filterMap _ ?_ (List.pairwise_map.1 numbers)
  rintro g g' differ b hb b' hb' rfl
  obtain ⟨r, -, rfl⟩ := Option.map_eq_some_iff.1 hb
  obtain ⟨r', -, e⟩ := Option.map_eq_some_iff.1 hb'
  exact differ (congrArg Prod.fst e).symm

/-- When every lookup has ended and none has crashed, the handler was given what the granted names
decide, each once. -/
theorem Stories.handled_perm (h : s.Stories) {final : Text → Option α}
    (decided : Decided s.terms.attempts final s.trace)
    (all : (ended s.trace).Perm (List.range s.submitted)) :
    (handled s.trace).Perm ((granted s.trace).filterMap fun g =>
      (outcome s.terms.read final g.2.2.name).map fun r => (g.1, r)) := by
  have numbers : ((granted s.trace).map Prod.fst).Nodup := by
    rw [h.numbers]
    exact List.nodup_reverse.2 List.nodup_range
  have nodup : (handled s.trace).Nodup := by
    have once := all.nodup_iff.2 List.nodup_range
    rw [ended] at once
    exact List.Nodup.of_map Prod.fst once.of_append_left.of_append_left
  refine (List.perm_ext_iff_of_nodup nodup (nodup_outcomes final numbers)).2 ?_
  rintro ⟨n, r⟩
  rw [List.mem_filterMap]
  constructor
  · intro hr
    have hn : n ∈ (granted s.trace).map Prod.fst := by
      rw [h.numbers, List.mem_reverse]
      refine all.mem_iff.1 (List.mem_append_left _ (List.mem_append_left _ ?_))
      exact List.mem_map.2 ⟨(n, r), hr, rfl⟩
    obtain ⟨⟨n, call, target⟩, hg, rfl⟩ := List.mem_map.1 hn
    exact ⟨(n, call, target), hg, by rw [h.response_eq decided hr hg]; rfl⟩
  · rintro ⟨⟨m, call, target⟩, hg, hr⟩
    obtain ⟨r', given, e⟩ := Option.map_eq_some_iff.1 hr
    cases e
    have hn : m ∈ ended s.trace := by
      rw [all.mem_iff, ← List.mem_reverse, ← h.numbers]
      exact List.mem_map.2 ⟨(m, call, target), hg, rfl⟩
    rw [ended, decided.unbroken, List.append_nil] at hn
    rcases List.mem_append.1 hn with hn | hn
    · obtain ⟨⟨m, r'⟩, hm, rfl⟩ := List.mem_map.1 hn
      have same := h.response_eq decided hm hg
      rw [given] at same
      cases same
      exact hm
    · -- nothing is handed over about a name that cannot be read
      obtain ⟨o, c⟩ := h.gone m (List.mem_append_right _ hn)
      rw [← mem_unreads_eventsOf, c.unreads_eventsOf] at hn
      cases o with
      | unread message =>
        have fits : s.terms.read target.name = .breakdown message := c.fits (mem_granted.1 hg)
        rw [outcome, fits] at given
        cases given
      | _ => cases hn

/-- The targets that were given slots for the only call are all that were given slots. -/
theorem Roster.targetsOf_only {hand : List Post} (h : Roster hand s) (one : s.calls.length = 1) :
    targetsOf 0 s.trace = ((granted s.trace).map fun g => g.2.2).reverse := by
  have all : (granted s.trace).filter (fun g => g.2.1 == 0) = granted s.trace := by
    rw [List.filter_eq_self]
    intro g hg
    have := h.callers g hg
    rw [one] at this
    simpa using this
  rw [targetsOf, all]

/-- What was given slots for the only call, which is done, are the targets of its request. -/
theorem Roster.targets_of_only {r : Request} (h : Roster [] s) (only : s.requests = [r])
    (done : s.calls = [.done]) :
    ((granted s.trace).map fun g => g.2.2).reverse = r.targets := by
  have first : s.calls[0]? = some Call.done := by
    rw [done]
    rfl
  obtain ⟨r', hr, whole, -⟩ := h.targets_of_done first
  rw [only] at hr
  cases hr
  rwa [h.targetsOf_only (by rw [done]; rfl)] at whole

/-- When nothing is in flight at rest, the only call has ended as its request says, and the targets
of the request were given slots. -/
theorem Reachable.end_of_only {cap : Nat} {retries : Int} {transport : σ} {handler : η} {r : Request}
    (h : Reachable ports (idle cap retries transport handler read) s) (hcap : 1 ≤ cap)
    (rest : s.AtRest) (hf : s.flight = []) (only : s.requests = [r]) :
    s.calls = [Call.ofFault r.fault] ∧
      ((granted s.trace).map fun g => g.2.2).reverse = r.targets := by
  have one : s.calls.length = 1 := by
    rw [← h.roster.length, only]
    rfl
  rcases h.roster.ended 0 (by omega) with hp | ⟨fault, single, state, r', hr, whole, hfault, -⟩
  · rw [h.posts_eq_nil hcap rest hf] at hp
    cases hp
  · rw [only] at hr
    cases hr
    constructor
    · obtain ⟨c, hc⟩ := List.length_eq_one_iff.1 one
      rw [hc] at state
      rw [hc, Option.some.inj state, hfault]
      rfl
    · rw [← h.roster.targetsOf_only one, ← whole]
      exact (List.append_nil _).symm

/-- What the handler was given in a run on its own is, in some order, what the names decide. -/
theorem Reachable.responses_perm {cap : Nat} {retries : Int} {transport : σ} {handler : η}
    {c : Candidates} {domain : Text} {final : Text → Option α}
    (h : Reachable ports (idle cap retries transport handler read) s)
    (only : s.requests = [.run c domain]) (done : s.calls = [.done])
    (decided : Decided s.terms.attempts final s.trace) :
    ((handled s.trace).map Prod.snd).Perm
      (c.selectors.filterMap fun x => outcome read final (questionName x domain)) := by
  have hf : s.flight = [] := by
    apply h.flight_of_only only rfl
    rw [done]
    rfl
  have whole : ((granted s.trace).map fun g => g.2.2).reverse = targets domain c.selectors :=
    h.roster.targets_of_only only done
  have responses := (h.stories.1.handled_perm decided (h.ended_perm hf)).map Prod.snd
  rw [List.map_filterMap, h.terms_eq] at responses
  have order := (List.reverse_perm ((granted s.trace).map fun g => g.2.2)).symm.filterMap
    fun target => outcome read final target.name
  rw [whole, targets, List.filterMap_map, List.filterMap_map] at order
  have given (g : Nat × Nat × Target) :
      ((outcome read final g.2.2.name).map fun r => (g.1, r)).map Prod.snd =
        outcome read final g.2.2.name := by
    cases outcome read final g.2.2.name <;> rfl
  simp only [given] at responses
  exact responses.trans order

end Scheduler

end SelectorScan.Lookup
