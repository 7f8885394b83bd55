import SelectorScan.Proofs.Lookup.Client

/-!
# Runs that fail

A run of a stream that fails submits the candidates before the fault, in order, and fails then,
whatever is in flight. To the scheduler, and to every other call, it has been the same as a client
that submits these candidates one after another (`InStep`); and a lookup that was submitted goes
through what its replies tell, as it would by itself (`tale`).

    eventsOf n s.history = .granted n call target ::
      s.terms.tale n target.name (replies (eventsOf n s.history))   (Reachable.eventsOf_eq_tale)
-/

namespace SelectorScan.Lookup

open Candidate

variable {σ η α : Type} {read : Text → Reading}

/-! ## A lookup by itself -/

/-- What a lookup goes through by itself that may make so many attempts and whose queries meet these
replies, one after the other; a query that has not met one waits. -/
def attempting (n : Nat) (name : Text) : Nat → List (Reply α) → List (Event α)
  | 0, _ => [.handled n none, .released n]
  | _ + 1, [] => [.asked n name]
  | _ + 1, .answer value :: _ =>
    [.asked n name, .replied n (.answer value), .handled n (some value), .released n]
  | _ + 1, .breakdown message :: _ =>
    [.asked n name, .replied n (.breakdown message), .released n]
  | left + 1, .failure :: rest => .asked n name :: .replied n .failure :: attempting n name left rest

/-- What a lookup of the given name goes through by itself. -/
def Terms.tale (terms : Terms) (n : Nat) (name : Text) (rs : List (Reply α)) : List (Event α) :=
  match terms.read name with
  | .breakdown message => [.unread n message, .released n]
  | _ => attempting n name (terms.allowance name) rs

theorem Terms.tale_eq {terms : Terms} {name : Text}
    (readable : ∀ message, terms.read name ≠ .breakdown message) (n : Nat) (rs : List (Reply α)) :
    terms.tale n name rs = attempting n name (terms.allowance name) rs := by
  unfold tale
  split
  · next message unread => exact absurd unread (readable message)
  · rfl

theorem failures_succ (n : Nat) (name : Text) (k : Nat) : failures (α := α) n name (k + 1) =
    .asked n name :: .replied n .failure :: failures n name k := by
  induction k with
  | zero => rfl
  | succ k ih =>
    show failures n name (k + 1) ++ _ = _ :: _ :: (failures n name k ++ _)
    rw [ih]
    rfl

/-- Failures come first. -/
theorem attempting_failures (n : Nat) (name : Text) (k left : Nat) (rest : List (Reply α)) :
    attempting n name (k + left) (List.replicate k .failure ++ rest) =
      failures n name k ++ attempting n name left rest := by
  induction k with
  | zero => simp [failures]
  | succ k ih =>
    rw [failures_succ, Nat.succ_add, List.replicate_succ, List.cons_append, attempting, ih]
    rfl

theorem handled_attempting (n m : Nat) (name : Text) (left : Nat) (rs : List (Reply α)) :
    (handled (attempting n name left rs)).map Prod.snd =
      (handled (attempting m name left rs)).map Prod.snd := by
  induction left generalizing rs with
  | zero => rfl
  | succ left ih =>
    cases rs with
    | nil => rfl
    | cons r rest =>
      cases r with
      | failure => exact ih rest
      | _ => rfl

/-- The handler is given the same whatever number a lookup has. -/
theorem Terms.handled_tale (terms : Terms) (n m : Nat) (name : Text) (rs : List (Reply α)) :
    (handled (terms.tale n name rs)).map Prod.snd =
      (handled (terms.tale m name rs)).map Prod.snd := by
  unfold tale
  split
  · rfl
  · exact handled_attempting n m name _ rs

/-- A lookup whose query waits, or that has ended, has gone through its tale. -/
theorem Stage.Spent.tale_eq {terms : Terms} {name : Text} {asked k n : Nat} {b : Stage α}
    (h : b.Spent name (terms.allowance name) asked k) (fits : b.Fits (terms.read name))
    (landed : (∃ name left, b = .asking name left) ∨ ∃ o, b = .gone o) :
    terms.tale n name (List.replicate k .failure ++ b.reply?.toList) =
      failures n name k ++ b.events n name := by
  have split (left : Nat) (e : terms.allowance name = k + left) :=
    e ▸ attempting_failures n name k left b.reply?.toList
  rcases landed with ⟨name', left, rfl⟩ | ⟨o, rfl⟩
  · obtain ⟨rfl, used, out⟩ := h
    rw [Terms.tale_eq fits]
    exact split (left + 1) (by omega)
  · cases o with
    | unread message =>
      obtain ⟨-, -, rfl⟩ := h
      rw [Terms.tale, show terms.read name = .breakdown message from fits]
      rfl
    | gaveUp =>
      obtain ⟨-, rfl⟩ := h
      rw [Terms.tale_eq fits]
      exact split 0 rfl
    | answered value =>
      obtain ⟨_, _⟩ : _ ∧ _ := h
      rw [Terms.tale_eq fits]
      exact split (terms.allowance name - k - 1 + 1) (by omega)
    | broke message =>
      obtain ⟨_, _⟩ : _ ∧ _ := h
      rw [Terms.tale_eq fits]
      exact split (terms.allowance name - k - 1 + 1) (by omega)

/-- What happened to a lookup, leaving out which call asked for it. -/
def Event.anonymous : Event α → Event α
  | .granted lookup _ target => .granted lookup 0 target
  | e => e

namespace Scheduler

variable {ports : Ports σ η α} {s t : Scheduler σ η α}

/-- At rest each lookup has gone through its tale: its query waits, or it has ended. -/
theorem Reachable.eventsOf_eq_tale {cap : Nat} {retries : Int} {transport : σ} {handler : η}
    (h : Reachable ports (idle cap retries transport handler read) s) (rest : s.AtRest)
    {n call : Nat} {target : Target} (hg : (n, call, target) ∈ granted s.trace) :
    eventsOf n s.history = .granted n call target ::
        s.terms.tale n target.name (replies (eventsOf n s.history)) ∧
      (n ∈ s.waiting.map Job.number ∨ n ∈ ended s.trace) := by
  obtain ⟨stories, -⟩ := h.stories
  obtain ⟨b, c, place⟩ := stories.exists_course n
  obtain ⟨k, told, spent⟩ := c.exists_spent (mem_granted.1 hg)
  have here : eventsOf n s.history =
      .granted n call target :: (failures n target.name k ++ b.events n target.name) := by
    rw [history, eventsOf_reverse, told]
  have met : replies (eventsOf n s.history) =
      List.replicate k .failure ++ b.reply?.toList := by
    rw [here, ← replies_failures n target.name, ← b.replies_events n target.name, ← replies_append]
    rfl
  have landed : (∃ name left, b = .asking name left) ∧ n ∈ s.waiting.map Job.number ∨
      (∃ o, b = .gone o) ∧ n ∈ ended s.trace := by
    rcases place with ⟨-, rfl⟩ | stands | ⟨ended, gone⟩
    · exact spent.elim
    · rw [stations_of_atRest rest] at stands
      obtain ⟨l, hl, e⟩ := List.mem_map.1 stands
      cases e
      exact .inl ⟨⟨_, _, rfl⟩, List.mem_map_of_mem hl⟩
    · exact .inr ⟨gone, ended⟩
  refine ⟨?_, landed.imp And.right And.right⟩
  rw [met, spent.tale_eq (c.fits (mem_granted.1 hg)) (landed.imp And.left And.left)]
  exact here

/-! ## What is alike -/

section Alike

variable {run : Nat} {N : Numbering run} {own : Option (Nat × Ask)} {es fs : List (Event α)}

theorem targetsOf_deeds (call : Nat) (es : List (Event α)) :
    targetsOf call (deeds es) = targetsOf call es := by
  have same : granted (deeds es) = granted es := by
    unfold granted deeds
    rw [List.filterMap_filter]
    congr 1
    funext e
    cases e <;> rfl
  rw [targetsOf, same, targetsOf]

/-- Calls that stand for one another are given slots for the same targets. -/
theorem targetsOf_eq_of_alike {i j : Nat} (hi : i ≠ run) (hs : N.Stands i j)
    (h : List.Forall₂ (Event.Alike N) es fs) : targetsOf i es = targetsOf j fs := by
  induction h with
  | nil => rfl
  | @cons e f es fs he _ ih =>
    cases he with
    | same _ none =>
      have skip (call : Nat) (es : List (Event α)) : targetsOf call (e :: es) = targetsOf call es := by
        rw [targetsOf, granted, List.filterMap_cons_none none]
        rfl
      rw [skip, skip, ih]
    | @granted i' j' hs' lookup target =>
      by_cases same : i = i'
      · obtain rfl := same
        obtain rfl := N.single hi hs hs'
        rw [targetsOf_granted, targetsOf_granted, ih]
      · have same' : j ≠ j' := by
          rintro rfl
          exact same (N.function hs' hs)
        rw [targetsOf_granted_ne same, targetsOf_granted_ne same', ih]

/-- The same happens to lookups, whoever asked for them. -/
theorem map_anonymous_eq_of_alike (h : List.Forall₂ (Event.Alike N) es fs) :
    es.map Event.anonymous = fs.map Event.anonymous := by
  induction h with
  | nil => rfl
  | cons he _ ih =>
    rw [List.map_cons, List.map_cons, ih]
    cases he <;> rfl

/-- The same lookups are waited for. -/
theorem map_wish_target_eq_of_alike {as bs : List Ask}
    (h : List.Forall₂ (Ask.Alike N own) as bs) :
    as.map (fun a => a.wish.target) = bs.map fun b => b.wish.target := by
  induction h with
  | nil => rfl
  | cons ha _ ih => rw [List.map_cons, List.map_cons, ih, Ask.wish, ha.selector, ha.domain, Ask.wish]

end Alike

/-! ## What a run does whose stream fails -/

/-- A run that has been called is remembered. -/
theorem Reachable.request_eq {request : Request} (hr : Roster [] s)
    (h : Reachable ports (s.receive request) t) : t.requests[s.calls.length]? = some request := by
  have made : (s.requests ++ [request])[s.calls.length]? = some request := by
    rw [← hr.length]
    exact List.getElem?_concat_length
  have moves : Moves ports
      { s with requests := s.requests ++ [request], calls := s.calls ++ [Call.waiting] } t :=
    (moves_receive request s).trans h.moves
  obtain ⟨more, e⟩ := moves.requests_grow
  rw [← e, List.getElem?_append_left (List.getElem?_eq_some_iff.1 made).1]
  exact made

/-- A run whose stream fails waits until it has slots for all candidates, and fails then. -/
theorem Roster.failing_call (h : Roster [] s) {run : Nat} {candidates : Candidates} {domain : Text}
    {fault : Fault} (hr : s.requests[run]? = some (.run candidates domain))
    (failing : candidates.fault = some fault) :
    targetsOf run s.trace <+: Request.targets (.run candidates domain) ∧
      s.calls[run]? = some (if targetsOf run s.trace = Request.targets (.run candidates domain) then
        .failed fault else .waiting) := by
  have lt : run < s.calls.length := h.length ▸ (List.getElem?_eq_some_iff.1 hr).1
  have told {p : Post} (hs : s.Standing p) (hp : p.call = run) :
      targetsOf run s.trace ++ p.targets = Request.targets (.run candidates domain) ∧
        p.fault = some fault ∧ s.calls[run]? = some p.state := by
    obtain ⟨state, r, hr', whole, hf, -⟩ := hs
    rw [hp] at hr' whole state
    cases hr.symm.trans hr'
    exact ⟨whole, hf.symm.trans failing, state⟩
  rcases h.ended run lt with hc | ⟨fault', single, hs⟩
  · obtain ⟨p, hp, rfl⟩ := List.mem_map.1 hc
    change p ∈ s.posts at hp
    obtain ⟨whole, hf, state⟩ := told (h.told p hp) rfl
    rcases List.mem_append.1 hp with hp | hp
    · obtain ⟨a, -, rfl⟩ := List.mem_map.1 hp
      refine ⟨⟨_, whole⟩, ?_⟩
      rw [if_neg, state]
      · rfl
      · intro all
        rw [← whole] at all
        simpa [Ask.post] using congrArg List.length all
    · -- a call that drains has no fault
      rcases List.mem_append.1 hp with hp | hp
      · obtain ⟨d, -, rfl⟩ := List.mem_map.1 hp
        cases hf
      · obtain ⟨c, -, hc⟩ := List.mem_filterMap.1 hp
        cases c <;> cases hc
        cases hf
  · obtain ⟨whole, hf, state⟩ := told hs rfl
    obtain rfl : fault' = some fault := hf
    rw [endPost, List.append_nil] at whole
    rw [if_pos whole, state]
    exact ⟨⟨[], by rw [List.append_nil, whole]⟩, rfl⟩

/-- A run with these targets that failed, or is to fail, in a scheduler `s`; and a client that
submits the same ones, in a scheduler of its own. -/
structure FailsCleanly (run : Nat) (targets : List Target) (fault : Fault) (s : Scheduler σ η α)
    (c : Client σ η α) : Prop where
  /-- The run is given slots for its targets in their order. -/
  submits : targetsOf run s.trace <+: targets
  /-- When it has got all of them it fails, whatever is in flight; until then it waits for slots. -/
  raises : s.calls[run]? =
    some (if targetsOf run s.trace = targets then .failed fault else .waiting)
  /-- Slots, counters, waiting queries, transport and handler are the client's. -/
  agree : Agree s c.scheduler
  /-- So are the targets that calls wait for, in order. -/
  line : s.asks.map (fun a => a.wish.target) = c.scheduler.asks.map fun a => a.wish.target
  /-- The same has happened to lookups, in the same order. -/
  deeds : (deeds s.trace).map Event.anonymous = (Lookup.deeds c.scheduler.trace).map Event.anonymous
  /-- The one is at rest when the other one is. -/
  rest : s.AtRest ↔ c.scheduler.AtRest
  /-- The calls of others have come as far, for the same requests and with slots for the same
  targets. -/
  others : List.Forall₂ (fun i j => s.requests[i]? = c.scheduler.requests[j]? ∧
      s.calls[i]? = c.scheduler.calls[j]? ∧ targetsOf i s.trace = targetsOf j c.scheduler.trace)
    ((List.range s.calls.length).eraseIdx run) c.theirs
  /-- At rest each lookup of the run has gone through its tale: its query waits, or it has ended. -/
  runs : s.AtRest → ∀ n target, (n, run, target) ∈ granted s.trace →
    eventsOf n s.history = .granted n run target ::
        s.terms.tale n target.name (replies (eventsOf n s.history)) ∧
      (n ∈ s.waiting.map Job.number ∨ n ∈ ended s.trace)
  /-- The handler is given what it is given in any other scheduler, by itself or not, about a lookup
  for the same name that has met the same replies. -/
  alone : s.AtRest → ∀ n target, (n, run, target) ∈ granted s.trace →
    ∀ (ports : Ports σ η α) (cap : Nat) (retries : Int) (transport : σ) (handler : η)
      (read : Text → Reading) (m call : Nat) (target' : Target) (u : Scheduler σ η α),
      Reachable ports (idle cap retries transport handler read) u → u.AtRest →
      u.terms = s.terms → (m, call, target') ∈ granted u.trace → target'.name = target.name →
      replies (eventsOf m u.history) = replies (eventsOf n s.history) →
      (handled (eventsOf m u.history)).map Prod.snd = (handled (eventsOf n s.history)).map Prod.snd
  /-- At rest the run waits only if queries wait in all slots. -/
  blocked : s.AtRest → s.calls[run]? = some .waiting → s.waiting.length = s.cap
  /-- At rest, when no query waits, the run has failed, and all other calls and all lookups have
  ended. -/
  completes : 1 ≤ s.cap → s.AtRest → s.waiting = [] → s.calls[run]? = some (.failed fault) ∧
    (∀ x ∈ s.calls, x = .done ∨ ∃ f, x = .failed f) ∧ ∀ n < s.submitted, n ∈ ended s.trace

/-- The calls of others stand for one another. -/
theorem InStep.others {run : Nat} {N : Numbering run} {own : Option (Nat × Ask)} {domain : Text}
    {fault : Fault} {c : Client σ η α} (h : InStep domain fault N own s c) :
    List.Forall₂ (fun i j => s.requests[i]? = c.scheduler.requests[j]? ∧
        s.calls[i]? = c.scheduler.calls[j]? ∧ targetsOf i s.trace = targetsOf j c.scheduler.trace)
      ((List.range s.calls.length).eraseIdx run) c.theirs := by
  rw [h.alike.first.2]
  refine h.fits.imp ?_
  rintro i j ⟨hi, hs⟩
  obtain ⟨requests, calls⟩ := h.alike.others i j hi hs
  refine ⟨requests, calls, ?_⟩
  rw [← targetsOf_deeds i, ← targetsOf_deeds j]
  exact targetsOf_eq_of_alike hi hs h.alike.trace

/-- Whatever else is going on, a run whose stream fails submits the candidates before the fault in
order and fails then; and all has happened as if a client had submitted them one after another. -/
theorem failing_run_as_submits {cap : Nat} {retries : Int} {transport : σ} {handler : η}
    (h : Reachable ports (idle cap retries transport handler read) s) {candidates : Candidates}
    {fault : Fault} (failing : candidates.fault = some fault) (domain : Text)
    (acts : List (Act α)) :
    FailsCleanly s.calls.length (targets domain candidates.selectors) fault
      ((s.receive (.run candidates domain)).play ports acts)
      ((Client.start domain candidates.selectors s).play ports domain acts) := by
  have reached := (h.call (.run candidates domain)).play acts
  have request : ((s.receive (.run candidates domain)).play ports acts).requests[s.calls.length]? =
      some (.run candidates domain) :=
    Reachable.request_eq h.roster (Reachable.play .refl acts)
  obtain ⟨submits, raises⟩ := reached.roster.failing_call request failing
  obtain ⟨N, own, inStep⟩ := inStep_play h failing domain acts
  revert reached submits raises inStep
  generalize (s.receive (.run candidates domain)).play ports acts = t
  generalize (Client.start domain candidates.selectors s).play ports domain acts = c
  generalize s.calls.length = run at N
  intro reached submits raises inStep
  have alike := inStep.alike
  refine ⟨submits, raises, alike.toAgree, map_wish_target_eq_of_alike alike.asks,
    map_anonymous_eq_of_alike alike.trace, ?_, inStep.others, ?_, ?_, ?_, ?_⟩
  · rw [AtRest, AtRest, ← List.length_eq_zero_iff, alike.chores.length_eq, List.length_eq_zero_iff]
  · intro rest n target hg
    exact reached.eventsOf_eq_tale rest hg
  · intro rest n target hg ports' cap' retries' transport' handler' read' m call target' u hu rest'
      terms hg' same met
    obtain ⟨mine, -⟩ := reached.eventsOf_eq_tale rest hg
    obtain ⟨other, -⟩ := hu.eventsOf_eq_tale rest' hg'
    rw [met, terms, same] at other
    rw [mine, other]
    exact t.terms.handled_tale m n target.name _
  · intro rest hw
    exact reached.waiting_of_asks rest (reached.roster.asks_ne_nil (List.mem_of_getElem? hw))
  · intro hcap rest hw
    have hf : t.flight = [] := by
      have perm := reached.underway.flight_perm rest
      rw [hw] at perm
      exact perm.eq_nil
    have ended (x : Call) (hx : x ∈ t.calls) : x = .done ∨ ∃ f, x = .failed f :=
      reached.call_ended (reached.cap_eq ▸ hcap) rest hf hx
    refine ⟨?_, ended, ?_⟩
    · split at raises
      · exact raises
      · rcases ended _ (List.mem_of_getElem? raises) with e | ⟨f, e⟩
        · cases e
        · cases e
    · intro n hn
      exact (reached.ended_perm hf).mem_iff.2 (List.mem_range.2 hn)

def faulty : Candidates :=
  ⟨["wa", "wb"].map fun x => .candidate x.toList, some (.expansion .tooManyIndexes)⟩

/-- Queries are replied to in the order in which they are made, all but the last one, and in between
a drain is called. -/
def faultyActs : List (Act Nat) :=
  .reply 0 .failure :: List.replicate 6 .turn ++ .call .drain :: .reply 0 (.answer 1) ::
    List.replicate 6 .turn ++ .reply 0 (.answer 2) :: List.replicate 6 .turn

/-- The run is called when the only slot is taken and another call waits; it fails while the last of
its lookups is in flight, and the drain still waits for this one. -/
theorem failing_run_as_submits_full :
    let s := (full.receive (.run faulty "d".toList)).play sample faultyActs
    let c := (Client.start "d".toList faulty.selectors full).play sample "d".toList faultyActs
    s.calls = [.done, .done, .failed (.expansion .tooManyIndexes), .draining none] ∧
      s.flight = [3] ∧ c.scheduler.calls = [.done, .done, .done, .draining none, .done] ∧
      c.theirs = [0, 1, 3] ∧
      FailsCleanly 2 (targets "d".toList faulty.selectors) (.expansion .tooManyIndexes) s c :=
  ⟨by decide, by decide, by decide, by decide,
    failing_run_as_submits reachable_full rfl "d".toList faultyActs⟩

end Scheduler

end SelectorScan.Lookup
