import SelectorScan.Proofs.Lookup.Attempts
import SelectorScan.Proofs.Lookup.Slots

/-!
# Retries

Whatever else is in flight, what a lookup goes through is settled by what its own queries meet: it
asks again after each failure until its attempts are used up, and any other reply ends it. At each
moment its events are its grant, so many failed queries and what its stage adds to them
(`Course.exists_events`); a lookup that may try `retries` times again and meets `f` failures before
`reply` has in the end gone through

    story retries n name f reply = failures n name (min f (retries + 1)) ++
      ((outcomeOf retries f reply).events n name ++ [.released n])             (Reachable.retried)
-/

namespace SelectorScan.Lookup

variable {σ η α : Type} {read : Text → Reading}

/-! ## The events of one lookup -/

/-- Queries of lookup `n` that fail, one after the other. -/
def failures (n : Nat) (name : Text) : Nat → List (Event α)
  | 0 => []
  | k + 1 => failures n name k ++ [.asked n name, .replied n .failure]

/-- What a lookup goes through from its last failure until it has ended so. -/
def Outcome.events (n : Nat) (name : Text) : Outcome α → List (Event α)
  | .answered value => [.asked n name, .replied n (.answer value), .handled n (some value)]
  | .gaveUp => [.handled n none]
  | .broke message => [.asked n name, .replied n (.breakdown message)]
  | .unread message => [.unread n message]

/-- What a lookup has gone through since its last failure. -/
def Stage.events (n : Nat) (name : Text) : Stage α → List (Event α)
  | .asking _ _ => [.asked n name]
  | .answered value => [.asked n name, .replied n (.answer value)]
  | .closing o => o.events n name
  | .gone o => o.events n name ++ [.released n]
  | _ => []

/-- How a lookup ends that may try `retries` times again and meets `f` failures before `reply`. -/
def outcomeOf (retries f : Nat) (reply : Reply α) : Outcome α :=
  if retries < f then .gaveUp
  else
    match reply with
    | .answer value => .answered value
    | .failure => .gaveUp
    | .breakdown message => .broke message

/-- All that such a lookup goes through since it was given its slot. -/
def story (retries n : Nat) (name : Text) (f : Nat) (reply : Reply α) : List (Event α) :=
  failures n name (min f (retries + 1)) ++
    ((outcomeOf retries f reply).events n name ++ [.released n])

theorem prefix_failures (n : Nat) (name : Text) {j k : Nat} (h : j ≤ k) :
    failures (α := α) n name j <+: failures n name k := by
  induction h with
  | refl => exact List.prefix_refl _
  | step _ ih => exact ih.trans (List.prefix_append _ _)

theorem eventsOf_reverse (n : Nat) (es : List (Event α)) :
    eventsOf n es.reverse = (eventsOf n es).reverse :=
  List.filter_reverse

/-- What comes latest stands last. -/
theorem reverse_eventsOf_cons {n : Nat} {e : Event α} {past : List (Event α)}
    (h : e.lookup? = some n) :
    (eventsOf n (e :: past)).reverse = (eventsOf n past).reverse ++ [e] := by
  rw [eventsOf_cons h, List.reverse_cons]

theorem Terms.events_begun (terms : Terms) (n : Nat) (name : Text) :
    (terms.begun name : Stage α).events n name = [] := by
  rcases terms.begun_cases (α := α) name with e | ⟨message, -, e⟩
  · rw [e]
    rfl
  · rw [e]
    rfl

/-- A lookup has met some failures before its stage, and they and the stage tell its events. -/
theorem Course.exists_events {terms : Terms} {n call : Nat} {target : Target} {b : Stage α}
    {es : List (Event α)} (h : Course terms n .unborn es b) (hg : .granted n call target ∈ es) :
    ∃ k, (eventsOf n es).reverse =
      .granted n call target :: (failures n target.name k ++ b.events n target.name) := by
  induction h with
  | nil => cases hg
  | other _ he ih =>
    rw [eventsOf_cons_ne he]
    exact ih ((mem_cons_of_lookup? he rfl).1 hg)
  | granted h =>
    rcases List.mem_cons.1 hg with e | hg
    · cases e
      refine ⟨0, ?_⟩
      rw [reverse_eventsOf_cons rfl, h.eventsOf_eq_nil rfl, terms.events_begun]
      rfl
    · exact (h.spent hg).elim
  | asked h ih =>
    have born := (List.mem_cons.1 hg).resolve_left nofun
    obtain ⟨k, told⟩ := ih born
    obtain ⟨rfl, -⟩ := h.spent born
    refine ⟨k, ?_⟩
    rw [reverse_eventsOf_cons rfl, told]
    simp [Stage.events]
  | failed h ih =>
    obtain ⟨k, told⟩ := ih ((List.mem_cons.1 hg).resolve_left nofun)
    refine ⟨k + 1, ?_⟩
    rw [reverse_eventsOf_cons rfl, told]
    simp [Stage.events, failures]
  | unread _ ih | answered _ ih | broke _ ih | handled _ ih | gaveUp _ ih | released _ ih =>
    obtain ⟨k, told⟩ := ih ((List.mem_cons.1 hg).resolve_left nofun)
    refine ⟨k, ?_⟩
    rw [reverse_eventsOf_cons rfl, told]
    simp [Stage.events, Outcome.events]

/-! ## What the events of a lookup say -/

def Event.reply? : Event α → Option (Reply α)
  | replied _ reply => some reply
  | _ => none

def Event.isReleased : Event α → Bool
  | released _ => true
  | _ => false

/-- What queries meet, one after the other. -/
def replies (events : List (Event α)) : List (Reply α) :=
  events.filterMap Event.reply?

def Outcome.reply? : Outcome α → Option (Reply α)
  | .answered value => some (.answer value)
  | .gaveUp => none
  | .broke message => some (.breakdown message)
  | .unread _ => none

/-- The reply that a lookup has met behind its failures. -/
def Stage.reply? : Stage α → Option (Reply α)
  | .answered value => some (.answer value)
  | .closing o => o.reply?
  | .gone o => o.reply?
  | _ => none

theorem replies_append (es es' : List (Event α)) :
    replies (es ++ es') = replies es ++ replies es' :=
  List.filterMap_append

theorem replies_failures (n : Nat) (name : Text) (k : Nat) :
    replies (failures (α := α) n name k) = List.replicate k .failure := by
  induction k with
  | zero => rfl
  | succ k ih =>
    rw [failures, replies_append, ih, List.replicate_succ']
    rfl

theorem Outcome.replies_events (n : Nat) (name : Text) (o : Outcome α) :
    replies (o.events n name) = o.reply?.toList := by
  cases o <;> rfl

theorem Stage.replies_events (n : Nat) (name : Text) (b : Stage α) :
    replies (b.events n name) = b.reply?.toList := by
  cases b with
  | closing o => exact o.replies_events n name
  | gone o =>
    rw [events, replies_append, o.replies_events]
    exact List.append_nil _
  | _ => rfl

theorem countP_failures (p : Event α → Bool) (n : Nat) (name : Text) (k : Nat) :
    (failures n name k).countP p = k * [.asked n name, .replied n .failure].countP p := by
  induction k with
  | zero => simp [failures]
  | succ k ih => rw [failures, List.countP_append, ih, Nat.succ_mul]

theorem handled_failures (n : Nat) (name : Text) (k : Nat) :
    handled (failures (α := α) n name k) = [] := by
  induction k with
  | zero => rfl
  | succ k ih =>
    unfold handled at ih ⊢
    rw [failures, List.filterMap_append, ih]
    rfl

theorem Stage.countP_isFailure_events (n : Nat) (name : Text) (b : Stage α) :
    (b.events n name).countP Event.isFailure = 0 := by
  cases b with
  | closing o => cases o <;> rfl
  | gone o => cases o <;> rfl
  | _ => rfl

/-- The failures are those among the attempts that are spent. -/
theorem Course.exists_spent {terms : Terms} {n call : Nat} {target : Target} {b : Stage α}
    {es : List (Event α)} (h : Course terms n .unborn es b) (hg : .granted n call target ∈ es) :
    ∃ k, (eventsOf n es).reverse =
        .granted n call target :: (failures n target.name k ++ b.events n target.name) ∧
      b.Spent target.name (terms.allowance target.name)
        ((eventsOf n es).countP Event.isAsked) k := by
  obtain ⟨k, told⟩ := h.exists_events hg
  have spent := h.spent hg
  have count : (eventsOf n es).countP Event.isFailure = k := by
    rw [← List.countP_reverse, told, List.countP_cons_of_neg Bool.false_ne_true,
      List.countP_append, countP_failures, b.countP_isFailure_events]
    exact Nat.mul_one k
  rw [count] at spent
  exact ⟨k, told, spent⟩

/-! ## What settles them -/

/-- Of the replies that queries would meet, `f` failures come first, as far as `retries` go. -/
structure FailsFirst (fate : Nat → Reply α) (retries f : Nat) : Prop where
  first : ∀ i < f, fate i = .failure
  other : f ≤ retries → fate f ≠ .failure

/-- A lookup has met `k` failures and then, if anything, the last reply. -/
structure Met (fate : Nat → Reply α) (k : Nat) (last : Option (Reply α)) : Prop where
  first : ∀ i < k, fate i = .failure
  last : ∀ r, last = some r → fate k = r

theorem met_of_agree {fate : Nat → Reply α} {k : Nat} {last : Option (Reply α)}
    (agree : ∀ i r, (List.replicate k .failure ++ last.toList)[i]? = some r → fate i = r) :
    Met fate k last := by
  constructor
  · intro i hi
    apply agree
    rw [List.getElem?_append_left (by simpa using hi), List.getElem?_replicate, if_pos hi]
  · rintro r rfl
    apply agree
    rw [List.getElem?_append_right (by simp)]
    simp

/-- The reply that ends a lookup is no failure. -/
theorem Outcome.reply?_ne_failure (o : Outcome α) : o.reply? ≠ some .failure := by
  cases o <;> nofun

section Settled

variable {fate : Nat → Reply α} {retries f k asked n : Nat} {name : Text} {b : Stage α}
  {o : Outcome α}

theorem FailsFirst.le {last : Option (Reply α)} (h : FailsFirst fate retries f)
    (met : Met fate k last) (within : k ≤ retries + 1) : k ≤ f := by
  by_contra less
  exact h.other (by omega) (met.first f (by omega))

/-- With an attempt left behind the failures, the reply ends the lookup. -/
theorem outcomeOf_of_le {reply : Reply α} (h : f ≤ retries) (other : reply ≠ .failure) :
    (outcomeOf retries f reply).reply? = some reply := by
  unfold outcomeOf
  rw [if_neg (Nat.not_lt.2 h)]
  cases reply with
  | failure => exact absurd rfl other
  | answer value => rfl
  | breakdown message => rfl

theorem Outcome.eq_of_reply? {o o' : Outcome α} {reply : Reply α} (h : o.reply? = some reply)
    (h' : o'.reply? = some reply) : o = o' := by
  cases o <;> cases h <;> cases o' <;> cases h' <;> rfl

/-- A lookup that has ended has met all the failures that come first, and then what is next. -/
theorem FailsFirst.outcome_eq (h : FailsFirst fate retries f) (met : Met fate k o.reply?)
    (spent : (Stage.gone o).Spent name (retries + 1) asked k) :
    o = outcomeOf retries f (fate f) ∧ k = min f (retries + 1) := by
  cases ho : o.reply? with
  | none =>
    cases o with
    | gaveUp =>
      obtain ⟨-, rfl⟩ := spent
      have := h.le met (Nat.le_refl _)
      have used : outcomeOf retries f (fate f) = .gaveUp := if_pos (by omega)
      exact ⟨used.symm, by omega⟩
    | unread message =>
      -- a lookup that may try has a name that can be read
      obtain ⟨_, -⟩ := spent
      omega
    | _ => cases ho
  | some r =>
    have within : k ≤ retries := by
      cases o with
      | gaveUp => cases ho
      | unread message => cases ho
      | _ => obtain ⟨_, _⟩ : _ ∧ _ := spent; omega
    have now : fate k = r := met.last r ho
    have other : fate k ≠ .failure := by
      rintro e
      exact o.reply?_ne_failure (by rw [ho, ← now, e])
    obtain rfl : k = f := by
      refine Nat.le_antisymm (h.le met (by omega)) (Nat.not_lt.1 fun less => ?_)
      exact other (h.first k less)
    refine ⟨Outcome.eq_of_reply? ho ?_, by omega⟩
    rw [outcomeOf_of_le within other, now]

theorem Outcome.asked_prefix_events {reply : Reply α} (h : o.reply? = some reply) :
    [.asked n name] <+: o.events n name := by
  cases o with
  | gaveUp => cases h
  | unread message => cases h
  | answered value => exact ⟨_, rfl⟩
  | broke message => exact ⟨_, rfl⟩

/-- Until it ends, a lookup goes through its story. -/
theorem FailsFirst.prefix_story (h : FailsFirst fate retries f) (met : Met fate k b.reply?)
    (spent : b.Spent name (retries + 1) asked k) :
    failures n name k ++ b.events n name <+: story retries n name f (fate f) := by
  -- the story begins with the failures, and as many of them as there are attempts
  have start (j : Nat) (hf : j ≤ f) (hr : j ≤ retries + 1) :
      failures n name j <+: story retries n name f (fate f) :=
    (prefix_failures n name (Nat.le_min.2 ⟨hf, hr⟩)).trans (List.prefix_append _ _)
  -- with the same outcome, it goes on as the lookup does
  have goesOn {o : Outcome α} {es : List (Event α)} (met : Met fate k o.reply?)
      (spent : (Stage.gone o).Spent name (retries + 1) asked k)
      (hes : es <+: o.events n name ++ [.released n]) :
      failures n name k ++ es <+: story retries n name f (fate f) := by
    obtain ⟨rfl, rfl⟩ := h.outcome_eq met spent
    exact (List.prefix_append_right_inj _).2 hes
  cases b with
  | unborn => exact spent.elim
  | stuck name' message =>
    obtain ⟨-, _, -⟩ := spent
    omega
  | due name' left =>
    obtain ⟨-, used, rfl⟩ := spent
    have none : (Stage.due name' left : Stage α).events n name = [] := rfl
    rw [none, List.append_nil]
    exact start _ (h.le met (by omega)) (by omega)
  | asking name' left =>
    obtain ⟨-, used, more⟩ := spent
    have := h.le met (by omega)
    rcases Nat.lt_or_ge k f with less | ge
    · -- this query fails, too
      refine List.IsPrefix.trans ⟨[.replied n .failure], ?_⟩ (start (k + 1) less (by omega))
      rw [Stage.events, failures, List.append_assoc]
      rfl
    · obtain rfl : k = f := by omega
      have within : k ≤ retries := by omega
      have reply := outcomeOf_of_le within (h.other within)
      rw [story, Nat.min_eq_left (by omega), List.prefix_append_right_inj]
      exact (Outcome.asked_prefix_events reply).trans (List.prefix_append _ _)
  | answered value =>
    exact goesOn (o := .answered value) met spent ⟨[.handled n (some value), .released n], rfl⟩
  | closing o =>
    refine goesOn met ?_ (List.prefix_append _ _)
    cases o <;> exact spent
  | gone o => exact goesOn met spent (List.prefix_refl _)

end Settled

/-! ## The whole story -/

section Story

variable {retries f n : Nat} {name : Text} {reply : Reply α}

theorem outcomeOf_of_lt (h : retries < f) : outcomeOf retries f reply = .gaveUp :=
  if_pos h

theorem countP_story (p : Event α → Bool) :
    (story retries n name f reply).countP p =
      min f (retries + 1) * [.asked n name, .replied n .failure].countP p +
        ((outcomeOf retries f reply).events n name ++ [Event.released n]).countP p := by
  rw [story, List.countP_append, countP_failures]

theorem countP_isAsked_story (other : f ≤ retries → reply ≠ .failure) :
    (story retries n name f reply).countP Event.isAsked = min f retries + 1 := by
  rw [countP_story]
  rcases Nat.lt_or_ge retries f with less | ge
  · rw [outcomeOf_of_lt less]
    show min f (retries + 1) * 1 + 0 = _
    omega
  · have ends := outcomeOf_of_le ge (other ge)
    cases ho : outcomeOf retries f reply with
    | gaveUp =>
      rw [ho] at ends
      cases ends
    | unread message =>
      rw [ho] at ends
      cases ends
    | _ =>
      show min f (retries + 1) * 1 + 1 = _
      omega

theorem countP_isReleased_story :
    (story retries n name f reply).countP Event.isReleased = 1 := by
  have none : [Event.asked n name, Event.replied n (Reply.failure (α := α))].countP
      Event.isReleased = 0 := rfl
  rw [countP_story, none, Nat.mul_zero]
  cases outcomeOf retries f reply <;> rfl

theorem handled_story (n : Nat) (name : Text) :
    handled (story retries n name f reply) = (outcomeOf retries f reply).handled n := by
  have none := handled_failures (α := α) n name (min f (retries + 1))
  unfold story handled at *
  rw [List.filterMap_append, none]
  cases outcomeOf retries f reply <;> rfl

end Story

theorem allowance_of_wellFormed {terms : Terms} {name : Text}
    (h : wellFormed terms.read name = true) : terms.allowance name = terms.attempts :=
  if_pos h

/-- A lookup asks when it may make another attempt. -/
theorem Course.due_of_asked {terms : Terms} {n : Nat} {a b : Stage α} {name : Text}
    {past : List (Event α)} (h : Course terms n a (.asked n name :: past) b) :
    ∃ left, Course terms n a past (.due name (left + 1)) := by
  cases h with
  | other _ he => exact absurd rfl he
  | asked h => exact ⟨_, h⟩

/-- When a lookup asks, it has nothing but its grant and failures behind it. -/
theorem Course.failures_of_asked {terms : Terms} {n call : Nat} {target : Target} {name : Text}
    {b : Stage α} {later past tale : List (Event α)}
    (c : Course terms n .unborn (later ++ .asked n name :: past) b)
    (going : eventsOf n (later ++ .asked n name :: past).reverse <+:
      .granted n call target :: tale) :
    name = target.name ∧
      ∃ k, eventsOf n past.reverse = .granted n call target :: failures n target.name k := by
  obtain ⟨b', c⟩ := c.suffix (List.suffix_append later _)
  obtain ⟨left, c⟩ := c.due_of_asked
  have born : .granted n call target ∈ past := by
    have split : (later ++ .asked n name :: past).reverse =
        past.reverse ++ .asked n name :: later.reverse := by simp
    rw [split, eventsOf, List.filter_append, List.filter_cons_of_pos (by simp [Event.lookup?])]
      at going
    cases before : past.reverse.filter fun e => e.lookup? == some n with
    | nil =>
      rw [before, List.nil_append, List.cons_prefix_cons] at going
      cases going.1
    | cons e rest =>
      rw [before, List.cons_append, List.cons_prefix_cons] at going
      rw [← List.mem_reverse, ← going.1]
      exact (mem_eventsOf.1 (before ▸ List.mem_cons_self)).1
  obtain ⟨rfl, -⟩ := c.spent born
  obtain ⟨k, told⟩ := c.exists_events born
  rw [eventsOf_reverse, told]
  exact ⟨rfl, k, congrArg _ (List.append_nil _)⟩

namespace Scheduler

variable {ports : Ports σ η α} {s : Scheduler σ η α}

/-! ## In a scheduler -/

/-- The lookup is neither to start nor to go on, and no query of it waits. -/
def Over (n : Nat) (s : Scheduler σ η α) : Prop :=
  n ∉ s.stations.map Prod.fst

theorem over_of_atRest {n : Nat} (rest : s.AtRest) (h : n ∉ s.waiting.map Job.number) :
    s.Over n := by
  rw [Over, stations_of_atRest rest, List.map_map]
  exact h

/-- A lookup that has begun and is over has ended. -/
theorem Over.gone {n : Nat} {b : Stage α} (h : s.Over n) (born : b ≠ .unborn)
    (place : s.submitted ≤ n ∧ b = .unborn ∨ (n, b) ∈ s.stations ∨
      n ∈ ended s.trace ∧ ∃ o, b = .gone o) : ∃ o, b = .gone o := by
  rcases place with ⟨-, rfl⟩ | stands | ⟨-, gone⟩
  · exact absurd rfl born
  · exact absurd (List.mem_map_of_mem stands) h
  · exact gone

/-- Lookup `n`, which may try `retries` times again and meets `f` failures before `reply`, keeps to
its story. -/
structure Retried (retries n call : Nat) (target : Target) (f : Nat) (reply : Reply α)
    (s : Scheduler σ η α) : Prop where
  /-- At each moment it has gone through the front part of its story. -/
  going : eventsOf n s.history <+:
    .granted n call target :: story retries n target.name f reply
  /-- It asks for its name only, and only when all its queries before have failed. -/
  paced : ∀ later name past, s.trace = later ++ .asked n name :: past → name = target.name ∧
    ∃ k, eventsOf n past.reverse = .granted n call target :: failures n target.name k
  /-- At rest it is over unless its query waits. -/
  ends : s.AtRest → n ∉ s.waiting.map Job.number → s.Over n
  /-- Then it has gone through all of its story. -/
  whole : s.Over n →
    eventsOf n s.history = .granted n call target :: story retries n target.name f reply
  asked : s.Over n → (eventsOf n s.history).countP Event.isAsked = min f retries + 1
  answered : s.Over n → f ≤ retries → ∀ value, reply = .answer value →
    handled (eventsOf n s.history) = [(n, some value)]
  gaveUp : s.Over n → retries < f → handled (eventsOf n s.history) = [(n, none)]
  broke : s.Over n → f ≤ retries → ∀ message, reply = .breakdown message →
    handled (eventsOf n s.history) = []
  released : s.Over n → (eventsOf n s.history).countP Event.isReleased = 1

/-- Whatever else is in flight, a lookup with a well-formed name keeps to the story that its
replies tell; fewer than no retries are none. -/
theorem Reachable.retried {cap n call f : Nat} {retries : Int} {transport : σ} {handler : η}
    {target : Target} {fate : Nat → Reply α}
    (h : Reachable ports (idle cap retries transport handler read) s)
    (hg : (n, call, target) ∈ granted s.trace) (formed : wellFormed read target.name = true)
    (agree : ∀ i r, (replies (eventsOf n s.history))[i]? = some r → fate i = r)
    (first : FailsFirst fate retries.toNat f) :
    Retried retries.toNat n call target f (fate f) s := by
  obtain ⟨stories, -⟩ := h.stories
  obtain ⟨b, c, place⟩ := stories.exists_course n
  obtain ⟨k, told, spent⟩ := c.exists_spent (mem_granted.1 hg)
  rw [h.terms_eq, allowance_of_wellFormed formed] at spent
  have born : b ≠ .unborn := by
    rintro rfl
    exact spent
  have here : eventsOf n s.history =
      .granted n call target :: (failures n target.name k ++ b.events n target.name) := by
    rw [history, eventsOf_reverse, told]
  have met : Met fate k b.reply? := by
    apply met_of_agree
    rw [← replies_failures n target.name, ← b.replies_events n target.name, ← replies_append]
    rw [here] at agree
    exact agree
  have whole (closed : s.Over n) : eventsOf n s.history =
      .granted n call target :: story retries.toNat n target.name f (fate f) := by
    obtain ⟨o, rfl⟩ := closed.gone born place
    obtain ⟨rfl, rfl⟩ := first.outcome_eq met spent
    exact here
  have given (closed : s.Over n) :
      handled (eventsOf n s.history) = (outcomeOf retries.toNat f (fate f)).handled n := by
    rw [whole closed, ← handled_story n target.name]
    rfl
  have going : eventsOf n s.history <+:
      .granted n call target :: story retries.toNat n target.name f (fate f) := by
    rw [here]
    exact (List.prefix_cons_inj _).2 (first.prefix_story met spent)
  refine ⟨going, ?_, over_of_atRest, whole, ?_, ?_, ?_, ?_, ?_⟩
  · intro later name past split
    rw [history, split] at going
    rw [split] at c
    exact c.failures_of_asked going
  · intro closed
    rw [whole closed]
    exact countP_isAsked_story first.other
  · intro closed le value answer
    rw [given closed, answer, outcomeOf, if_neg (Nat.not_lt.2 le)]
    rfl
  · intro closed less
    rw [given closed, outcomeOf_of_lt less]
    rfl
  · intro closed le message broken
    rw [given closed, broken, outcomeOf, if_neg (Nat.not_lt.2 le)]
    rfl
  · intro closed
    rw [whole closed]
    exact countP_isReleased_story

/-- What lookups are for whose queries wait. -/
def waitingTarget : Target := ⟨"w".toList, "d".toList⟩

/-- Two lookups for one name: the first one to ask fails, the second one is answered, and then the
first one, which has asked again. -/
def crossed : Scheduler Unit Nat Nat :=
  let asked := (((idle 2 1 () 0).receive (.submit "w".toList "d".toList)).receive
    (.submit "w".toList "d".toList)).advance sample 20
  let again := (asked.delivered waitingTarget.name .failure).advance sample 20
  ((again.delivered waitingTarget.name (.answer 7)).delivered waitingTarget.name
    (.answer 5)).advance sample 20

theorem retried_crossed :
    crossed.Over 0 ∧ Retried 1 0 0 waitingTarget 1 (.answer 5) crossed := by
  have begun : Reachable sample (idle 2 1 () 0) (idle 2 1 () 0) := .refl
  have asked := ((begun.call (.submit "w".toList "d".toList)).call
    (.submit "w".toList "d".toList)).advance 20
  have again := (asked.delivered waitingTarget.name .failure).advance 20
  have reached : Reachable sample (idle 2 1 () 0) crossed :=
    ((again.delivered waitingTarget.name (.answer 7)).delivered waitingTarget.name
      (.answer 5)).advance 20
  have met : replies (eventsOf 0 crossed.history) = [.failure, .answer 5] := by decide
  let fate (i : Nat) : Reply Nat := if i = 0 then .failure else .answer 5
  have first : FailsFirst fate 1 1 := ⟨by decide, by decide⟩
  refine ⟨over_of_atRest rfl (by decide), ?_⟩
  refine reached.retried (by decide) (by decide) ?_ first
  intro i r hr
  rw [met] at hr
  match i with
  | 0 => exact Option.some.inj hr
  | 1 => exact Option.some.inj hr

end Scheduler

end SelectorScan.Lookup
