import SelectorScan.Proofs.Lookup.Calls

/-!
# Calls come to an end

At rest the slots that are not free are those of the queries that wait, and a call waits for a slot
only if there is none. When nothing is in flight, no call waits: a call that drains waits for
lookups in flight (`Watched`), and a call that waits for a slot waits behind a lookup that has one.

A call that drains ends only when nothing is in flight, and then no call waits for a slot either
(`asks_eq_nil_of_flight`); so it has waited for whatever was submitted meanwhile.
-/

namespace SelectorScan.Lookup

open Candidate

variable {σ η α : Type} {read : Text → Reading}

namespace Scheduler

variable {ports : Ports σ η α} {s t : Scheduler σ η α}

/-! ## Slots at rest -/

theorem Reachable.cap_eq {cap : Nat} {retries : Int} {transport : σ} {handler : η}
    (h : Reachable ports (idle cap retries transport handler read) s) : s.cap = cap :=
  h.kept (P := fun s => s.cap = cap) rfl fun _ _ h hm => hm.fixed.1.trans h

/-- A call that waits for a slot stands in line for it. -/
theorem Roster.asks_ne_nil (h : Roster [] s) (hw : .waiting ∈ s.calls) : s.asks ≠ [] := by
  obtain ⟨i, hi⟩ := List.mem_iff_getElem?.1 hw
  rcases h.cases_of_call hi with ⟨-, ha⟩ | ⟨domain, e⟩ | ⟨fault, single, e, -⟩
  · exact ha
  · cases e
  · cases fault <;> cases e

/-- At rest no slot is on its way to a call, and those not free are held by the queries that
wait. -/
theorem Reachable.free_add_waiting {cap : Nat} {retries : Int} {transport : σ} {handler : η}
    (h : Reachable ports (idle cap retries transport handler read) s) (rest : s.AtRest) :
    s.handed = 0 ∧ s.free + s.waiting.length = s.cap := by
  obtain ⟨slots, -⟩ := h.settled
  have handed : s.handed = 0 := by
    rw [← slots.enters, rest]
    rfl
  have balance := slots.balance
  rw [holding, rest, handed] at balance
  exact ⟨handed, by simpa using balance⟩

/-- At rest a call stands in line for a slot only if queries wait in all slots. -/
theorem Reachable.waiting_of_asks {cap : Nat} {retries : Int} {transport : σ} {handler : η}
    (h : Reachable ports (idle cap retries transport handler read) s) (rest : s.AtRest)
    (ha : s.asks ≠ []) : s.waiting.length = s.cap := by
  obtain ⟨-, eager⟩ := h.settled
  obtain ⟨handed, balance⟩ := h.free_add_waiting rest
  have := List.length_pos_iff.2 ha
  unfold Eager at eager
  omega

/-- Slots are neither lost nor gained: at rest those not free are held by the queries that wait, and
a call waits for a slot only if all are held; and at no moment are more queries out than there are
slots. -/
theorem slots_conserved {cap : Nat} {retries : Int} {transport : σ} {handler : η}
    (h : Reachable ports (idle cap retries transport handler read) s) :
    Within cap s.trace ∧ (s.AtRest →
      s.waiting.length = s.inFlight ∧ activeQueries s.trace = s.inFlight ∧ s.inFlight ≤ cap ∧
        s.free = cap - s.inFlight ∧ (s.asks ≠ [] → s.inFlight = cap) ∧
        (.waiting ∈ s.calls → s.inFlight = cap)) := by
  obtain ⟨slots, -⟩ := h.settled
  have hcap := h.cap_eq
  constructor
  · rw [← hcap]
    exact slots.within
  intro rest
  have waiting : s.waiting.length = s.inFlight := by
    rw [inFlight, (h.underway.flight_perm rest).length_eq, List.length_map]
  have balance : s.free + s.inFlight = cap := by
    rw [← waiting, ← hcap]
    exact (h.free_add_waiting rest).2
  have active : activeQueries s.trace = s.inFlight := by
    have := slots.queries
    rw [pending, rest, waiting] at this
    unfold activeQueries
    simp only [List.countP_nil] at this
    omega
  have full : s.asks ≠ [] → s.inFlight = cap := by
    intro hn
    rw [← waiting, ← hcap]
    exact h.waiting_of_asks rest hn
  refine ⟨waiting, active, by omega, by omega, full, ?_⟩
  intro hw
  exact full (h.roster.asks_ne_nil hw)

/-- A query waits in the only slot, and another call waits for the slot. -/
def full : Scheduler Unit Nat Nat :=
  (((idle 1 0 () 0).receive (.submit "v".toList "d".toList)).receive
    (.submit "w".toList "d".toList)).advance sample 20

theorem reachable_full : Reachable sample (idle 1 0 () 0) full :=
  ((Reachable.call .refl _).call _).advance 20

theorem slots_conserved_full :
    full.AtRest ∧ full.asks ≠ [] ∧ Within 1 full.trace ∧ full.waiting.length = full.inFlight ∧
      full.free = 1 - full.inFlight ∧ full.inFlight = 1 := by
  obtain ⟨within, rest⟩ := slots_conserved reachable_full
  obtain ⟨waiting, -, -, free, asks, -⟩ := rest rfl
  exact ⟨rfl, by decide, within, waiting, free, asks (by decide)⟩

/-! ## Drains -/

/-- A call that drains waits for lookups that are in flight. -/
def Watched (s : Scheduler σ η α) : Prop :=
  ∀ d ∈ s.drains, d.left ≠ [] ∧ d.left.Sublist s.flight

theorem Watched.frame (h : s.Watched) (hf : Frame s t) : t.Watched := by
  unfold Watched
  rw [hf.drains, hf.flight]
  exact h

theorem Watched.launch (h : s.Watched) (call : Nat) (selector : Points) (domain : Text) :
    (s.launch call selector domain).Watched := by
  intro d hd
  have flight : (s.launch call selector domain).flight = s.flight ++ [s.submitted] :=
    Queue.toList_push ..
  obtain ⟨ne, sub⟩ := h d hd
  rw [flight]
  exact ⟨ne, sub.trans (List.sublist_append_left ..)⟩

theorem Watched.move (h : s.Watched) (hm : Move ports s t) : t.Watched := by
  cases hm with
  | admitted call selector domain _ => exact Watched.launch (s := s.take) h call selector domain
  | drain call domain hf =>
    intro d hd
    rcases List.mem_append.1 hd with hd | hd
    · exact h d hd
    · obtain rfl := List.mem_singleton.1 hd
      exact ⟨hf, List.Sublist.refl _⟩
  | @start l rest _ hc hs => exact Watched.frame (s := { s with ready := rest }) h hs.frame
  | @resume l reply rest _ hc hr => exact Watched.frame (s := { s with ready := rest }) h hr.frame
  | @enter ask asks rest =>
    refine Watched.launch ?_ _ _ _
    obtain ⟨free, handed, ready, e⟩ := exists_accept asks { s with ready := rest }
    rw [e]
    exact h
  | @leave n error rest =>
    have flight : (({ s with ready := rest } : Scheduler σ η α).leave n error).flight =
        s.flight.erase n := Queue.toList_erase ..
    intro d hd
    obtain ⟨hd, ne⟩ := List.mem_filter.1 hd
    obtain ⟨d', hd', rfl⟩ := List.mem_map.1 hd
    rw [flight]
    exact ⟨by simpa using ne, (h d' hd').2.erase n⟩
  | _ => exact h

theorem Reachable.watched {cap : Nat} {retries : Int} {transport : σ} {handler : η}
    (h : Reachable ports (idle cap retries transport handler read) s) : s.Watched :=
  h.kept (P := Watched) nofun fun _ _ h hm => h.move hm

/-- When nothing is in flight at rest, no call stands anywhere. -/
theorem Reachable.posts_eq_nil {cap : Nat} {retries : Int} {transport : σ} {handler : η}
    (h : Reachable ports (idle cap retries transport handler read) s) (hcap : 1 ≤ cap)
    (rest : s.AtRest)
    (hf : s.flight = []) : s.posts = [] := by
  have drains : s.drains = [] := by
    rw [List.eq_nil_iff_forall_not_mem]
    intro d hd
    obtain ⟨ne, sub⟩ := h.watched d hd
    rw [hf] at sub
    exact ne (List.sublist_nil.1 sub)
  rw [posts, asks_eq_nil_of_flight h.underway h.settled (by rwa [h.cap_eq]) hf, drains, rest]
  rfl

/-- When nothing is in flight, every lookup has ended. -/
theorem Reachable.ended_perm {cap : Nat} {retries : Int} {transport : σ} {handler : η}
    (h : Reachable ports (idle cap retries transport handler read) s) (hf : s.flight = []) :
    (ended s.trace).Perm (List.range s.submitted) := by
  have stations : s.stations = [] := by
    obtain ⟨waiting, looks⟩ := h.underway.chores_of_flight hf
    rw [Scheduler.stations, roll, waiting, List.map_nil, List.append_nil]
    rw [List.filterMap_eq_nil_iff]
    intro c hc
    obtain ⟨call, domain, rfl⟩ := looks c hc
    rfl
  have partition := h.stories.1.partition
  rwa [stations] at partition

/-! ## Calls that end -/

/-- A call that is done was done before, or is for one lookup, or nothing is in flight. -/
def EndsQuietly (s t : Scheduler σ η α) : Prop :=
  ∀ i : Nat, t.calls[i]? = some Call.done → s.calls[i]? = some Call.done ∨
    (∃ r, t.requests[i]? = some r ∧ r.isSubmit = true) ∨ t.flight = []

theorem endsQuietly_of_calls (h : t.calls = s.calls) : EndsQuietly s t := by
  intro i hi
  rw [h] at hi
  exact .inl hi

theorem endsQuietly_of_set {call : Nat} {c : Call} (h : t.calls = s.calls.set call c)
    (hc : c ≠ .done) : EndsQuietly s t := by
  intro i hi
  rw [h, List.getElem?_set] at hi
  split at hi
  · split at hi
    · exact absurd (Option.some.inj hi) hc
    · cases hi
  · exact .inl hi

theorem endsQuietly_look (call : Nat) (domain : Option Text) (h : t.calls = s.calls) :
    EndsQuietly s (t.look call domain) := by
  unfold Scheduler.look
  split
  · next he =>
    intro i _
    exact .inr (.inr (Queue.isEmpty_iff.1 he))
  · exact endsQuietly_of_set (c := .draining domain) (by rw [← h]; rfl) nofun

theorem endsQuietly_pull (call : Nat) (domain : Text) (fault : Option Fault) (items : List Item)
    (h : t.calls = s.calls) : EndsQuietly s (t.pull call domain fault items) := by
  refine pull_induct (P := fun _ t => t.calls = s.calls) ?_ ?_ ?_ ?_ ?_ items t h
  · intro t entry rest h
    exact h
  · intro t selector rest _ h
    exact h
  · intro t selector rest _ h
    exact endsQuietly_of_calls h
  · intro t f _ h
    exact endsQuietly_of_set (c := .failed f) (by rw [← h]; rfl) nofun
  · intro t entry _ h
    exact endsQuietly_look call (some domain) h

theorem endsQuietly_proceed {ask : Ask} (h : t.calls = s.calls)
    (single : ask.rest = none → ∃ r, t.requests[ask.call]? = some r ∧ r.isSubmit = true) :
    EndsQuietly s (t.proceed ask) := by
  unfold Scheduler.proceed
  split
  · next hr =>
    intro i hi
    by_cases e : i = ask.call
    · exact .inr (.inl (e ▸ single hr))
    · refine .inl ?_
      change (t.calls.set ask.call _)[i]? = _ at hi
      rwa [List.getElem?_set_ne (Ne.symm e), h] at hi
  · exact endsQuietly_pull _ _ _ _ h

/-- A call that is made is not done yet. -/
theorem EndsQuietly.call (request : Request) (h : EndsQuietly
    { s with requests := s.requests ++ [request], calls := s.calls ++ [Call.waiting] } t) :
    EndsQuietly s t := by
  intro i hi
  rcases h i hi with hi | hi
  · refine .inl ?_
    change (s.calls ++ [Call.waiting])[i]? = _ at hi
    rcases Nat.lt_or_ge i s.calls.length with hl | hl
    · rwa [List.getElem?_append_left hl] at hi
    · rw [List.getElem?_append_right hl] at hi
      have := List.mem_singleton.1 (List.mem_of_getElem? hi)
      cases this
  · exact .inr hi

theorem endsQuietly_receive (hr : Roster [] s) (request : Request) :
    EndsQuietly s (s.receive request) := by
  apply EndsQuietly.call request
  cases request with
  | submit selector domain =>
    show EndsQuietly _ (seek _ _)
    unfold seek
    split
    · apply endsQuietly_proceed rfl
      intro _
      refine ⟨.submit selector domain, ?_, rfl⟩
      show (s.requests ++ [_])[s.calls.length]? = _
      rw [← hr.length]
      exact List.getElem?_concat_length
    · exact endsQuietly_of_calls rfl
  | run candidates domain => exact endsQuietly_pull _ _ _ _ rfl
  | drain => exact endsQuietly_look _ _ rfl

theorem endsQuietly_turn (hr : Roster [] s) (ht : s.turn? ports = some t) : EndsQuietly s t := by
  obtain ⟨c, rest, hc, rfl⟩ := exists_perform_of_turn? ht
  cases c with
  | start l =>
    have carried : Carried ports s.terms l _ _ _ := carried_start l { s with ready := rest }
    exact endsQuietly_of_calls carried.frame.calls
  | resume l reply =>
    have carried : Carried ports s.terms l _ _ _ :=
      carried_resume l reply { s with ready := rest }
    exact endsQuietly_of_calls carried.frame.calls
  | enter =>
    show EndsQuietly s (enter _)
    unfold enter
    split
    · exact endsQuietly_of_calls rfl
    · next ask asks ha =>
      obtain ⟨free, handed, ready, e⟩ := exists_accept asks { s with ready := rest }
      rw [e]
      apply endsQuietly_proceed rfl
      intro hn
      have posted : ask.post ∈ s.posts :=
        List.mem_append_left _ (List.mem_map_of_mem (ha ▸ List.mem_cons_self))
      have alone : ask.post.single = true := by
        rw [Ask.post, hn]
        rfl
      obtain ⟨-, r, hr, -, -, single⟩ := hr.told _ posted
      exact ⟨r, hr, single.trans alone⟩
  | leave => exact endsQuietly_of_calls rfl
  | look call domain => exact endsQuietly_look _ _ rfl

/-- Steps end calls that drain only when nothing is in flight. -/
theorem Step.endsQuietly (hr : Roster [] s) (hs : Step ports s t) : EndsQuietly s t := by
  cases hs with
  | turn ht => exact endsQuietly_turn hr ht
  | call request => exact endsQuietly_receive hr request
  | reply => exact endsQuietly_of_calls rfl

/-- Turns leave a scheduler without lookups in flight as it is in that. -/
theorem flight_of_turns {cap : Nat} {retries : Int} {transport : σ} {handler : η}
    (h : Reachable ports (idle cap retries transport handler read) s) (hf : s.flight = [])
    (ht : Turns ports s t) : t.flight = [] := by
  induction ht with
  | refl => exact hf
  | @tail u v before ht ih =>
    obtain ⟨c, rest, hc, rfl⟩ := exists_perform_of_turn? ht
    obtain ⟨call, domain, rfl⟩ := ((h.turns before).underway.chores_of_flight ih).2 c
      (hc ▸ List.mem_cons_self)
    show (Scheduler.look ..).flight = []
    unfold Scheduler.look
    split <;> exact ih

/-- Requests are not forgotten. -/
theorem Move.requests_grow (h : Move ports s t) : s.requests <+: t.requests := by
  cases h with
  | start _ h => exact h.frame.requests ▸ List.prefix_rfl
  | resume _ h => exact h.frame.requests ▸ List.prefix_rfl
  | @enter ask asks rest =>
    obtain ⟨free, handed, ready, e⟩ := exists_accept asks { s with ready := rest }
    rw [e]
    exact List.prefix_rfl
  | call request => exact List.prefix_append ..
  | _ => exact List.prefix_rfl

theorem Moves.requests_grow (h : Moves ports s t) : s.requests <+: t.requests := by
  induction h with
  | refl => exact List.prefix_rfl
  | tail _ hm ih => exact ih.trans hm.requests_grow

/-- Since a step a call that drains has been done only if nothing is in flight. -/
theorem EndsQuietly.turns {cap : Nat} {retries : Int} {transport : σ} {handler : η}
    {s' : Scheduler σ η α} (h : Reachable ports (idle cap retries transport handler read) s)
    (hs : Step ports s s') (ht : Turns ports s' t) : EndsQuietly s t := by
  have h' := h.tail hs
  induction ht with
  | refl => exact hs.endsQuietly h.roster
  | @tail u v before ht ih =>
    have hu := Reachable.turns h' before
    intro i hi
    rcases Step.endsQuietly hu.roster (.turn ht) i hi with hi | hi
    · rcases ih i hi with hi | ⟨r, hr, single⟩ | hf
      · exact .inl hi
      · obtain ⟨more, e⟩ := (moves_of_turn? ht).requests_grow
        refine .inr (.inl ⟨r, ?_, single⟩)
        rw [← e, List.getElem?_append_left (List.getElem?_eq_some_iff.1 hr).1]
        exact hr
      · exact .inr (.inr (flight_of_turns hu hf (.single ht)))
    · exact .inr hi

/-- When nothing is in flight at rest, every call has ended. -/
theorem Reachable.call_ended {cap : Nat} {retries : Int} {transport : σ} {handler : η}
    (h : Reachable ports (idle cap retries transport handler read) s) (hcap : 1 ≤ cap)
    (rest : s.AtRest)
    (hf : s.flight = []) {c : Call} (hc : c ∈ s.calls) : c = .done ∨ ∃ fault, c = .failed fault := by
  obtain ⟨i, hi⟩ := List.mem_iff_getElem?.1 hc
  have posts := h.posts_eq_nil hcap rest hf
  rcases h.roster.ended i (List.getElem?_eq_some_iff.1 hi).1 with hp | ⟨fault, single, hs⟩
  · rw [posts] at hp
    cases hp
  · have state : some c = some (Call.ofFault fault) := hi.symm.trans hs.state
    cases fault with
    | none => exact .inl (Option.some.inj state)
    | some fault => exact .inr ⟨fault, Option.some.inj state⟩

/-- No deadlock, and no end before its time: when nothing is in flight at rest, every call has
ended; and once a call that drains has just been done, whatever turns were taken since, nothing is
in flight, no call waits for a slot, and every lookup has ended. -/
theorem calls_complete {cap : Nat} {retries : Int} {transport : σ} {handler : η} (hcap : 1 ≤ cap)
    (h : Reachable ports (idle cap retries transport handler read) s) :
    (s.AtRest → s.inFlight = 0 → ∀ c ∈ s.calls, c = .done ∨ ∃ fault, c = .failed fault) ∧
      ∀ s' t (i : Nat) (r : Request), Step ports s s' → Turns ports s' t →
        t.requests[i]? = some r → r.isSubmit = false →
        s.calls[i]? ≠ some Call.done → t.calls[i]? = some Call.done →
        t.inFlight = 0 ∧ t.asks = [] ∧ .waiting ∉ t.calls ∧
          ∀ n < t.submitted, n ∈ ended t.trace := by
  constructor
  · intro rest hf c hc
    exact h.call_ended hcap rest (List.length_eq_zero_iff.1 hf) hc
  · intro s' t i r hs ht hr drains before after
    have h' : Reachable ports (idle cap retries transport handler read) t :=
      Reachable.turns (h.tail hs) ht
    have hf : t.flight = [] := by
      rcases EndsQuietly.turns h hs ht i after with hd | ⟨r', hr', single⟩ | hf
      · exact absurd hd before
      · rw [hr] at hr'
        cases hr'
        rw [drains] at single
        cases single
      · exact hf
    have asks := asks_eq_nil_of_flight h'.underway h'.settled (by rwa [h'.cap_eq]) hf
    refine ⟨?_, asks, ?_, ?_⟩
    · rw [inFlight, hf]
      rfl
    · intro hw
      exact h'.roster.asks_ne_nil hw asks
    · intro n hn
      exact (h'.ended_perm hf).mem_iff.2 (List.mem_range.2 hn)

/-- A drain was called when the only slot was taken; since then its lookup has ended, and the one
that waited for the slot has got it. -/
def handedOver : Scheduler Unit Nat Nat :=
  (((full.receive .drain).advance sample 20).delivered (questionName "v".toList "d".toList)
    .failure).advance sample 20

/-- The other lookup has ended too. -/
def drained : Scheduler Unit Nat Nat :=
  (handedOver.delivered (questionName "w".toList "d".toList) (.answer 1)).advance sample 20

theorem calls_complete_drained :
    handedOver.AtRest ∧ handedOver.calls = [.done, .done, .draining none] ∧
      drained.calls = [.done, .done, .done] ∧
      (∀ c ∈ drained.calls, c = .done ∨ ∃ fault, c = .failed fault) ∧ drained.inFlight = 0 ∧
      drained.asks = [] ∧ .waiting ∉ drained.calls ∧
      ∀ n < drained.submitted, n ∈ ended drained.trace := by
  have h : Reachable sample (idle 1 0 () 0) handedOver :=
    (((reachable_full.call _).advance 20).delivered _ _).advance 20
  have h' : Reachable sample (idle 1 0 () 0) drained := (h.delivered _ _).advance 20
  refine ⟨rfl, rfl, rfl, (calls_complete (Nat.le_refl 1) h').1 rfl rfl, ?_⟩
  exact (calls_complete (Nat.le_refl 1) h).2 _ drained 2 .drain (step_delivered rfl)
    (turns_advance ..) rfl rfl (by decide) rfl

end Scheduler

end SelectorScan.Lookup
