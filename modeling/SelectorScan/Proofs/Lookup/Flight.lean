import SelectorScan.Proofs.Lookup.Slots

/-!
# Lookups in flight

A lookup is in flight from its start until it leaves, and all that time something stands for it: a
chore to start it, to go on with it or to let it leave, or a query that waits. `Census` says that
there is exactly one such thing for each lookup in flight. `Covered` says why a drain cannot end too
early: a call that was handed a slot is to go on before the lookup that gave it back leaves.

    s.flight = [] → s.asks = []                                            (asks_eq_nil_of_flight)
-/

namespace SelectorScan.Lookup

open Candidate

variable {σ η α : Type} {read : Text → Reading}

def Chore.lookup? : Chore α → Option Nat
  | .start l => some l.number
  | .resume l _ => some l.number
  | .leave n _ => some n
  | _ => none

/-- Behind every call that is to go on with a slot there stands a lookup. -/
def Covered (chores : List (Chore α)) : Prop :=
  ∀ front back, chores = front ++ .enter :: back → ∃ c ∈ back, (c.lookup?).isSome

theorem covered_nil : Covered ([] : List (Chore α)) := by
  intro front back h
  simp at h

theorem Covered.tail {c : Chore α} {cs : List (Chore α)} (h : Covered (c :: cs)) : Covered cs := by
  intro front back e
  apply h (c :: front) back
  rw [e, List.cons_append]

/-- A lookup at the end covers everything. -/
theorem covered_concat {c : Chore α} (cs : List (Chore α)) (hc : (c.lookup?).isSome) :
    Covered (cs ++ [c]) := by
  intro front back e
  rcases List.eq_nil_or_concat back with rfl | ⟨back, c', rfl⟩
  · obtain ⟨-, h⟩ := List.append_inj' e rfl
    obtain rfl := List.singleton_inj.1 h
    simp [Chore.lookup?] at hc
  · rw [List.concat_eq_append, ← List.cons_append, ← List.append_assoc] at e
    obtain ⟨-, h⟩ := List.append_inj' e rfl
    obtain rfl := List.singleton_inj.1 h
    exact ⟨c, by simp, hc⟩

/-- Calls that are to look need no cover. -/
theorem Covered.append_looks {cs looks : List (Chore α)} (h : Covered cs)
    (hl : ∀ c ∈ looks, c.isEnter = false) : Covered (cs ++ looks) := by
  intro front back e
  have none : ∀ rest, looks ≠ rest ++ .enter :: back := by
    intro rest e
    have := hl .enter (by rw [e]; simp)
    simp [Chore.isEnter] at this
  rcases List.append_eq_append_iff.1 e with ⟨rest, -, e'⟩ | ⟨rest, rfl, e'⟩
  · exact absurd e' (none rest)
  · cases rest with
    | nil => exact absurd e'.symm (none [])
    | cons c rest =>
      obtain ⟨rfl, rfl⟩ := List.cons.inj e'
      obtain ⟨c, hc, hs⟩ := h front rest rfl
      exact ⟨c, List.mem_append_left _ hc, hs⟩

namespace Scheduler

variable {ports : Ports σ η α} {terms : Terms} {l : Job} {a : Stage α} {s t : Scheduler σ η α}

/-! ## What stands for lookups -/

section Chores

variable {β : Type} {f : Chore α → Option β}

theorem filterMap_push (c : Chore α) (s : Scheduler σ η α) :
    (s.push c).chores.filterMap f = s.chores.filterMap f ++ (f c).toList := by
  rw [chores_push, List.filterMap_append]
  cases h : f c with
  | none => rw [List.filterMap_cons_none h]; rfl
  | some b => rw [List.filterMap_cons_some h]; rfl

theorem filterMap_pop {c : Chore α} {rest : Queue (Chore α)} (hc : s.chores = c :: rest.toList) :
    s.chores.filterMap f = (f c).toList ++ rest.toList.filterMap f := by
  rw [hc]
  cases h : f c with
  | none => rw [List.filterMap_cons_none h]; rfl
  | some b => rw [List.filterMap_cons_some h]; rfl

theorem filterMap_wake (hf : f .enter = none) (s : Scheduler σ η α) :
    s.wake.chores.filterMap f = s.chores.filterMap f := by
  rcases s.wake_cases with ⟨-, e⟩ | ⟨-, e⟩
  · rw [e, filterMap_push, hf]
    exact List.append_nil _
  · rw [e]

theorem filterMap_accept (hf : f .enter = none) (asks : List Ask) (s : Scheduler σ η α) :
    (s.accept asks).chores.filterMap f = s.chores.filterMap f := by
  simp only [accept]
  split
  · rfl
  · exact filterMap_wake hf _

/-- Calls that are to look are added behind all other chores. -/
theorem filterMap_leave (hf : ∀ call domain, f (.look call domain) = none) (n : Nat)
    (error : Option String) (s : Scheduler σ η α) :
    (s.leave n error).chores.filterMap f = s.chores.filterMap f := by
  have none : (tell n s.drains).2.filterMap f = [] := by
    rw [List.filterMap_eq_nil_iff]
    intro c hc
    obtain ⟨d, -, rfl⟩ := List.mem_map.1 hc
    exact hf ..
  show (s.ready.pushAll (tell n s.drains).2).toList.filterMap f = _
  rw [Queue.toList_pushAll, List.filterMap_append, none, List.append_nil]
  rfl

/-- A lookup that is carried on leaves no chore but to hand its slot over and to let it leave. -/
theorem Carried.filterMap_chores (hf : f .enter = none)
    (leaves : ∀ n error, f (.leave n error) = none)
    (h : Carried ports terms l a s t) :
    t.chores.filterMap f = s.chores.filterMap f := by
  cases h with
  | waits => rfl
  | ends es outcome error =>
    rw [close, filterMap_push, leaves, release, filterMap_wake hf]
    exact List.append_nil _

end Chores

/-- What chores and waiting queries are worth. -/
def roll {β : Type} (f : Chore α → Option β) (g : Job → β) (s : Scheduler σ η α) : List β :=
  s.chores.filterMap f ++ s.waiting.map g

section Roll

variable {β : Type} {f : Chore α → Option β} {g : Job → β}

theorem roll_push (c : Chore α) (s : Scheduler σ η α) :
    ((s.push c).roll f g).Perm ((f c).toList ++ s.roll f g) := by
  unfold roll
  rw [filterMap_push]
  refine List.Perm.trans (List.perm_append_comm.append_right _) ?_
  exact List.Perm.of_eq (List.append_assoc ..)

theorem roll_wake (hf : f .enter = none) (s : Scheduler σ η α) :
    (s.wake.roll f g).Perm (s.roll f g) := by
  unfold roll
  rw [filterMap_wake hf]
  obtain ⟨free, handed, ready, e⟩ := s.exists_wake
  rw [e]

theorem roll_pop {c : Chore α} {rest : Queue (Chore α)} (hc : s.chores = c :: rest.toList) :
    s.roll f g = (f c).toList ++ ({ s with ready := rest } : Scheduler σ η α).roll f g := by
  unfold roll
  rw [filterMap_pop hc, List.append_assoc]
  rfl

/-- A query that begins to wait is worth something more. -/
theorem roll_wait (hc : t.chores = s.chores) (hw : t.waiting = s.waiting ++ [l]) :
    (t.roll f g).Perm (g l :: s.roll f g) := by
  unfold roll
  rw [hc, hw, List.map_append, ← List.append_assoc]
  exact List.perm_append_singleton _ _

/-- A query that is replied to leaves its worth to a chore. -/
theorem roll_reply {front back : List Job} {reply : Reply α} (hf : f (.resume l reply) = some (g l))
    (hw : s.waiting = front ++ l :: back) :
    (s.roll f g).Perm (({ s with waiting := front ++ back }.push (.resume l reply)).roll f g) := by
  refine List.Perm.trans ?_ (roll_push ..).symm
  rw [hf]
  show (s.chores.filterMap f ++ s.waiting.map g).Perm
    (g l :: (s.chores.filterMap f ++ (front ++ back).map g))
  rw [hw, List.map_append, List.map_append, List.map_cons, ← List.append_assoc, ← List.append_assoc]
  exact List.perm_middle

/-- Calls that are to look are worth nothing. -/
theorem roll_leave (hf : ∀ call domain, f (.look call domain) = none) (n : Nat)
    (error : Option String) (s : Scheduler σ η α) : (s.leave n error).roll f g = s.roll f g := by
  unfold roll
  rw [filterMap_leave hf]
  rfl

end Roll

/-! ## The invariant -/

/-- The lookups that something stands for. -/
def bound (s : Scheduler σ η α) : List Nat :=
  s.roll Chore.lookup? Job.number

/-- The lookups in flight are those in hand and those that something stands for. -/
structure Census (hand : List Nat) (s : Scheduler σ η α) : Prop where
  perm : s.flight.Perm (hand ++ s.bound)
  nodup : s.flight.Nodup
  lt : ∀ n ∈ s.flight, n < s.submitted

/-- No lookup is in hand, and calls that are to go on with a slot are covered. -/
def Underway (s : Scheduler σ η α) : Prop :=
  Census [] s ∧ Covered s.chores

variable {hand : List Nat}

theorem census_idle (cap : Nat) (retries : Int) (transport : σ) (handler : η) :
    Census [] (idle cap retries transport handler read : Scheduler σ η α) where
  perm := List.Perm.refl _
  nodup := List.nodup_nil
  lt := by
    intro n hn
    cases hn

/-- A chore that is taken up puts its lookup in hand. -/
theorem Census.pop {c : Chore α} {rest : Queue (Chore α)} (h : Census [] s)
    (hc : s.chores = c :: rest.toList) : Census c.lookup?.toList { s with ready := rest } := by
  have perm := h.perm
  rw [bound, roll_pop hc] at perm
  exact ⟨perm, h.nodup, h.lt⟩

/-- Handing over a slot is not about a lookup. -/
theorem Census.wake (h : Census hand s) : Census hand s.wake := by
  have bound : s.wake.bound.Perm s.bound := roll_wake rfl s
  obtain ⟨free, handed, ready, e⟩ := s.exists_wake
  rw [e] at bound ⊢
  exact ⟨h.perm.trans (List.Perm.append_left _ bound.symm), h.nodup, h.lt⟩

/-- A lookup that is closed is to leave. -/
theorem Census.close (h : Census [l.number] s) (error : Option String) :
    Census [] (s.close l error) := by
  have released : Census [l.number] (s.release l) := Census.wake ⟨h.perm, h.nodup, h.lt⟩
  have bound : (s.close l error).bound.Perm (l.number :: (s.release l).bound) := roll_push ..
  exact ⟨released.perm.trans bound.symm, released.nodup, released.lt⟩

/-- A lookup that is carried on is stood for again. -/
theorem Census.carried (hc : Carried ports terms l a s t) (h : Census [l.number] s) :
    Census [] t := by
  cases hc with
  | waits es left course own =>
    refine ⟨h.perm.trans (List.Perm.symm ?_), h.nodup, h.lt⟩
    exact roll_wait (l := { l with attempts := left }) rfl rfl
  | ends es outcome error course own =>
    refine Census.close ?_ error
    exact ⟨h.perm, h.nodup, h.lt⟩

/-- A new lookup is the only one with its number. -/
theorem Census.launch (h : Census [] s) (call : Nat) (selector : Points) (domain : Text) :
    Census [] (s.launch call selector domain) := by
  have flight : (s.launch call selector domain).flight = s.flight ++ [s.submitted] :=
    Queue.toList_push ..
  have new : s.submitted ∉ s.flight := by
    intro hn
    exact Nat.lt_irrefl _ (h.lt _ hn)
  refine ⟨?_, ?_, ?_⟩
  · have bound : (s.launch call selector domain).bound.Perm ([s.submitted] ++ s.bound) :=
      roll_push ..
    rw [flight]
    exact List.perm_append_comm.trans ((List.Perm.append_left _ h.perm).trans bound.symm)
  · rw [flight, List.nodup_append]
    refine ⟨h.nodup, List.pairwise_singleton .., ?_⟩
    intro n hn m hm e
    obtain rfl := List.mem_singleton.1 hm
    exact new (e ▸ hn)
  · rw [flight]
    intro n hn
    rcases List.mem_append.1 hn with hn | hn
    · exact Nat.lt_succ_of_lt (h.lt n hn)
    · rw [List.mem_singleton.1 hn]
      exact Nat.lt_succ_self _

/-- A lookup that leaves is no longer in flight. -/
theorem Census.leave {n : Nat} (h : Census [n] s) (error : Option String) :
    Census [] (s.leave n error) := by
  have flight : (s.leave n error).flight = s.flight.erase n := Queue.toList_erase ..
  have bound : (s.leave n error).bound = s.bound := roll_leave (fun _ _ => rfl) ..
  refine ⟨?_, ?_, ?_⟩
  · rw [flight, bound]
    have := h.perm.erase n
    rwa [List.singleton_append, List.erase_cons_head] at this
  · rw [flight]
    exact h.nodup.erase n
  · rw [flight]
    intro m hm
    exact h.lt m (List.mem_of_mem_erase hm)

theorem Census.accept (h : Census hand s) (asks : List Ask) : Census hand (s.accept asks) := by
  have taken : Census hand { s with asks, handed := s.handed - 1 } := ⟨h.perm, h.nodup, h.lt⟩
  simp only [Scheduler.accept]
  split
  · exact taken
  · exact taken.wake

/-! ## Moves keep it -/

theorem covered_push {c : Chore α} (hc : (c.lookup?).isSome) (s : Scheduler σ η α) :
    Covered (s.push c).chores := by
  rw [chores_push]
  exact covered_concat _ hc

theorem Covered.carried (hc : Carried ports terms l a s t) (h : Covered s.chores) :
    Covered t.chores := by
  cases hc with
  | waits => exact h
  | ends => exact covered_push rfl _

theorem Underway.move (h : s.Underway) (hm : Move ports s t) : t.Underway := by
  obtain ⟨h, hv⟩ := h
  have tail {c : Chore α} {rest : Queue (Chore α)} (hc : s.chores = c :: rest.toList) :
      Covered ({ s with ready := rest } : Scheduler σ η α).chores :=
    Covered.tail (hc ▸ hv)
  cases hm with
  | log entries => exact ⟨⟨h.perm, h.nodup, h.lt⟩, hv⟩
  | call request => exact ⟨⟨h.perm, h.nodup, h.lt⟩, hv⟩
  | setCall call c => exact ⟨⟨h.perm, h.nodup, h.lt⟩, hv⟩
  | admitted call selector domain _ =>
    constructor
    · exact Census.launch (s := s.take) ⟨h.perm, h.nodup, h.lt⟩ call selector domain
    · exact covered_push rfl _
  | wait ask _ => exact ⟨⟨h.perm, h.nodup, h.lt⟩, hv⟩
  | drain call domain _ => exact ⟨⟨h.perm, h.nodup, h.lt⟩, hv⟩
  | reply reply hw => exact ⟨⟨h.perm.trans (roll_reply rfl hw), h.nodup, h.lt⟩, covered_push rfl _⟩
  | start hc hs => exact ⟨(h.pop hc).carried hs, Covered.carried hs (tail hc)⟩
  | resume hc hr => exact ⟨(h.pop hc).carried hr, Covered.carried hr (tail hc)⟩
  | enter hc ha => exact ⟨((h.pop hc).accept _).launch .., covered_push rfl _⟩
  | pass hc ha => exact ⟨h.pop hc, tail hc⟩
  | leave hc =>
    refine ⟨(h.pop hc).leave _, ?_⟩
    show Covered (Queue.pushAll _ _).toList
    rw [Queue.toList_pushAll]
    apply Covered.append_looks (tail hc)
    intro c hc
    obtain ⟨d, -, rfl⟩ := List.mem_map.1 hc
    rfl
  | look hc => exact ⟨h.pop hc, tail hc⟩

/-- In every reachable state the lookups in flight are accounted for. -/
theorem Reachable.underway {cap : Nat} {retries : Int} {transport : σ} {handler : η}
    (h : Reachable ports (idle cap retries transport handler read) s) : s.Underway := by
  apply h.kept
  · exact ⟨census_idle cap retries transport handler, covered_nil⟩
  · intro s t h hm
    exact h.move hm

/-! ## What follows -/

/-- At rest a query waits for each lookup in flight. -/
theorem Underway.flight_perm (h : s.Underway) (rest : s.AtRest) :
    s.flight.Perm (s.waiting.map Job.number) := by
  have := h.1.perm
  unfold bound roll at this
  rwa [rest] at this

/-- When nothing is in flight, calls look at most. -/
theorem Underway.chores_of_flight (h : s.Underway) (hf : s.flight = []) :
    s.waiting = [] ∧ ∀ c ∈ s.chores, ∃ call domain, c = .look call domain := by
  have none : s.bound = [] := by
    have := h.1.perm
    rw [hf] at this
    exact this.symm.eq_nil
  obtain ⟨chores, waiting⟩ := List.append_eq_nil_iff.1 none
  have free : ∀ c ∈ s.chores, c.lookup? = Option.none := List.filterMap_eq_nil_iff.1 chores
  refine ⟨List.map_eq_nil_iff.1 waiting, ?_⟩
  intro c hc
  cases c with
  | look call domain => exact ⟨call, domain, rfl⟩
  | enter =>
    obtain ⟨front, back, e⟩ := List.append_of_mem hc
    obtain ⟨c, hb, some⟩ := h.2 front back e
    rw [free c (by rw [e]; simp [hb])] at some
    cases some
  | _ => cases free _ hc

/-- When nothing is in flight, no call waits for a slot. -/
theorem asks_eq_nil_of_flight (h : s.Underway) (hs : s.Settled) (hcap : 0 < s.cap)
    (hf : s.flight = []) : s.asks = [] := by
  obtain ⟨waiting, looks⟩ := h.chores_of_flight hf
  have handed : s.handed = 0 := by
    rw [← hs.1.enters, List.countP_eq_zero]
    intro c hc
    obtain ⟨call, domain, rfl⟩ := looks c hc
    simp [Chore.isEnter]
  have holding : s.holding = 0 := by
    rw [Scheduler.holding, waiting, List.length_nil, Nat.add_zero, List.countP_eq_zero]
    intro c hc
    obtain ⟨call, domain, rfl⟩ := looks c hc
    simp [Chore.holds]
  have := hs.1.balance
  have := hs.2
  unfold Eager at this
  exact List.length_eq_zero_iff.1 (by omega)

end Scheduler

end SelectorScan.Lookup
