import SelectorScan.Proofs.Lookup.Accounts

/-!
# Calls

A call that has not ended waits for a slot, or waits for lookups to leave, or is to look whether any
are left; it does one of these, and once (`posts`). `Roster` says so, and that the lookups of a call
are given slots in the order of its request, each once. In the middle of a step the call that moves
is in hand.

    Roster hand s → (hand ++ s.posts).Perm (hand' ++ t.posts) → … → Roster hand' t   (Roster.same)
-/

namespace SelectorScan.Lookup

open Candidate

variable {σ η α : Type} {read : Text → Reading}

/-! ## Requests -/

def targets (domain : Text) (selectors : List Points) : List Target :=
  selectors.map fun selector => ⟨selector, domain⟩

theorem targets_append (domain : Text) (front back : List Points) :
    targets domain (front ++ back) = targets domain front ++ targets domain back :=
  List.map_append

namespace Request

/-- What a request asks lookups for, in order. -/
def targets : Request → List Target
  | submit selector domain => [⟨selector, domain⟩]
  | run candidates domain => Lookup.targets domain candidates.selectors
  | drain => []

/-- What ends a request before its time. -/
def fault : Request → Option Fault
  | run candidates _ => candidates.fault
  | _ => none

def isSubmit : Request → Bool
  | submit _ _ => true
  | _ => false

end Request

/-- What the lookups that were given slots for a call are for, in order. -/
def targetsOf (call : Nat) (events : List (Event α)) : List Target :=
  (((granted events).filter fun g => g.2.1 == call).map fun g => g.2.2).reverse

def Call.ofFault : Option Fault → Call
  | none => .done
  | some fault => .failed fault

/-! ## Posts -/

/-- Where a call stands, and what is left of its request. -/
structure Post where
  call : Nat
  /-- How far the call has come. -/
  state : Call
  /-- What it has no slots for yet. -/
  targets : List Target
  fault : Option Fault
  /-- Whether the request is for one lookup. -/
  single : Bool

/-- The post of a call that waits for a slot. -/
def Ask.post (a : Ask) : Post where
  call := a.call
  state := .waiting
  targets := ⟨a.selector, a.domain⟩ :: targets a.domain (a.rest.elim [] Candidates.selectors)
  fault := a.rest.bind Candidates.fault
  single := a.rest.isNone

def drainPost (call : Nat) (domain : Option Text) : Post :=
  ⟨call, .draining domain, [], none, false⟩

def endPost (call : Nat) (fault : Option Fault) (single : Bool) : Post :=
  ⟨call, Call.ofFault fault, [], fault, single⟩

def Chore.post? : Chore α → Option Post
  | .look call domain => some (drainPost call domain)
  | _ => none

namespace Scheduler

variable {ports : Ports σ η α} {s t : Scheduler σ η α}

/-- Where the calls that have not ended stand. -/
def posts (s : Scheduler σ η α) : List Post :=
  s.asks.map Ask.post ++
    (s.drains.map (fun d => drainPost d.call d.domain) ++ s.chores.filterMap Chore.post?)

/-- A call stands where a post says: its lookups so far and those left are those of its request. -/
structure Standing (s : Scheduler σ η α) (p : Post) : Prop where
  state : s.calls[p.call]? = some p.state
  request : ∃ r, s.requests[p.call]? = some r ∧ targetsOf p.call s.trace ++ p.targets = r.targets ∧
    r.fault = p.fault ∧ r.isSubmit = p.single

/-- Each call has ended, or is in hand, or stands in one place. -/
structure Roster (hand : List Post) (s : Scheduler σ η α) : Prop where
  length : s.requests.length = s.calls.length
  callers : ∀ g ∈ granted s.trace, g.2.1 < s.calls.length
  nodup : ((hand ++ s.posts).map Post.call).Nodup
  told : ∀ p ∈ hand ++ s.posts, s.Standing p
  ended : ∀ call < s.calls.length, call ∈ (hand ++ s.posts).map Post.call ∨
    ∃ fault single, s.Standing (endPost call fault single)

variable {hand hand' : List Post} {p : Post}

/-! ## What keeps it -/

theorem roster_idle (cap : Nat) (retries : Int) (transport : σ) (handler : η) :
    Roster [] (idle cap retries transport handler read : Scheduler σ η α) where
  length := rfl
  callers := nofun
  nodup := List.nodup_nil
  told := nofun
  ended := nofun

/-- Chores that are not about calls. -/
theorem posts_push {c : Chore α} (hc : c.post? = none) (s : Scheduler σ η α) :
    (s.push c).posts = s.posts := by
  unfold posts
  rw [chores_push, List.filterMap_append, List.filterMap_cons_none hc, List.filterMap_nil,
    List.append_nil]
  rfl

/-- Calls may be taken in hand and put back; all else may change that is not about calls. -/
theorem Roster.same (h : Roster hand s) (requests : t.requests = s.requests)
    (calls : t.calls = s.calls) (hg : granted t.trace = granted s.trace)
    (perm : (hand ++ s.posts).Perm (hand' ++ t.posts)) : Roster hand' t := by
  have standing {p : Post} (hp : s.Standing p) : t.Standing p := by
    refine ⟨calls ▸ hp.state, ?_⟩
    rw [requests, targetsOf, hg]
    exact hp.request
  refine ⟨?_, ?_, ?_, ?_, ?_⟩
  · rw [requests, calls]
    exact h.length
  · rw [hg, calls]
    exact h.callers
  · exact (perm.map Post.call).nodup_iff.1 h.nodup
  · intro p hp
    exact standing (h.told p (perm.mem_iff.2 hp))
  · intro call hc
    rcases h.ended call (calls ▸ hc) with hc | ⟨fault, single, hc⟩
    · exact .inl ((perm.map Post.call).mem_iff.1 hc)
    · exact .inr ⟨fault, single, standing hc⟩

/-- A call in hand that has ended may be put down. -/
theorem Roster.lay {call : Nat} {single : Bool} (fault : Option Fault)
    (h : Roster (endPost call fault single :: hand) s) : Roster hand s := by
  have nodup := h.nodup
  rw [List.cons_append, List.map_cons, List.nodup_cons] at nodup
  refine ⟨h.length, h.callers, nodup.2, ?_, ?_⟩
  · intro p hp
    exact h.told p (List.mem_cons_of_mem _ hp)
  · intro call' hc
    rcases h.ended call' hc with hc | hc
    · rcases List.mem_cons.1 hc with rfl | hc
      · exact .inr ⟨fault, single, h.told _ List.mem_cons_self⟩
      · exact .inl hc
    · exact .inr hc

/-- The call in hand stands nowhere else. -/
theorem Roster.call_ne {q : Post} (h : Roster (p :: hand) s) (hq : q ∈ hand ++ s.posts) :
    q.call ≠ p.call := by
  have nodup := h.nodup
  rw [List.cons_append, List.map_cons, List.nodup_cons] at nodup
  intro e
  exact nodup.1 (e ▸ List.mem_map.2 ⟨q, hq, rfl⟩)

/-- What changes the call in hand alone leaves the others where they are. -/
theorem Roster.change {p' : Post} (h : Roster (p :: hand) s) (call : p'.call = p.call)
    (requests : t.requests = s.requests) (calls : t.calls.length = s.calls.length)
    (callers : ∀ g ∈ granted t.trace, g ∈ granted s.trace ∨ g.2.1 = p.call)
    (posts : t.posts = s.posts)
    (elsewhere : ∀ q : Post, q.call ≠ p.call → s.Standing q → t.Standing q)
    (here : s.Standing p → t.Standing p') : Roster (p' :: hand) t := by
  have told := h.told p List.mem_cons_self
  refine ⟨?_, ?_, ?_, ?_, ?_⟩
  · rw [requests, calls]
    exact h.length
  · intro g hg
    rw [calls]
    rcases callers g hg with hg | e
    · exact h.callers g hg
    · rw [e]
      exact (List.getElem?_eq_some_iff.1 told.state).1
  · rw [posts, List.cons_append, List.map_cons, call]
    exact h.nodup
  · rw [posts]
    intro q hq
    rcases List.mem_cons.1 hq with rfl | hq
    · exact here told
    · exact elsewhere q (h.call_ne hq) (h.told q (List.mem_cons_of_mem _ hq))
  · rw [calls, posts, List.cons_append, List.map_cons, call]
    intro i hi
    rcases h.ended i hi with hi | ⟨fault, single, hs⟩
    · exact .inl hi
    · by_cases e : i = p.call
      · rw [e]
        exact .inl List.mem_cons_self
      · exact .inr ⟨fault, single, elsewhere _ e hs⟩

/-- The call in hand may come further. -/
theorem Roster.setCall (h : Roster (p :: hand) s) (c : Call) :
    Roster ({ p with state := c } :: hand) (s.setCall p.call c) := by
  apply h.change
  · rfl
  · rfl
  · exact List.length_set
  · intro g hg
    exact .inl hg
  · rfl
  · intro q hq hs
    refine ⟨?_, hs.request⟩
    show (s.calls.set p.call c)[q.call]? = some q.state
    rw [List.getElem?_set_ne hq.symm]
    exact hs.state
  · intro hs
    refine ⟨?_, hs.request⟩
    exact List.getElem?_set_self (List.getElem?_eq_some_iff.1 hs.state).1

theorem targetsOf_granted (n call : Nat) (target : Target) (es : List (Event α)) :
    targetsOf call (.granted n call target :: es) = targetsOf call es ++ [target] := by
  show ((((n, call, target) :: granted es).filter fun g => g.2.1 == call).map
    fun g => g.2.2).reverse = _
  rw [List.filter_cons_of_pos (by simp), List.map_cons, List.reverse_cons]
  rfl

theorem targetsOf_granted_ne {call call' : Nat} (hc : call' ≠ call) (n : Nat) (target : Target)
    (es : List (Event α)) :
    targetsOf call' (.granted n call target :: es) = targetsOf call' es := by
  show ((((n, call, target) :: granted es).filter fun g => g.2.1 == call').map
    fun g => g.2.2).reverse = _
  rw [List.filter_cons_of_neg (by simp [hc.symm])]
  rfl

/-- The call in hand is given a slot for the first of its targets. -/
theorem Roster.launch {call : Nat} {state : Call} {selector : Points} {domain : Text}
    {targets : List Target} {fault : Option Fault} {single : Bool}
    (h : Roster (⟨call, state, ⟨selector, domain⟩ :: targets, fault, single⟩ :: hand) s) :
    Roster (⟨call, state, targets, fault, single⟩ :: hand) (s.launch call selector domain) := by
  have trace : (s.launch call selector domain).trace =
      .granted s.submitted call ⟨selector, domain⟩ :: s.trace := rfl
  apply h.change
  · rfl
  · rfl
  · rfl
  · intro g hg
    rcases List.mem_cons.1 hg with rfl | hg
    · exact .inr rfl
    · exact .inl hg
  · exact posts_push rfl _
  · intro q hq hs
    refine ⟨hs.state, ?_⟩
    rw [trace, targetsOf_granted_ne hq]
    exact hs.request
  · rintro ⟨state', r, hr, whole, rest⟩
    refine ⟨state', r, hr, ?_, rest⟩
    rw [trace, targetsOf_granted, List.append_assoc]
    exact whole

/-- A call that is made is in hand. -/
theorem Roster.call (h : Roster [] s) (request : Request) :
    Roster [⟨s.calls.length, .waiting, request.targets, request.fault, request.isSubmit⟩]
      { s with requests := s.requests ++ [request], calls := s.calls ++ [Call.waiting] } := by
  have standing {q : Post} (hs : s.Standing q) : Standing
      { s with requests := s.requests ++ [request], calls := s.calls ++ [Call.waiting] } q := by
    obtain ⟨state, r, hr, rest⟩ := hs
    refine ⟨?_, r, ?_, rest⟩
    · exact (List.getElem?_append_left (List.getElem?_eq_some_iff.1 state).1).trans state
    · exact (List.getElem?_append_left (List.getElem?_eq_some_iff.1 hr).1).trans hr
  have lt {q : Post} (hs : s.Standing q) : q.call < s.calls.length :=
    (List.getElem?_eq_some_iff.1 hs.state).1
  have none : targetsOf s.calls.length s.trace = [] := by
    rw [targetsOf, List.filter_eq_nil_iff.2]
    · rfl
    · intro g hg
      simpa using Nat.ne_of_lt (h.callers g hg)
  refine ⟨?_, ?_, ?_, ?_, ?_⟩
  · simpa using h.length
  · intro g hg
    refine Nat.lt_of_lt_of_le (h.callers g hg) ?_
    simp
  · refine List.nodup_cons.2 ⟨?_, h.nodup⟩
    intro hn
    obtain ⟨q, hq, e⟩ := List.mem_map.1 hn
    exact Nat.ne_of_lt (lt (h.told q hq)) e
  · intro q hq
    rcases List.mem_cons.1 hq with rfl | hq
    · refine ⟨List.getElem?_concat_length, request, ?_, ?_, rfl, rfl⟩
      · show (s.requests ++ [request])[s.calls.length]? = some request
        rw [← h.length]
        exact List.getElem?_concat_length
      · show targetsOf s.calls.length s.trace ++ request.targets = request.targets
        rw [none, List.nil_append]
    · exact standing (h.told q hq)
  · intro call hc
    rw [List.length_append, List.length_singleton] at hc
    rcases Nat.lt_succ_iff_lt_or_eq.1 hc with hc | rfl
    · rcases h.ended call hc with hc | ⟨fault, single, hs⟩
      · exact .inl (List.mem_cons_of_mem _ hc)
      · exact .inr ⟨fault, single, standing hs⟩
    · exact .inl List.mem_cons_self

/-! ## Steps keep it -/

theorem Roster.logAll (h : Roster hand s) (entries : List Log.Entry) :
    Roster hand (s.logAll entries) :=
  h.same rfl rfl (granted_logs_append entries s.trace) (List.Perm.refl _)

theorem Roster.look {call : Nat} {state : Call}
    (h : Roster [⟨call, state, [], none, false⟩] s) (domain : Option Text) :
    Roster [] (s.look call domain) := by
  unfold Scheduler.look
  split
  · exact ((h.logAll _).setCall .done).lay none
  · refine (h.setCall (.draining domain)).same rfl rfl rfl ?_
    show (drainPost call domain :: s.posts).Perm (_ ++ (List.map _ (s.drains ++ [_]) ++ _))
    rw [List.map_append, List.append_assoc]
    exact ((List.Perm.append_left _ List.perm_middle).trans List.perm_middle).symm

theorem Roster.enqueue {ask : Ask} (h : Roster [ask.post] s) : Roster [] (s.enqueue ask) := by
  refine h.same rfl rfl rfl ?_
  show (ask.post :: s.posts).Perm (List.map _ (s.asks ++ [ask]) ++ _)
  rw [List.map_append, List.append_assoc]
  exact List.perm_middle.symm

theorem Roster.pull {call : Nat} {domain : Text} {fault : Option Fault} {items : List Item}
    (h : Roster [⟨call, .waiting, targets domain (items.filterMap Item.selector?), fault, false⟩]
      s) : Roster [] (s.pull call domain fault items) := by
  refine pull_induct (P := fun items s => Roster [⟨call, .waiting,
    targets domain (items.filterMap Item.selector?), fault, false⟩] s) ?_ ?_ ?_ ?_ ?_ items s h
  · intro s entry rest h
    exact h.logAll _
  · intro s selector rest _ h
    have taken : Roster _ s.take := h.same rfl rfl rfl (List.Perm.refl _)
    exact taken.launch
  · intro s selector rest _ h
    exact Roster.enqueue h
  · rintro s fault rfl h
    exact (h.setCall (.failed fault)).lay (some fault)
  · rintro s entry rfl h
    exact (h.logAll _).look _

theorem Roster.proceed {ask : Ask} (h : Roster [ask.post] s) : Roster [] (s.proceed ask) := by
  obtain ⟨call, selector, domain, rest⟩ := ask
  cases rest with
  | none => exact (h.launch.setCall .done).lay none
  | some c => exact h.launch.pull

theorem Roster.receive (h : Roster [] s) (request : Request) : Roster [] (s.receive request) := by
  have made := h.call request
  cases request with
  | submit selector domain =>
    have asks : Roster [(Ask.mk s.calls.length selector domain none).post] _ := made
    show Roster [] (seek _ _)
    unfold seek
    split
    · exact Roster.proceed (asks.same rfl rfl rfl (List.Perm.refl _))
    · exact asks.enqueue
  | run candidates domain => exact made.pull
  | drain => exact made.look none

theorem posts_wake (s : Scheduler σ η α) : s.wake.posts = s.posts := by
  rcases s.wake_cases with ⟨-, e⟩ | ⟨-, e⟩
  · rw [e]
    exact posts_push rfl _
  · rw [e]

theorem Roster.close (h : Roster hand s) (l : Job) (error : Option String) :
    Roster hand (s.close l error) := by
  have posts : (s.close l error).posts = s.posts := (posts_push rfl _).trans (posts_wake _)
  obtain ⟨free, handed, ready, e⟩ := exists_close l error s
  rw [e] at posts ⊢
  refine h.same rfl rfl rfl ?_
  rw [posts]

/-- Carrying on a lookup is not about calls. -/
theorem Roster.carried {terms : Terms} {l : Job} {a : Stage α} (h : Roster hand s) (live : a.Live)
    (hc : Carried ports terms l a s t) : Roster hand t := by
  cases hc with
  | waits es left course own =>
    exact h.same rfl rfl (course.granted_append own live s.trace) (List.Perm.refl _)
  | ends es outcome error course own =>
    refine Roster.close ?_ l error
    exact h.same rfl rfl (course.granted_append own live s.trace) (List.Perm.refl _)

/-- A call that goes on with the slot it was handed is in hand. -/
theorem Roster.accept {ask : Ask} {asks : List Ask} (h : Roster hand s)
    (ha : s.asks = ask :: asks) : Roster (ask.post :: hand) (s.accept asks) := by
  have posts : (s.accept asks).posts = posts { s with asks } := by
    simp only [Scheduler.accept]
    split
    · rfl
    · exact posts_wake _
  obtain ⟨free, handed, ready, e⟩ := exists_accept asks s
  rw [e] at posts ⊢
  refine h.same rfl rfl rfl ?_
  rw [posts]
  show (hand ++ (s.asks.map Ask.post ++ _)).Perm (ask.post :: (hand ++ (asks.map Ask.post ++ _)))
  rw [ha, List.map_cons]
  exact List.perm_middle

/-- A chore that is taken up puts its call in hand. -/
theorem Roster.pop {c : Chore α} {rest : Queue (Chore α)} (h : Roster [] s)
    (hc : s.chores = c :: rest.toList) : Roster c.post?.toList { s with ready := rest } := by
  refine h.same rfl rfl rfl ?_
  show (s.asks.map Ask.post ++ (_ ++ s.chores.filterMap Chore.post?)).Perm
    (_ ++ (s.asks.map Ask.post ++ (_ ++ rest.toList.filterMap Chore.post?)))
  rw [hc]
  cases hp : c.post? with
  | none =>
    rw [List.filterMap_cons_none hp]
    exact List.Perm.refl _
  | some p =>
    rw [List.filterMap_cons_some hp]
    exact (List.Perm.append_left _ List.perm_middle).trans List.perm_middle

/-- A drain that is told of a lookup, or is to look, is a call's as before. -/
theorem posts_tell (n : Nat) (drains : List Drain) :
    ((tell (α := α) n drains).1.map (fun d => drainPost d.call d.domain) ++
      (tell (α := α) n drains).2.filterMap Chore.post?).Perm
        (drains.map fun d => drainPost d.call d.domain) := by
  simp only [tell, List.filterMap_map]
  rw [show drains.map (fun d => drainPost d.call d.domain) =
    (drains.map fun d => { d with left := d.left.erase n }).map
      fun d => drainPost d.call d.domain by rw [List.map_map]; rfl]
  generalize (drains.map fun d => { d with left := d.left.erase n }) = told
  have split := (List.filter_append_perm (fun d : Drain => d.left.isEmpty) told).map
    fun d => drainPost d.call d.domain
  rw [List.map_append] at split
  refine List.Perm.trans List.perm_append_comm (List.Perm.trans (List.Perm.of_eq ?_) split)
  congr 1
  exact congrFun (List.filterMap_eq_map (f := fun d : Drain => drainPost d.call d.domain)) _

/-- Calls whose lookups have left only stand elsewhere. -/
theorem Roster.leave (h : Roster hand s) (n : Nat) (error : Option String) :
    Roster hand (s.leave n error) := by
  refine h.same rfl rfl (granted_logs_append _ s.trace) (List.Perm.append_left _ ?_)
  show (s.asks.map Ask.post ++ (s.drains.map _ ++ s.chores.filterMap _)).Perm
    (s.asks.map Ask.post ++ ((tell (α := α) n s.drains).1.map _ ++
      (s.ready.pushAll (tell n s.drains).2).toList.filterMap Chore.post?))
  refine List.Perm.append_left _ ?_
  rw [Queue.toList_pushAll, List.filterMap_append]
  refine ((posts_tell (α := α) n s.drains).symm.append_right _).trans ?_
  rw [List.append_assoc]
  exact List.Perm.append_left _ List.perm_append_comm

theorem Roster.turn (h : Roster [] s) (ht : s.turn? ports = some t) : Roster [] t := by
  obtain ⟨c, rest, hc, rfl⟩ := exists_perform_of_turn? ht
  have taken := h.pop hc
  cases c with
  | start l =>
    have carried : Carried ports s.terms l _ _ _ := carried_start l { s with ready := rest }
    exact taken.carried (Terms.live_begun ..) carried
  | resume l reply =>
    have carried : Carried ports s.terms l _ _ _ :=
      carried_resume l reply { s with ready := rest }
    exact taken.carried (a := .asking _ _) trivial carried
  | enter =>
    show Roster [] (enter _)
    unfold enter
    split
    · exact taken
    · next ha => exact (taken.accept ha).proceed
  | leave n error => exact taken.leave n error
  | look call domain => exact taken.look domain

theorem Roster.step (h : Roster [] s) (hs : Step ports s t) : Roster [] t := by
  cases hs with
  | turn ht => exact h.turn ht
  | call request => exact h.receive request
  | reply reply hw =>
    refine h.same rfl rfl rfl ?_
    rw [posts_push rfl]
    exact List.Perm.refl _

/-- In every reachable state each call has ended or stands in one place. -/
theorem Reachable.roster {cap : Nat} {retries : Int} {transport : σ} {handler : η}
    (h : Reachable ports (idle cap retries transport handler read) s) : Roster [] s := by
  induction h with
  | refl => exact roster_idle cap retries transport handler
  | tail _ hs ih => exact ih.step hs

/-! ## What follows -/

/-- A call that stands somewhere has not ended, and waits for a slot only if it stands in line. -/
theorem state_of_mem_posts (hp : p ∈ s.posts) :
    p.state = .waiting ∧ s.asks ≠ [] ∨ ∃ domain, p.state = .draining domain := by
  rcases List.mem_append.1 hp with hp | hp
  · obtain ⟨a, ha, rfl⟩ := List.mem_map.1 hp
    exact .inl ⟨rfl, List.ne_nil_of_mem ha⟩
  · rcases List.mem_append.1 hp with hp | hp
    · obtain ⟨d, -, rfl⟩ := List.mem_map.1 hp
      exact .inr ⟨d.domain, rfl⟩
    · obtain ⟨c, -, hc⟩ := List.mem_filterMap.1 hp
      cases c <;> cases hc
      exact .inr ⟨_, rfl⟩

/-- No call waits for two slots. -/
theorem Roster.nodup_asks (h : Roster [] s) : (s.asks.map Ask.call).Nodup := by
  have all := h.nodup
  rw [List.nil_append, posts, List.map_append, List.map_map] at all
  exact all.sublist (List.sublist_append_left ..)

/-- A call stands where its state says, or has ended. -/
theorem Roster.cases_of_call {i : Nat} {c : Call} (h : Roster [] s) (hc : s.calls[i]? = some c) :
    c = .waiting ∧ s.asks ≠ [] ∨ (∃ domain, c = .draining domain) ∨
      ∃ fault single, c = Call.ofFault fault ∧ s.Standing (endPost i fault single) := by
  rcases h.ended i (List.getElem?_eq_some_iff.1 hc).1 with hp | ⟨fault, single, hs⟩
  · obtain ⟨p, hm, rfl⟩ := List.mem_map.1 hp
    have state : c = p.state := Option.some.inj (hc.symm.trans (h.told p hm).state)
    rcases state_of_mem_posts hm with ⟨hw, ha⟩ | ⟨domain, hd⟩
    · exact .inl ⟨state.trans hw, ha⟩
    · exact .inr (.inl ⟨domain, state.trans hd⟩)
  · exact .inr (.inr ⟨fault, single, Option.some.inj (hc.symm.trans hs.state), hs⟩)

/-- The lookups of a call that is done are those of its request, which had no fault. -/
theorem Roster.targets_of_done {i : Nat} (h : Roster [] s) (hd : s.calls[i]? = some Call.done) :
    ∃ r, s.requests[i]? = some r ∧ targetsOf i s.trace = r.targets ∧ r.fault = none := by
  rcases h.cases_of_call hd with ⟨e, -⟩ | ⟨domain, e⟩ | ⟨fault, single, e, hs⟩
  · cases e
  · cases e
  · obtain ⟨r, hr, whole, hf, -⟩ := hs.request
    cases fault with
    | none => exact ⟨r, hr, (List.append_nil _).symm.trans whole, hf⟩
    | some fault => cases e

end Scheduler

end SelectorScan.Lookup
