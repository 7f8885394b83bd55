import Mathlib.Data.List.Forall2
import SelectorScan.Proofs.Lookup.Calls

/-!
# Schedulers alike

Two schedulers are asked for the same lookups, but a run of the first one has its lookups asked for
by submits of the second one. They are `Alike` when all else is the same but for the numbers of
calls and what was logged; a `Numbering` says which calls stand for one another. Whatever is done
to both of them leaves them alike:

    Alike N own s t → Alike N own (s.start ports l) (t.start ports l)               (Alike.start)
    Alike N own s t → Alike N.call own (s.receive r) (t.receive r)                (Alike.receive)
-/

namespace SelectorScan.Lookup

open Candidate

variable {σ η α : Type} {read : Text → Reading}

/-! ## Numbers of calls -/

/-- Which calls of two schedulers stand for one another. Any number of calls of the second one may
stand for the run of the first one. -/
structure Numbering (run : Nat) where
  /-- How many calls the first scheduler has got. -/
  first : Nat
  /-- How many calls the second one has got. -/
  second : Nat
  Stands : Nat → Nat → Prop
  made : run < first
  lt : ∀ {i j}, Stands i j → i < first ∧ j < second
  single : ∀ {i j j'}, i ≠ run → Stands i j → Stands i j' → j' = j
  function : ∀ {i i' j}, Stands i j → Stands i' j → i' = i

namespace Numbering

variable {run : Nat}

/-- The run is the latest call of the first scheduler, and the second one has not got it. -/
def start (run : Nat) : Numbering run where
  first := run + 1
  second := run
  Stands i j := i = j ∧ j < run
  made := Nat.lt_succ_self run
  lt := by
    rintro i _ ⟨rfl, hi⟩
    exact ⟨Nat.lt_succ_of_lt hi, hi⟩
  single := by
    rintro i _ _ - ⟨rfl, -⟩ ⟨rfl, -⟩
    rfl
  function := by
    rintro _ _ j ⟨rfl, -⟩ ⟨rfl, -⟩
    rfl

/-- Both get another call. -/
def call (N : Numbering run) : Numbering run where
  first := N.first + 1
  second := N.second + 1
  Stands i j := N.Stands i j ∨ i = N.first ∧ j = N.second
  made := Nat.lt_succ_of_lt N.made
  lt := by
    rintro i j (h | ⟨rfl, rfl⟩)
    · exact ⟨Nat.lt_succ_of_lt (N.lt h).1, Nat.lt_succ_of_lt (N.lt h).2⟩
    · exact ⟨Nat.lt_succ_self _, Nat.lt_succ_self _⟩
  single := by
    rintro i j j' hi (h | ⟨rfl, rfl⟩) (h' | ⟨e, rfl⟩)
    · exact N.single hi h h'
    · exact absurd (e ▸ (N.lt h).1) (Nat.lt_irrefl _)
    · exact absurd (N.lt h').1 (Nat.lt_irrefl _)
    · rfl
  function := by
    rintro i i' j (h | ⟨rfl, rfl⟩) (h' | ⟨rfl, e⟩)
    · exact N.function h h'
    · exact absurd (e ▸ (N.lt h).2) (Nat.lt_irrefl _)
    · exact absurd (N.lt h').2 (Nat.lt_irrefl _)
    · rfl

/-- The second one gets another call, which stands for the run. -/
def submit (N : Numbering run) : Numbering run where
  first := N.first
  second := N.second + 1
  Stands i j := N.Stands i j ∨ i = run ∧ j = N.second
  made := N.made
  lt := by
    rintro i j (h | ⟨rfl, rfl⟩)
    · exact ⟨(N.lt h).1, Nat.lt_succ_of_lt (N.lt h).2⟩
    · exact ⟨N.made, Nat.lt_succ_self _⟩
  single := by
    rintro i j j' hi (h | ⟨e, -⟩) (h' | ⟨e, -⟩)
    · exact N.single hi h h'
    · exact absurd e hi
    · exact absurd e hi
    · exact absurd e hi
  function := by
    rintro i i' j (h | ⟨rfl, rfl⟩) (h' | ⟨rfl, e⟩)
    · exact N.function h h'
    · exact absurd (e ▸ (N.lt h).2) (Nat.lt_irrefl _)
    · exact absurd (N.lt h').2 (Nat.lt_irrefl _)
    · rfl

/-- The calls that stand for one another still do. -/
def Grows (N M : Numbering run) : Prop :=
  ∀ i j, N.Stands i j → M.Stands i j

theorem grows_call (N : Numbering run) : N.Grows N.call :=
  fun _ _ => .inl

theorem grows_submit (N : Numbering run) : N.Grows N.submit :=
  fun _ _ => .inl

end Numbering

variable {run : Nat} {N M : Numbering run} {own : Option (Nat × Ask)}

/-! ## What is alike -/

/-- Two wishes for the same lookup. The run wishes for something else than the submit that stands
for it: `own` is the number of the submit, and the wish of the run. -/
structure Ask.Alike (N : Numbering run) (own : Option (Nat × Ask)) (a b : Ask) : Prop where
  stands : N.Stands a.call b.call
  selector : a.selector = b.selector
  domain : a.domain = b.domain
  other : a.call ≠ run → a.rest = b.rest
  mine : a.call = run → b.rest = none ∧ own = some (b.call, a)

structure Drain.Alike (N : Numbering run) (d e : Drain) : Prop where
  stands : N.Stands d.call e.call
  other : d.call ≠ run
  domain : d.domain = e.domain
  left : d.left = e.left

inductive Chore.Alike (N : Numbering run) : Chore α → Chore α → Prop where
  | same (c : Chore α) (h : c.post? = none) : Alike N c c
  | look {i j : Nat} (h : N.Stands i j) (other : i ≠ run) (domain : Option Text) :
      Alike N (.look i domain) (.look j domain)

inductive Event.Alike (N : Numbering run) : Event α → Event α → Prop where
  | same (e : Event α) (h : e.granted? = none) : Alike N e e
  | granted {i j : Nat} (h : N.Stands i j) (lookup : Nat) (target : Target) :
      Alike N (.granted lookup i target) (.granted lookup j target)

theorem Ask.Alike.grow {a b : Ask} (h : Ask.Alike N own a b) (g : N.Grows M) :
    Ask.Alike M own a b :=
  { h with stands := g _ _ h.stands }

/-- What the run may wish for is nothing to other calls. -/
theorem Ask.Alike.of_ne {a b : Ask} (h : Ask.Alike N own a b) (hi : a.call ≠ run)
    (own' : Option (Nat × Ask)) : Ask.Alike N own' a b :=
  { h with mine := fun e => absurd e hi }

/-- While the run has no wish, all wishes are of other calls. -/
theorem Ask.Alike.call_ne {a b : Ask} (h : Ask.Alike N none a b) : a.call ≠ run := by
  intro e
  cases (h.mine e).2

theorem Drain.Alike.grow {d e : Drain} (h : Drain.Alike N d e) (g : N.Grows M) :
    Drain.Alike M d e :=
  { h with stands := g _ _ h.stands }

theorem Chore.Alike.grow {c d : Chore α} (h : Chore.Alike N c d) (g : N.Grows M) :
    Chore.Alike M c d := by
  cases h with
  | same _ h => exact .same _ h
  | look h other domain => exact .look (g _ _ h) other domain

theorem Event.Alike.grow {e f : Event α} (h : Event.Alike N e f) (g : N.Grows M) :
    Event.Alike M e f := by
  cases h with
  | same _ h => exact .same _ h
  | granted h lookup target => exact .granted (g _ _ h) lookup target

def deeds (events : List (Event α)) : List (Event α) :=
  events.filter fun e => e.lookup?.isSome

theorem deeds_logs_append (entries : List Log.Entry) (es : List (Event α)) :
    deeds ((entries.map Event.logged).reverse ++ es) = deeds es := by
  have none : deeds (entries.map (Event.logged (α := α))).reverse = [] := by
    rw [deeds, List.filter_eq_nil_iff]
    intro e he
    obtain ⟨entry, -, rfl⟩ := List.mem_map.1 (List.mem_reverse.1 he)
    exact Bool.false_ne_true
  rw [deeds, List.filter_append]
  exact (congrArg (· ++ _) none).trans (List.nil_append _)

namespace Scheduler

/-- Two schedulers have the same slots, lookups in flight, waiting queries and counters, and their
transports and handlers are in the same states. -/
structure Agree (s t : Scheduler σ η α) : Prop where
  cap : s.cap = t.cap
  terms : s.terms = t.terms
  free : s.free = t.free
  handed : s.handed = t.handed
  tasks : s.tasks = t.tasks
  waiting : s.waiting = t.waiting
  submitted : s.submitted = t.submitted
  completed : s.completed = t.completed
  failed : s.failed = t.failed
  transport : s.transport = t.transport
  handler : s.handler = t.handler

/-- They are the same but for what was logged and the numbers of calls, and for how far the run has
come and the submits that stand for it. -/
structure Alike (N : Numbering run) (own : Option (Nat × Ask)) (s t : Scheduler σ η α) : Prop
    extends Agree s t where
  asks : List.Forall₂ (Ask.Alike N own) s.asks t.asks
  drains : List.Forall₂ (Drain.Alike N) s.drains t.drains
  chores : List.Forall₂ (Chore.Alike N) s.chores t.chores
  trace : List.Forall₂ (Event.Alike N) (deeds s.trace) (deeds t.trace)
  first : s.requests.length = N.first ∧ s.calls.length = N.first
  second : t.requests.length = N.second ∧ t.calls.length = N.second
  others : ∀ i j, i ≠ run → N.Stands i j →
    s.requests[i]? = t.requests[j]? ∧ s.calls[i]? = t.calls[j]?
  waits : ∀ j a, own = some (j, a) → N.Stands run j ∧ t.calls[j]? = some .waiting

variable {ports : Ports σ η α} {s t : Scheduler σ η α}

/-! ## Parts of a step -/

namespace Alike

theorem logAll (h : Alike N own s t) (entries entries' : List Log.Entry) :
    Alike N own (s.logAll entries) (t.logAll entries') where
  __ := h
  trace := by
    show List.Forall₂ _ (deeds (_ ++ s.trace)) (deeds (_ ++ t.trace))
    rw [deeds_logs_append, deeds_logs_append]
    exact h.trace

theorem record (h : Alike N own s t) {e f : Event α} (he : Event.Alike N e f) :
    Alike N own (s.record e) (t.record f) where
  __ := h
  trace := by
    show List.Forall₂ _ (deeds (e :: s.trace)) (deeds (f :: t.trace))
    unfold deeds at *
    cases he with
    | same e none =>
      rw [List.filter_cons, List.filter_cons]
      split
      · exact .cons (.same e none) h.trace
      · exact h.trace
    | granted hs lookup target => exact .cons (.granted hs lookup target) h.trace

theorem push (h : Alike N own s t) {c d : Chore α} (hc : Chore.Alike N c d) :
    Alike N own (s.push c) (t.push d) where
  __ := h
  chores := by
    rw [chores_push, chores_push]
    exact List.rel_append h.chores (.cons hc .nil)

theorem pop (h : Alike N own s t) {cs ds : Queue (Chore α)}
    (hc : List.Forall₂ (Chore.Alike N) cs.toList ds.toList) :
    Alike N own { s with ready := cs } { t with ready := ds } where
  __ := h
  chores := hc

theorem wake (h : Alike N own s t) : Alike N own s.wake t.wake := by
  have next : Alike N own { s with free := s.free - 1, handed := s.handed + 1 }
      { t with free := t.free - 1, handed := t.handed + 1 } :=
    { h with free := congrArg (· - 1) h.free, handed := congrArg (· + 1) h.handed }
  have both : s.handed < s.asks.length ↔ t.handed < t.asks.length := by
    rw [h.handed, h.asks.length_eq]
  unfold Scheduler.wake
  by_cases hs : s.handed < s.asks.length
  · rw [if_pos hs, if_pos (both.1 hs)]
    exact next.push (.same .enter rfl)
  · rw [if_neg hs, if_neg (mt both.2 hs)]
    exact h

theorem close (h : Alike N own s t) (l : Job) (error : Option String) :
    Alike N own (s.close l error) (t.close l error) := by
  have more : Alike N own { s with free := s.free + 1 } { t with free := t.free + 1 } :=
    { h with free := congrArg (· + 1) h.free }
  exact (more.record (.same (.released l.number) rfl)).wake.push (.same (.leave _ _) rfl)

theorem finish (h : Alike N own s t) (l : Job) (response : Option α) :
    Alike N own (s.finish ports l response) (t.finish ports l response) := by
  simp only [Scheduler.finish, h.handler, h.completed, h.failed]
  refine close (logAll (record ?_ (.same (.handled l.number response) rfl)) _ _) l _
  exact { h with completed := rfl, failed := rfl, handler := rfl }

theorem conclude (h : Alike N own s t) (l : Job) (left : Nat) (reply : Reply α)
    {again : Scheduler σ η α → Scheduler σ η α}
    (ha : ∀ s t, Alike N own s t → Alike N own (again s) (again t)) :
    Alike N own (s.conclude ports l left reply again) (t.conclude ports l left reply again) := by
  have replied := h.record (.same (.replied l.number reply) rfl)
  cases reply with
  | answer value => exact replied.finish l (some value)
  | failure => exact ha _ _ (replied.logAll _ _)
  | breakdown message => exact replied.close l (some message)

theorem pursue (h : Alike N own s t) (l : Job) (left : Nat) :
    Alike N own (s.pursue ports l left) (t.pursue ports l left) := by
  induction left generalizing s t with
  | zero => exact h.finish l none
  | succ left ih =>
    simp only [Scheduler.pursue, h.transport]
    generalize ports.ask t.transport l.name = asked
    have moved : Alike N own { s with transport := asked.state }
        { t with transport := asked.state } :=
      { h with transport := rfl }
    have told := (moved.record (.same (.asked l.number l.name) rfl)).logAll asked.notes asked.notes
    cases asked.reply with
    | none => exact { told with waiting := congrArg (· ++ _) h.waiting }
    | some reply => exact told.conclude l left reply fun _ _ => ih

theorem start (h : Alike N own s t) (l : Job) :
    Alike N own (s.start ports l) (t.start ports l) := by
  unfold Scheduler.start
  rw [h.terms]
  cases t.terms.read l.name with
  | wellFormed => exact h.pursue l l.attempts
  | malformed message => exact (h.logAll _ _).finish l none
  | breakdown message =>
    exact (h.record (.same (.unread l.number message) rfl)).close l (some message)

theorem resume (h : Alike N own s t) (l : Job) (reply : Reply α) :
    Alike N own (s.resume ports l reply) (t.resume ports l reply) :=
  h.conclude l l.attempts reply fun _ _ h => h.pursue l l.attempts

/-- Another call than the run comes further. -/
theorem setCall (h : Alike N own s t) {i j : Nat} (hi : i ≠ run) (hs : N.Stands i j) (c : Call) :
    Alike N own (s.setCall i c) (t.setCall j c) where
  __ := h
  first := ⟨h.first.1, List.length_set.trans h.first.2⟩
  second := ⟨h.second.1, List.length_set.trans h.second.2⟩
  others := by
    intro i' j' hi' hs'
    refine ⟨(h.others i' j' hi' hs').1, ?_⟩
    show (s.calls.set i c)[i']? = (t.calls.set j c)[j']?
    by_cases e : i = i'
    · obtain rfl := e
      obtain rfl := N.single hi hs hs'
      rw [List.getElem?_set_self (h.first.2 ▸ (N.lt hs).1),
        List.getElem?_set_self (h.second.2 ▸ (N.lt hs).2)]
    · have e' : j ≠ j' := by
        rintro rfl
        exact e (N.function hs' hs)
      rw [List.getElem?_set_ne e, List.getElem?_set_ne e']
      exact (h.others i' j' hi' hs').2
  waits := by
    intro j' a e
    obtain ⟨hs', hw⟩ := h.waits j' a e
    have ne : j ≠ j' := by
      rintro rfl
      exact hi (N.function hs' hs)
    exact ⟨hs', (List.getElem?_set_ne ne).trans hw⟩

theorem look (h : Alike N own s t) {i j : Nat} (hi : i ≠ run) (hs : N.Stands i j)
    (domain : Option Text) : Alike N own (s.look i domain) (t.look j domain) := by
  have flight : s.flight = t.flight := congrArg Queue.toList h.tasks
  unfold Scheduler.look
  by_cases he : s.tasks.isEmpty = true
  · rw [if_pos he, if_pos (h.tasks ▸ he)]
    exact (h.logAll _ _).setCall hi hs .done
  · rw [if_neg he, if_neg (h.tasks ▸ he)]
    refine setCall ?_ hi hs _
    exact { h with drains := List.rel_append h.drains (.cons ⟨hs, hi, rfl, flight⟩ .nil) }

theorem leave (h : Alike N own s t) (n : Nat) (error : Option String) :
    Alike N own (s.leave n error) (t.leave n error) := by
  refine logAll ?_ _ _
  have told : List.Forall₂ (Drain.Alike N)
      (s.drains.map fun d => { d with left := d.left.erase n })
      (t.drains.map fun d => { d with left := d.left.erase n }) := by
    refine List.rel_map ?_ h.drains
    intro d e hd
    exact { hd with left := congrArg (List.erase · n) hd.left }
  have part (p : Bool → Bool) : List.Forall₂ (Drain.Alike N)
      ((s.drains.map fun d => { d with left := d.left.erase n }).filter fun d => p d.left.isEmpty)
      ((t.drains.map fun d => { d with left := d.left.erase n }).filter
        fun d => p d.left.isEmpty) := by
    refine List.rel_filter ?_ told
    intro d e hd
    show p d.left.isEmpty = true ↔ p e.left.isEmpty = true
    rw [hd.left]
  refine { h with tasks := congrArg (Queue.erase n) h.tasks, drains := part not, chores := ?_ }
  show List.Forall₂ _ (s.ready.pushAll _).toList (t.ready.pushAll _).toList
  rw [Queue.toList_pushAll, Queue.toList_pushAll]
  refine List.rel_append h.chores (List.rel_map ?_ (part id))
  intro d e hd
  obtain ⟨call, domain, left⟩ := d
  obtain ⟨call', domain', left'⟩ := e
  obtain rfl : domain = domain' := hd.domain
  exact .look hd.stands hd.other domain

/-! ## Slots -/

theorem vacant (h : Alike N own s t) : s.vacant = t.vacant := by
  have none : s.asks.isEmpty = t.asks.isEmpty := by
    rw [Bool.eq_iff_iff, List.isEmpty_iff_length_eq_zero, List.isEmpty_iff_length_eq_zero,
      h.asks.length_eq]
  rw [Scheduler.vacant, Scheduler.vacant, h.free, none]

theorem take (h : Alike N own s t) : Alike N own s.take t.take :=
  { h with free := congrArg (· - 1) h.free }

theorem launch (h : Alike N own s t) {i j : Nat} (hs : N.Stands i j) (selector : Points)
    (domain : Text) : Alike N own (s.launch i selector domain) (t.launch j selector domain) := by
  simp only [Scheduler.launch, h.submitted, h.terms]
  refine push (record ?_ (.granted hs _ _)) (.same (.start _) rfl)
  exact { h with terms := rfl, tasks := congrArg (Queue.push _) h.tasks, submitted := rfl }

theorem enqueue (h : Alike N own s t) {a b : Ask} (ha : Ask.Alike N own a b) :
    Alike N own (s.enqueue a) (t.enqueue b) :=
  { h with asks := List.rel_append h.asks (.cons ha .nil) }

/-- Another run than the one goes on. -/
theorem pull (h : Alike N own s t) {i j : Nat} (hi : i ≠ run) (hs : N.Stands i j) (domain : Text)
    (fault : Option Fault) (items : List Item) :
    Alike N own (s.pull i domain fault items) (t.pull j domain fault items) := by
  induction items generalizing s t with
  | nil =>
    unfold Scheduler.pull
    cases fault with
    | some f => exact h.setCall hi hs (.failed f)
    | none => exact (h.logAll _ _).look hi hs (some domain)
  | cons item rest ih =>
    cases item with
    | note entry => exact ih (h.logAll [entry] [entry])
    | candidate selector =>
      rw [Scheduler.pull, Scheduler.pull, h.vacant]
      split
      · exact ih (h.take.launch hs selector domain)
      · exact h.enqueue ⟨hs, rfl, rfl, fun _ => rfl, fun e => absurd e hi⟩

/-- Another call than the run goes on with its slot. -/
theorem proceed (h : Alike N own s t) {a b : Ask} (hi : a.call ≠ run) (ha : Ask.Alike N own a b) :
    Alike N own (s.proceed a) (t.proceed b) := by
  obtain ⟨i, selector, domain, rest⟩ := a
  obtain ⟨j, selector', domain', rest'⟩ := b
  obtain rfl : selector = selector' := ha.selector
  obtain rfl : domain = domain' := ha.domain
  obtain rfl : rest = rest' := ha.other hi
  have launched := h.launch ha.stands selector domain
  cases rest with
  | none => exact launched.setCall hi ha.stands .done
  | some c => exact launched.pull hi ha.stands domain c.fault c.items

theorem accept (h : Alike N own s t) {as bs : List Ask} {own' : Option (Nat × Ask)}
    (ha : List.Forall₂ (Ask.Alike N own') as bs)
    (waits : ∀ j a, own' = some (j, a) → N.Stands run j ∧ t.calls[j]? = some .waiting) :
    Alike N own' (s.accept as) (t.accept bs) := by
  have taken : Alike N own' { s with asks := as, handed := s.handed - 1 }
      { t with asks := bs, handed := t.handed - 1 } :=
    { h with handed := congrArg (· - 1) h.handed, asks := ha, waits }
  simp only [Scheduler.accept]
  by_cases he : s.free = 0
  · rw [if_pos he, if_pos (h.free ▸ he)]
    exact taken
  · rw [if_neg he, if_neg (h.free ▸ he)]
    exact taken.wake

/-! ## Calls -/

/-- A call that is made stands for itself. -/
theorem call (h : Alike N own s t) (request : Request) : Alike N.call own
    { s with requests := s.requests ++ [request], calls := s.calls ++ [Call.waiting] }
    { t with requests := t.requests ++ [request], calls := t.calls ++ [Call.waiting] } where
  __ := h
  asks := h.asks.imp fun _ _ ha => ha.grow N.grows_call
  drains := h.drains.imp fun _ _ hd => hd.grow N.grows_call
  chores := h.chores.imp fun _ _ hc => hc.grow N.grows_call
  trace := h.trace.imp fun _ _ he => he.grow N.grows_call
  first := by simp [h.first, Numbering.call]
  second := by simp [h.second, Numbering.call]
  others := by
    rintro i j hi (hs | ⟨rfl, rfl⟩)
    · obtain ⟨li, lj⟩ := N.lt hs
      have others := h.others i j hi hs
      simpa [List.getElem?_append, h.first, h.second, li, lj] using others
    · simp [h.first, h.second]
  waits := by
    intro j a e
    obtain ⟨hs, hw⟩ := h.waits j a e
    exact ⟨.inl hs, (List.getElem?_append_left (List.getElem?_eq_some_iff.1 hw).1).trans hw⟩

/-- A call is made to both. -/
theorem receive (h : Alike N own s t) (request : Request) :
    Alike N.call own (s.receive request) (t.receive request) := by
  have made := h.call request
  have other : s.calls.length ≠ run := by
    rw [h.first.2]
    exact Nat.ne_of_gt N.made
  have stands : N.call.Stands s.calls.length t.calls.length := .inr ⟨h.first.2, h.second.2⟩
  cases request with
  | submit selector domain =>
    have ha : Ask.Alike N.call own ⟨s.calls.length, selector, domain, none⟩
        ⟨t.calls.length, selector, domain, none⟩ :=
      ⟨stands, rfl, rfl, fun _ => rfl, fun e => absurd e other⟩
    simp only [Scheduler.receive, seek]
    rw [made.vacant]
    split
    · exact made.take.proceed other ha
    · exact made.enqueue ha
  | run candidates domain => exact made.pull other stands ..
  | drain => exact made.look other stands none

end Alike

end Scheduler

end SelectorScan.Lookup
