import SelectorScan.Proofs.Lookup.Course

/-!
# Slots are conserved

Every slot is free, handed to a call that has not gone on with it yet, or held by a lookup; a move
in the middle has one more in hand. `Slots` says so, and `Eager` that a slot stays free only if no
call waits for one or the next in line is already to go on. At rest nothing is handed over and no
lookup is about to start, so that the queries that wait are the lookups in flight.

    Reachable ports (idle cap …) s → Slots 0 0 s ∧ s.Eager                     (Reachable.settled)
-/

namespace SelectorScan.Lookup

open Candidate

variable {σ η α : Type} {read : Text → Reading}

/-! ## Queries that are out -/

def activeQueries (events : List (Event α)) : Nat :=
  events.countP Event.isAsked - events.countP Event.isReplied

/-- At no moment of a trace are more than `c` queries out. -/
def Within (c : Nat) (trace : List (Event α)) : Prop :=
  ∀ past, past <:+ trace → activeQueries past ≤ c

theorem within_cons {c : Nat} {e : Event α} {trace : List (Event α)} :
    Within c (e :: trace) ↔ activeQueries (e :: trace) ≤ c ∧ Within c trace := by
  unfold Within
  constructor
  · intro h
    constructor
    · exact h _ List.suffix_rfl
    · intro past hp
      exact h past (hp.trans (List.suffix_cons e trace))
  · rintro ⟨he, h⟩ past hp
    rcases List.suffix_cons_iff.1 hp with rfl | hp
    · exact he
    · exact h past hp

/-- While events are added, only their own moments are new. -/
theorem within_append {c : Nat} {es trace : List (Event α)} (h : Within c trace)
    (hes : ∀ es', es' <:+ es → activeQueries (es' ++ trace) ≤ c) : Within c (es ++ trace) := by
  induction es with
  | nil => exact h
  | cons e es ih =>
    rw [List.cons_append, within_cons]
    constructor
    · exact hes _ List.suffix_rfl
    · apply ih
      intro es' h'
      exact hes es' (h'.trans (List.suffix_cons e es))

theorem Stage.queries_le (a : Stage α) : a.queries ≤ 1 := by
  cases a <;> simp [Stage.queries]

theorem Course.tail {terms : Terms} {n : Nat} {a b : Stage α} {e : Event α} {es : List (Event α)}
    (h : Course terms n a (e :: es) b) : ∃ c, Course terms n a es c := by
  cases h <;> exact ⟨_, by assumption⟩

/-- A course has come to some stage at each of its moments. -/
theorem Course.suffix {terms : Terms} {n : Nat} {a b : Stage α} {es es' : List (Event α)}
    (h : Course terms n a es b) (h' : es' <:+ es) : ∃ c, Course terms n a es' c := by
  obtain ⟨front, rfl⟩ := h'
  induction front generalizing b with
  | nil => exact ⟨b, h⟩
  | cons e front ih =>
    obtain ⟨c, hc⟩ := h.tail
    exact ih hc

/-- While a lookup is carried on, it has one query out at the most: if `w` other ones are out and
one more is allowed, no more than that are out at any moment. -/
theorem Course.within {terms : Terms} {n w c : Nat} {a b : Stage α} {es trace : List (Event α)}
    (h : Course terms n a es b) (own : Own n es) (hw : Within c trace) (hc : w + 1 ≤ c)
    (out : trace.countP Event.isAsked = trace.countP Event.isReplied + w + a.queries) :
    Within c (es ++ trace) := by
  apply within_append hw
  intro es' hes
  obtain ⟨b', hb'⟩ := h.suffix hes
  have during := hb'.queries fun e he => own e (hes.subset he)
  have := b'.queries_le
  unfold activeQueries
  rw [List.countP_append, List.countP_append]
  omega

/-! ## The invariant -/

/-- Whether a chore is to start a lookup or to go on with one. -/
def Chore.holds : Chore α → Bool
  | .start _ => true
  | .resume _ _ => true
  | _ => false

def Chore.isResume : Chore α → Bool
  | .resume _ _ => true
  | _ => false

def Chore.isEnter : Chore α → Bool
  | .enter => true
  | _ => false

namespace Scheduler

def holding (s : Scheduler σ η α) : Nat :=
  s.chores.countP Chore.holds + s.waiting.length

/-- How many queries wait, or have a reply that their lookup has not gone on with. -/
def pending (s : Scheduler σ η α) : Nat :=
  s.chores.countP Chore.isResume + s.waiting.length

/-- The slots of a scheduler, `k` of them in hand, and its queries, `q` of them those of the lookup
in hand. -/
structure Slots (k q : Nat) (s : Scheduler σ η α) : Prop where
  balance : s.free + s.handed + s.holding + k = s.cap
  enters : s.chores.countP Chore.isEnter = s.handed
  handed_le : s.handed ≤ s.asks.length
  queries : s.trace.countP Event.isAsked = s.trace.countP Event.isReplied + s.pending + q
  within : Within s.cap s.trace

/-- A slot is free only if every call that waits has been handed one, or one that has been is yet to
go on, and will look for free slots. -/
def Eager (s : Scheduler σ η α) : Prop :=
  s.free = 0 ∨ s.asks.length ≤ s.handed ∨ 0 < s.handed

variable {k q : Nat} {s t : Scheduler σ η α}

theorem pending_le_holding (s : Scheduler σ η α) : s.pending ≤ s.holding := by
  apply Nat.add_le_add_right
  apply List.countP_mono_left
  intro c _ h
  cases c with
  | resume l reply => rfl
  | _ => cases h

theorem countP_chores_push (p : Chore α → Bool) (c : Chore α) (s : Scheduler σ η α) :
    (s.push c).chores.countP p = s.chores.countP p + (p c).toNat := by
  rw [chores_push, List.countP_append, List.countP_singleton]
  cases p c with
  | false => rfl
  | true => rfl

theorem holding_push (c : Chore α) (s : Scheduler σ η α) :
    (s.push c).holding = s.holding + c.holds.toNat := by
  rw [holding, countP_chores_push]
  show s.chores.countP Chore.holds + c.holds.toNat + s.waiting.length = s.holding + _
  unfold holding
  omega

theorem pending_push (c : Chore α) (s : Scheduler σ η α) :
    (s.push c).pending = s.pending + c.isResume.toNat := by
  rw [pending, countP_chores_push]
  show s.chores.countP Chore.isResume + c.isResume.toNat + s.waiting.length = s.pending + _
  unfold pending
  omega

theorem slots_idle (cap : Nat) (retries : Int) (transport : σ) (handler : η) :
    Slots 0 0 (idle cap retries transport handler read : Scheduler σ η α) where
  balance := rfl
  enters := rfl
  handed_le := Nat.le_refl 0
  queries := rfl
  within := by
    intro past hp
    obtain rfl := List.suffix_nil.1 hp
    exact Nat.zero_le _

/-! ## What keeps it -/

/-- Events about other things than queries. -/
theorem Slots.events (h : Slots k q s) (es : List (Event α))
    (hes : ∀ e ∈ es, e.isAsked = false ∧ e.isReplied = false) :
    Slots k q { s with trace := es ++ s.trace } := by
  have none : ∀ es' ⊆ es, es'.countP Event.isAsked = 0 ∧ es'.countP Event.isReplied = 0 := by
    intro es' sub
    constructor
    · rw [List.countP_eq_zero]
      intro e he
      simp [(hes e (sub he)).1]
    · rw [List.countP_eq_zero]
      intro e he
      simp [(hes e (sub he)).2]
  refine ⟨h.balance, h.enters, h.handed_le, ?_, within_append h.within ?_⟩
  · obtain ⟨ha, hr⟩ := none es (List.Subset.refl es)
    show (es ++ s.trace).countP _ = (es ++ s.trace).countP _ + s.pending + q
    rw [List.countP_append, List.countP_append, ha, hr, Nat.zero_add, Nat.zero_add]
    exact h.queries
  · intro es' hes'
    obtain ⟨ha, hr⟩ := none es' hes'.subset
    unfold activeQueries
    rw [List.countP_append, List.countP_append, ha, hr, Nat.zero_add, Nat.zero_add]
    exact h.within _ List.suffix_rfl

theorem Slots.record (h : Slots k q s) {e : Event α} (ha : e.isAsked = false)
    (hr : e.isReplied = false) : Slots k q (s.record e) := by
  apply h.events [e]
  intro e' he
  obtain rfl := List.mem_singleton.1 he
  exact ⟨ha, hr⟩

theorem Slots.logAll (h : Slots k q s) (entries : List Log.Entry) :
    Slots k q (s.logAll entries) := by
  apply h.events
  intro e he
  obtain ⟨entry, -, rfl⟩ := List.mem_map.1 (List.mem_reverse.1 he)
  exact ⟨rfl, rfl⟩

/-- Chores that neither hold a slot nor hand one over. -/
theorem Slots.chores (h : Slots k q s) (cs : List (Chore α))
    (hcs : ∀ c ∈ cs, c.holds = false ∧ c.isResume = false ∧ c.isEnter = false) :
    Slots k q { s with ready := s.ready.pushAll cs } := by
  have none {p : Chore α → Bool} (hp : ∀ c ∈ cs, p c = false) : cs.countP p = 0 := by
    rw [List.countP_eq_zero]
    intro c hc
    simp [hp c hc]
  have holds : cs.countP Chore.holds = 0 := none fun c hc => (hcs c hc).1
  have resumes : cs.countP Chore.isResume = 0 := none fun c hc => (hcs c hc).2.1
  have enters : cs.countP Chore.isEnter = 0 := none fun c hc => (hcs c hc).2.2
  have all : ({ s with ready := s.ready.pushAll cs } : Scheduler σ η α).chores = s.chores ++ cs :=
    Queue.toList_pushAll cs s.ready
  refine ⟨?_, ?_, h.handed_le, ?_, h.within⟩
  · simpa [holding, all, holds] using h.balance
  · simpa [all, enters] using h.enters
  · simpa [pending, all, resumes] using h.queries

theorem Slots.wake (h : Slots k q s) (hf : 0 < s.free) : Slots k q s.wake := by
  rcases s.wake_cases with ⟨hl, e⟩ | ⟨-, e⟩
  · rw [e]
    refine ⟨?_, ?_, hl, ?_, h.within⟩
    · have := h.balance
      rw [holding_push]
      show s.free - 1 + (s.handed + 1) + (s.holding + 0) + k = s.cap
      omega
    · rw [countP_chores_push]
      exact congrArg (· + 1) h.enters
    · rw [pending_push]
      exact h.queries
  · rwa [e]

theorem eager_wake (s : Scheduler σ η α) : s.wake.Eager := by
  rcases s.wake_cases with ⟨-, e⟩ | ⟨hl, e⟩
  · rw [e]
    exact .inr (.inr (Nat.succ_pos _))
  · rw [e]
    exact .inr (.inl hl)

/-- A lookup that is closed gives back the slot that is in hand. -/
theorem Slots.close (h : Slots (k + 1) q s) (l : Job) (error : Option String) :
    Slots k q (s.close l error) := by
  have free : Slots k q { s with free := s.free + 1 } := by
    refine ⟨?_, h.enters, h.handed_le, h.queries, h.within⟩
    have := h.balance
    show s.free + 1 + s.handed + s.holding + k = s.cap
    omega
  have := ((free.record (e := .released l.number) rfl rfl).wake (Nat.succ_pos _)).chores
    [.leave l.number error] (by simp [Chore.holds, Chore.isResume, Chore.isEnter])
  exact this

theorem eager_close (l : Job) (error : Option String) (s : Scheduler σ η α) :
    (s.close l error).Eager :=
  eager_wake _

variable {ports : Ports σ η α} {terms : Terms} {l : Job} {a : Stage α}

/-- Carrying on the lookup in hand leaves nothing in hand. -/
theorem Slots.carried (hc : Carried ports terms l a s t) (h : Slots 1 a.queries s)
    (he : s.Eager) : Slots 0 0 t ∧ t.Eager := by
  have room : s.pending + 1 ≤ s.cap := by
    have := h.balance
    have := s.pending_le_holding
    omega
  cases hc with
  | waits es left course own =>
    refine ⟨⟨?_, h.enters, h.handed_le, ?_, course.within own h.within room h.queries⟩, he⟩
    · have := h.balance
      simp only [holding, List.length_append, List.length_singleton] at this ⊢
      show s.free + s.handed + (s.chores.countP Chore.holds + (s.waiting.length + 1)) + 0 = s.cap
      omega
    · have before := h.queries
      have during := course.queries own
      simp only [pending, List.length_append, List.length_singleton, List.countP_append,
        Stage.queries] at before during ⊢
      show _ = _ + (s.chores.countP Chore.isResume + (s.waiting.length + 1)) + 0
      omega
  | ends es outcome error course own =>
    refine ⟨Slots.close ?_ l error, eager_close ..⟩
    refine ⟨h.balance, h.enters, h.handed_le, ?_, course.within own h.within room h.queries⟩
    have before := h.queries
    have during := course.queries own
    simp only [List.countP_append, Stage.queries] at before during ⊢
    show _ = _ + s.pending + 0
    omega

/-! ## Calls keep it -/

theorem Slots.take (h : Slots 0 q s) (hv : s.vacant = true) : Slots 1 q s.take ∧ s.take.Eager := by
  obtain ⟨hf, ha⟩ : s.free ≠ 0 ∧ s.asks = [] := by simpa [vacant] using hv
  refine ⟨⟨?_, h.enters, h.handed_le, h.queries, h.within⟩, .inr (.inl ?_)⟩
  · have := h.balance
    show s.free - 1 + s.handed + s.holding + 1 = s.cap
    omega
  · show s.asks.length ≤ s.handed
    simp [ha]

theorem Slots.launch (h : Slots (k + 1) q s) (call : Nat) (selector : Points) (domain : Text) :
    Slots k q (s.launch call selector domain) := by
  have h := h.record (e := .granted s.submitted call ⟨selector, domain⟩) rfl rfl
  unfold Scheduler.launch
  refine ⟨?_, ?_, h.handed_le, ?_, h.within⟩
  · have := h.balance
    rw [holding_push]
    show s.free + s.handed + (s.holding + 1) + k = s.cap
    change s.free + s.handed + s.holding + (k + 1) = s.cap at this
    omega
  · rw [countP_chores_push]
    exact h.enters
  · rw [pending_push]
    exact h.queries

theorem Slots.enqueue (h : Slots k q s) (ask : Ask) : Slots k q (s.enqueue ask) := by
  refine ⟨h.balance, h.enters, ?_, h.queries, h.within⟩
  have := h.handed_le
  simp only [Scheduler.enqueue, List.length_append]
  omega

/-- A call waits for a slot only if none is free, or one that came before it is yet to go on. -/
theorem Eager.enqueue (he : s.Eager) (hv : s.vacant = false) (ask : Ask) :
    (s.enqueue ask).Eager := by
  rcases he with he | he | he
  · exact .inl he
  · by_cases hf : s.free = 0
    · exact .inl hf
    · have : s.asks ≠ [] := by simpa [vacant, hf] using hv
      have := List.length_pos_iff.2 this
      have : 0 < s.handed := by omega
      exact .inr (.inr this)
  · exact .inr (.inr he)

/-- A chore that is taken up puts what it holds in hand. -/
theorem Slots.pop {c : Chore α} {rest : Queue (Chore α)} (h : Slots 0 0 s)
    (hc : s.chores = c :: rest.toList) (he : c.isEnter = false) :
    Slots c.holds.toNat c.isResume.toNat { s with ready := rest } := by
  have holding : s.holding = rest.toList.countP Chore.holds + c.holds.toNat + s.waiting.length := by
    rw [Scheduler.holding, hc, List.countP_cons]
    cases c.holds <;> rfl
  have pending :
      s.pending = rest.toList.countP Chore.isResume + c.isResume.toNat + s.waiting.length := by
    rw [Scheduler.pending, hc, List.countP_cons]
    cases c.isResume <;> rfl
  refine ⟨?_, ?_, h.handed_le, ?_, h.within⟩
  · have := h.balance
    show s.free + s.handed + (rest.toList.countP Chore.holds + s.waiting.length) + _ = s.cap
    omega
  · have := h.enters
    rwa [hc, List.countP_cons_of_neg (by simp [he])] at this
  · have := h.queries
    show s.trace.countP _ = s.trace.countP _ +
      (rest.toList.countP Chore.isResume + s.waiting.length) + _
    omega

/-- The slot that was handed over is in hand once its call goes on. -/
theorem Slots.accept {ask : Ask} {asks : List Ask} {rest : Queue (Chore α)} (h : Slots 0 0 s)
    (hc : s.chores = .enter :: rest.toList) (ha : s.asks = ask :: asks) :
    Slots 1 0 ({ s with ready := rest }.accept asks) ∧
      ({ s with ready := rest }.accept asks).Eager := by
  have entered : rest.toList.countP Chore.isEnter + 1 = s.handed := by
    rw [← h.enters, hc, List.countP_cons_of_pos rfl]
  have taken : Slots 1 0
      { s with ready := rest, asks := asks, handed := s.handed - 1 } := by
    refine ⟨?_, ?_, ?_, ?_, h.within⟩
    · have := h.balance
      rw [Scheduler.holding, hc, List.countP_cons_of_neg (by simp [Chore.holds])] at this
      show s.free + (s.handed - 1) + (rest.toList.countP Chore.holds + s.waiting.length) + 1 = s.cap
      omega
    · show rest.toList.countP Chore.isEnter = s.handed - 1
      omega
    · have := h.handed_le
      rw [ha, List.length_cons] at this
      show s.handed - 1 ≤ asks.length
      omega
    · have := h.queries
      rwa [Scheduler.pending, hc, List.countP_cons_of_neg (by simp [Chore.isResume])] at this
  simp only [Scheduler.accept]
  split
  · next hf => exact ⟨taken, .inl hf⟩
  · next hf => exact ⟨taken.wake (Nat.pos_of_ne_zero hf), eager_wake _⟩

/-- A query that is replied to is held by the chore to go on with its lookup. -/
theorem Slots.reply {front back : List Job} (h : Slots k q s) (reply : Reply α)
    (hw : s.waiting = front ++ l :: back) :
    Slots k q ({ s with waiting := front ++ back }.push (.resume l reply)) := by
  have one : s.waiting.length = (front ++ back).length + 1 := by
    rw [hw, List.length_append, List.length_append, List.length_cons]
    omega
  refine ⟨?_, ?_, h.handed_le, ?_, h.within⟩
  · have := h.balance
    rw [holding_push]
    show s.free + s.handed + (s.chores.countP Chore.holds + (front ++ back).length + 1) + k = s.cap
    unfold holding at this
    omega
  · rw [countP_chores_push]
    exact h.enters
  · have := h.queries
    rw [pending_push]
    show s.trace.countP _ = s.trace.countP _ +
      (s.chores.countP Chore.isResume + (front ++ back).length + 1) + q
    unfold pending at this
    omega

/-- A lookup that leaves has given its slot back before. -/
theorem Slots.leave (h : Slots k q s) (n : Nat) (error : Option String) :
    Slots k q (s.leave n error) := by
  have left : Slots k q { s with
      tasks := s.tasks.erase n
      drains := (tell (α := α) n s.drains).1 } :=
    ⟨h.balance, h.enters, h.handed_le, h.queries, h.within⟩
  have looks : ∀ c ∈ (tell (α := α) n s.drains).2,
      c.holds = false ∧ c.isResume = false ∧ c.isEnter = false := by
    intro c hc
    obtain ⟨d, -, rfl⟩ := List.mem_map.1 hc
    exact ⟨rfl, rfl, rfl⟩
  exact (left.chores _ looks).logAll _

/-! ## Moves keep it -/

/-- The slots of a scheduler that has none of them in hand. -/
def Settled (s : Scheduler σ η α) : Prop :=
  Slots 0 0 s ∧ s.Eager

theorem Settled.move (h : s.Settled) (hm : Move ports s t) : t.Settled := by
  obtain ⟨h, he⟩ := h
  cases hm with
  | log entries => exact ⟨h.logAll entries, he⟩
  | call request => exact ⟨⟨h.balance, h.enters, h.handed_le, h.queries, h.within⟩, he⟩
  | setCall call c => exact ⟨⟨h.balance, h.enters, h.handed_le, h.queries, h.within⟩, he⟩
  | admitted call selector domain hv => exact ⟨(h.take hv).1.launch .., (h.take hv).2⟩
  | wait ask hv => exact ⟨h.enqueue ask, he.enqueue hv ask⟩
  | drain call domain hf => exact ⟨⟨h.balance, h.enters, h.handed_le, h.queries, h.within⟩, he⟩
  | reply reply hw => exact ⟨h.reply reply hw, he⟩
  | start hc hs => exact Slots.carried hs (Job.queries_begun .. ▸ h.pop hc rfl) he
  | resume hc hr => exact Slots.carried hr (h.pop hc rfl) he
  | enter hc ha => exact ⟨(h.accept hc ha).1.launch .., (h.accept hc ha).2⟩
  | pass hc ha =>
    -- a slot is handed over only to a call that waits
    have := h.handed_le
    rw [← h.enters, hc, ha, List.countP_cons_of_pos rfl, List.length_nil] at this
    omega
  | leave hc => exact ⟨(h.pop hc rfl).leave .., he⟩
  | look hc => exact ⟨h.pop hc rfl, he⟩

/-- In every reachable state the slots are accounted for. -/
theorem Reachable.settled {cap : Nat} {retries : Int} {transport : σ} {handler : η}
    (h : Reachable ports (idle cap retries transport handler read) s) : s.Settled := by
  apply h.kept
  · exact ⟨slots_idle cap retries transport handler, .inr (.inl (Nat.le_refl 0))⟩
  · intro s t h hm
    exact h.move hm

end Scheduler

end SelectorScan.Lookup
