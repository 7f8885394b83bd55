import SelectorScan.Proofs.Lookup.Alike
import SelectorScan.Proofs.Lookup.Completion
import SelectorScan.Proofs.Lookup.Line
import SelectorScan.Proofs.Lookup.Retries

/-!
# Submitting one after another

A client submits selectors one after another, each as soon as the submit before has returned. A run
of a stream that fails does the same to a scheduler: at every moment of every script (`Act`) the
scheduler of the run and that of the client are alike (`InStep`), whatever other calls are made and
in whatever order queries are answered or fail.

    InStep domain fault N own s c →
      ∃ M own', InStep domain fault M own' (s.act ports a) (c.act ports domain a)    (InStep.act)
-/

namespace SelectorScan.Lookup

open Candidate

variable {σ η α : Type} {read : Text → Reading}

/-! ## Scripts -/

/-- One thing that may happen to a scheduler. -/
inductive Act (α : Type) where
  | turn
  | call (request : Request)
  /-- The query that waits in this place is replied to. -/
  | reply (place : Nat) (reply : Reply α)
deriving DecidableEq, Repr

namespace Scheduler

/-- Lets a thing happen; nothing happens if there is no turn to take or no such query. -/
def act (ports : Ports σ η α) (a : Act α) (s : Scheduler σ η α) : Scheduler σ η α :=
  match a with
  | .turn => (s.turn? ports).getD s
  | .call request => s.receive request
  | .reply place reply =>
    match s.waiting[place]? with
    | none => s
    | some l => { s with waiting := s.waiting.eraseIdx place }.push (.resume l reply)

/-- Lets things happen, one after the other. -/
def play (ports : Ports σ η α) (acts : List (Act α)) (s : Scheduler σ η α) : Scheduler σ η α :=
  acts.foldl (fun s a => s.act ports a) s

variable {ports : Ports σ η α} {s t : Scheduler σ η α}

theorem Reachable.act {s₀ : Scheduler σ η α} (h : Reachable ports s₀ s) (a : Act α) :
    Reachable ports s₀ (s.act ports a) := by
  cases a with
  | turn =>
    unfold Scheduler.act
    cases ht : s.turn? ports with
    | none => exact h
    | some t => exact h.turn ht
  | call request => exact h.call request
  | reply place reply =>
    simp only [Scheduler.act]
    cases hl : s.waiting[place]? with
    | none => exact h
    | some l =>
      obtain ⟨lt, rfl⟩ := List.getElem?_eq_some_iff.1 hl
      rw [List.eraseIdx_eq_take_drop_succ]
      refine h.tail (.reply reply ?_)
      rw [← List.drop_eq_getElem_cons lt, List.take_append_drop]

theorem Reachable.play {s₀ : Scheduler σ η α} (h : Reachable ports s₀ s) (acts : List (Act α)) :
    Reachable ports s₀ (s.play ports acts) := by
  induction acts generalizing s with
  | nil => exact h
  | cons a acts ih => exact ih (h.act a)

/-- Whatever a scheduler may become, a script makes of it. -/
theorem Reachable.exists_play (h : Reachable ports s t) : ∃ acts, s.play ports acts = t := by
  induction h with
  | refl => exact ⟨[], rfl⟩
  | @tail u v _ step ih =>
    obtain ⟨acts, rfl⟩ := ih
    have last (a : Act α) (h : (s.play ports acts).act ports a = v) :
        ∃ acts, s.play ports acts = v :=
      ⟨acts ++ [a], by rw [Scheduler.play, List.foldl_append, ← h]; rfl⟩
    cases step with
    | turn ht => exact last .turn (by rw [Scheduler.act, ht]; rfl)
    | call request => exact last (.call request) rfl
    | @reply front back l reply hw =>
      refine last (.reply front.length reply) ?_
      simp [Scheduler.act, hw, List.eraseIdx_append_of_length_le]

end Scheduler

/-! ## The client -/

/-- A client that submits selectors to a scheduler of which others make use, too. -/
structure Client (σ η α : Type) where
  scheduler : Scheduler σ η α
  /-- The selectors that it has not submitted yet. -/
  left : List Points
  /-- The numbers of its submits, the latest first. -/
  mine : List Nat
  /-- The numbers of the calls of others, in order. -/
  theirs : List Nat

namespace Client

/-- Whether its latest submit, if there is one, has returned. -/
def returned (c : Client σ η α) : Bool :=
  c.mine.head?.all fun j => c.scheduler.calls[j]? = some Call.done

def submit (domain : Text) (selector : Points) (c : Client σ η α) : Client σ η α :=
  { c with
    scheduler := c.scheduler.receive (.submit selector domain)
    mine := c.scheduler.calls.length :: c.mine }

/-- Submits selectors one after another, each as soon as the submit before has returned. -/
def submitAll (domain : Text) : List Points → Client σ η α → Client σ η α
  | [], c => { c with left := [] }
  | selector :: rest, c =>
    if c.returned then submitAll domain rest (c.submit domain selector)
    else { c with left := selector :: rest }

/-- Begins to submit selectors. -/
def start (domain : Text) (selectors : List Points) (s : Scheduler σ η α) : Client σ η α :=
  submitAll domain selectors ⟨s, [], [], List.range s.calls.length⟩

/-- Goes on as far as its submits return. -/
def goOn (domain : Text) (c : Client σ η α) : Client σ η α :=
  c.submitAll domain c.left

/-- Lets a thing happen to its scheduler and goes on. -/
def act (ports : Ports σ η α) (domain : Text) (a : Act α) (c : Client σ η α) : Client σ η α :=
  { c with
    scheduler := c.scheduler.act ports a
    theirs := match a with
      | .call _ => c.theirs ++ [c.scheduler.calls.length]
      | _ => c.theirs }.goOn domain

/-- Lets things happen, one after the other. -/
def play (ports : Ports σ η α) (domain : Text) (acts : List (Act α)) (c : Client σ η α) :
    Client σ η α :=
  acts.foldl (fun c a => c.act ports domain a) c

variable {ports : Ports σ η α} {s₀ : Scheduler σ η α} {domain : Text} {c : Client σ η α}

theorem reachable_submitAll (h : Scheduler.Reachable ports s₀ c.scheduler)
    (selectors : List Points) :
    Scheduler.Reachable ports s₀ (c.submitAll domain selectors).scheduler := by
  induction selectors generalizing c with
  | nil => exact h
  | cons selector rest ih =>
    unfold submitAll
    split
    · exact ih (h.call (.submit selector domain))
    · exact h

/-- The scheduler of a client moves by steps. -/
theorem reachable_play (h : Scheduler.Reachable ports s₀ c.scheduler) (acts : List (Act α)) :
    Scheduler.Reachable ports s₀ (c.play ports domain acts).scheduler := by
  induction acts generalizing c with
  | nil => exact h
  | cons a acts ih => exact ih (reachable_submitAll (h.act a) _)

/-- A client that waits for its latest submit submits nothing. -/
theorem submitAll_eq (h : c.returned = false) (selectors : List Points) :
    c.submitAll domain selectors = { c with left := selectors } := by
  cases selectors with
  | nil => rfl
  | cons selector rest =>
    rw [submitAll, h]
    rfl

end Client

/-! ## A run and a client in step -/

namespace Numbering

variable {run : Nat}

/-- The calls of others, in their order, stand for the calls of the first scheduler but the run. -/
def Fits (N : Numbering run) (theirs : List Nat) : Prop :=
  List.Forall₂ (fun i j => i ≠ run ∧ N.Stands i j) ((List.range N.first).eraseIdx run) theirs

theorem fits_start (run : Nat) : (start run).Fits (List.range run) := by
  have others : (List.range (run + 1)).eraseIdx run = List.range run := by
    rw [List.range_succ, List.eraseIdx_append_of_length_le (by simp), List.length_range,
      Nat.sub_self]
    exact List.append_nil _
  unfold Fits
  rw [show (start run).first = run + 1 from rfl, others, List.forall₂_same]
  intro i hi
  have lt := List.mem_range.1 hi
  exact ⟨Nat.ne_of_lt lt, rfl, lt⟩

theorem Fits.call {N : Numbering run} {theirs : List Nat} (h : N.Fits theirs) :
    N.call.Fits (theirs ++ [N.second]) := by
  have others : (List.range (N.first + 1)).eraseIdx run =
      (List.range N.first).eraseIdx run ++ [N.first] := by
    rw [List.range_succ, List.eraseIdx_append_of_lt_length (by simpa using N.made)]
  unfold Fits
  rw [show N.call.first = N.first + 1 from rfl, others]
  refine List.rel_append (h.imp fun i j hs => ⟨hs.1, .inl hs.2⟩) (.cons ⟨?_, .inr ⟨rfl, rfl⟩⟩ .nil)
  exact Nat.ne_of_gt N.made

theorem Fits.submit {N : Numbering run} {theirs : List Nat} (h : N.Fits theirs) :
    N.submit.Fits theirs :=
  h.imp fun _ _ hs => ⟨hs.1, .inl hs.2⟩

end Numbering

namespace Scheduler

variable {ports : Ports σ η α} {s t : Scheduler σ η α} {run : Nat} {N : Numbering run}
  {own : Option (Nat × Ask)} {domain : Text} {fault : Fault} {c : Client σ η α}

namespace Alike

/-- The run comes further. -/
theorem setRun (h : Alike N own s t) (c : Call) : Alike N own (s.setCall run c) t where
  __ := h
  first := ⟨h.first.1, List.length_set.trans h.first.2⟩
  others := by
    intro i j hi hs
    refine ⟨(h.others i j hi hs).1, ?_⟩
    exact (List.getElem?_set_ne (Ne.symm hi)).trans (h.others i j hi hs).2

/-- A submit that stands for the run comes further, while none has a wish. -/
theorem setSubmit (h : Alike N none s t) {j : Nat} (hs : N.Stands run j) (c : Call) :
    Alike N none s (t.setCall j c) where
  __ := h
  second := ⟨h.second.1, List.length_set.trans h.second.2⟩
  others := by
    intro i j' hi hs'
    refine ⟨(h.others i j' hi hs').1, (h.others i j' hi hs').2.trans ?_⟩
    refine (List.getElem?_set_ne ?_).symm
    rintro rfl
    exact hi (N.function hs hs')
  waits := by rintro j a ⟨⟩

/-- A submit is called that is to stand for the run. -/
theorem makeSubmit (h : Alike N none s t) (request : Request) : Alike N.submit none s
    { t with requests := t.requests ++ [request], calls := t.calls ++ [Call.waiting] } where
  __ := h
  asks := h.asks.imp fun _ _ ha => ha.grow N.grows_submit
  drains := h.drains.imp fun _ _ hd => hd.grow N.grows_submit
  chores := h.chores.imp fun _ _ hc => hc.grow N.grows_submit
  trace := h.trace.imp fun _ _ he => he.grow N.grows_submit
  second := by simp [h.second, Numbering.submit]
  others := by
    rintro i j hi (hs | ⟨e, -⟩)
    · have lj := (N.lt hs).2
      have others := h.others i j hi hs
      simpa [List.getElem?_append, h.second, lj] using others
    · exact absurd e hi
  waits := by rintro j a ⟨⟩

/-- The run waits for a slot, and so does the submit that stands for it. -/
theorem enqueueRun (h : Alike N none s t) {a : Ask} {j : Nat} (ha : a.call = run)
    (hs : N.Stands run j) (hw : t.calls[j]? = some .waiting) :
    Alike N (some (j, a)) (s.enqueue a) (t.enqueue ⟨j, a.selector, a.domain, none⟩) where
  __ := h
  asks := by
    refine List.rel_append (h.asks.imp fun _ _ hb => hb.of_ne hb.call_ne _) (.cons ?_ .nil)
    exact ⟨ha ▸ hs, rfl, rfl, fun hi => absurd ha hi, fun _ => ⟨rfl, rfl⟩⟩
  waits := by
    rintro j' a' e
    cases e
    exact ⟨hs, hw⟩

/-- When there is a slot, the run takes it, and so does a submit, which is done then. -/
theorem submit_granted (h : Alike N none s t) (hv : s.vacant = true) (selector : Points)
    (domain : Text) : Alike N.submit none (s.take.launch run selector domain)
        (t.receive (.submit selector domain)) ∧
      (t.receive (.submit selector domain)).calls[t.calls.length]? = some .done := by
  have made := h.makeSubmit (.submit selector domain)
  have stands : N.submit.Stands run t.calls.length := .inr ⟨rfl, h.second.2⟩
  simp only [Scheduler.receive, seek]
  rw [if_pos (made.vacant ▸ hv)]
  constructor
  · exact (made.take.launch stands selector domain).setSubmit stands .done
  · exact List.getElem?_set_self (show _ < (t.calls ++ [Call.waiting]).length by simp)

/-- When there is none, the run waits for one, and so does a submit. -/
theorem submit_waits (h : Alike N none s t) (hv : ¬s.vacant = true) {a : Ask} (ha : a.call = run) :
    Alike N.submit (some (t.calls.length, a)) (s.enqueue a)
      (t.receive (.submit a.selector a.domain)) := by
  have made := h.makeSubmit (.submit a.selector a.domain)
  simp only [Scheduler.receive, seek]
  rw [if_neg (made.vacant ▸ hv)]
  exact made.enqueueRun ha (.inr ⟨rfl, h.second.2⟩) List.getElem?_concat_length

end Alike

/-- A run whose stream fails and a client are in step: the schedulers are alike, and what the run
still has to ask for is left to the client. -/
structure InStep (domain : Text) (fault : Fault) (N : Numbering run) (own : Option (Nat × Ask))
    (s : Scheduler σ η α) (c : Client σ η α) : Prop where
  alike : Alike N own s c.scheduler
  fits : N.Fits c.theirs
  idle : own = none → c.left = []
  waits : ∀ j a, own = some (j, a) → c.mine.head? = some j ∧ a.domain = domain ∧
    ∃ items, a.rest = some ⟨items, some fault⟩ ∧ items.filterMap Item.selector? = c.left

/-- While the submit that stands for the run waits, the client does not go on. -/
theorem InStep.goOn_eq (h : InStep domain fault N own s c) : c.goOn domain = c := by
  cases own with
  | none => rw [Client.goOn, h.idle rfl, Client.submitAll, ← h.idle rfl]
  | some o =>
    obtain ⟨j, a⟩ := o
    apply Client.submitAll_eq
    rw [Client.returned, (h.waits j a rfl).1, Option.all_some, (h.alike.waits j a rfl).2]
    rfl

/-- What leaves the schedulers alike without the run leaves the run and the client in step. -/
theorem InStep.kept (h : InStep domain fault N own s c) {M : Numbering run}
    {s' t' : Scheduler σ η α} {theirs : List Nat} (alike : Alike M own s' t') (fits : M.Fits theirs) :
    InStep domain fault M own s' ({ c with scheduler := t', theirs }.goOn domain) := by
  have next : InStep domain fault M own s' { c with scheduler := t', theirs } :=
    ⟨alike, fits, h.idle, h.waits⟩
  rw [next.goOn_eq]
  exact next

/-- The run asks for slots as long as there are any, and so does the client whose latest submit has
returned; then both wait, or both are through with the stream. -/
theorem inStep_pull (h : Alike N none s c.scheduler) (fits : N.Fits c.theirs)
    (returned : c.returned = true) (items : List Item) :
    ∃ (M : Numbering run) (own : Option (Nat × Ask)),
      InStep domain fault M own (s.pull run domain (some fault) items)
        (c.submitAll domain (items.filterMap Item.selector?)) := by
  induction items generalizing N s c with
  | nil =>
    refine ⟨N, none, h.setRun (.failed fault), fits, fun _ => rfl, ?_⟩
    rintro j a ⟨⟩
  | cons item rest ih =>
    cases item with
    | note entry => exact ih (h.logAll [entry] []) fits returned
    | candidate selector =>
      show ∃ M own, InStep domain fault M own _
        (c.submitAll domain (selector :: rest.filterMap Item.selector?))
      rw [Client.submitAll, if_pos returned, Scheduler.pull]
      by_cases hv : s.vacant = true
      · rw [if_pos hv]
        obtain ⟨alike, done⟩ := h.submit_granted hv selector domain
        exact ih alike fits.submit (decide_eq_true done)
      · rw [if_neg hv]
        have alike := h.submit_waits (a := ⟨run, selector, domain, some ⟨rest, some fault⟩⟩) hv rfl
        rw [Client.submitAll_eq]
        · refine ⟨N.submit, _, alike, fits.submit, ?_, ?_⟩
          · rintro ⟨⟩
          · rintro j a ⟨⟩
            exact ⟨rfl, rfl, rest, rfl, rfl⟩
        · rw [Client.returned]
          simp [Client.submit, (alike.waits _ _ rfl).2]

/-- The next chore of both schedulers is alike. -/
theorem Alike.exists_turn? (ports : Ports σ η α) (h : Alike N own s t) {a : Chore α}
    {as : Queue (Chore α)} (ha : s.chores = a :: as.toList) :
    ∃ (b : Chore α) (bs : Queue (Chore α)),
      t.turn? ports = some ({ t with ready := bs }.perform ports b) ∧ Chore.Alike N a b ∧
        Alike N own { s with ready := as } { t with ready := bs } := by
  have chores := h.chores
  rw [ha] at chores
  cases hp : t.ready.pop? with
  | none =>
    rw [show t.chores = [] from Queue.pop?_eq_none_iff.1 hp] at chores
    cases chores
  | some next =>
    obtain ⟨b, bs⟩ := next
    rw [show t.chores = b :: bs.toList from Queue.toList_of_pop? hp] at chores
    obtain ⟨hab, rest⟩ := List.forall₂_cons.1 chores
    exact ⟨b, bs, by rw [turn?, hp]; rfl, hab, h.pop rest⟩

/-- A call goes on with its slot. When it is the run, the submit that stands for it returns and the
client goes on. -/
theorem InStep.enter (h : InStep domain fault N own s c) (nodup : (s.asks.map Ask.call).Nodup) :
    ∃ (M : Numbering run) (own' : Option (Nat × Ask)),
      InStep domain fault M own' s.enter ({ c with scheduler := c.scheduler.enter }.goOn domain) := by
  have asks := h.alike.asks
  cases hs : s.asks with
  | nil =>
    rw [hs] at asks
    have ht := List.forall₂_nil_left_iff.1 asks
    have e : s.enter = s := by rw [Scheduler.enter, hs]
    have e' : c.scheduler.enter = c.scheduler := by rw [Scheduler.enter, ht]
    rw [e, e']
    exact ⟨N, own, h.kept h.alike h.fits⟩
  | cons a as =>
    rw [hs] at asks
    rw [hs, List.map_cons, List.nodup_cons] at nodup
    obtain ⟨b, bs, hab, rest, ht⟩ := List.forall₂_cons_left_iff.1 asks
    have e : s.enter = (s.accept as).proceed a := by rw [Scheduler.enter, hs]
    have e' : c.scheduler.enter = (c.scheduler.accept bs).proceed b := by rw [Scheduler.enter, ht]
    rw [e, e']
    by_cases hi : a.call = run
    · obtain ⟨single, mine⟩ := hab.mine hi
      obtain ⟨latest, rfl, items, hr, left⟩ := h.waits _ _ mine
      -- the run stands in line only once
      have others : List.Forall₂ (Ask.Alike N none) as bs := by
        have ne : ∀ x ∈ as, x.call ≠ run := by
          rintro x hx rfl
          exact nodup.1 (List.mem_map.2 ⟨x, hx, hi.symm⟩)
        exact ((List.forall₂_and_left ..).2 ⟨ne, rest⟩).imp fun x y hxy => hxy.2.of_ne hxy.1 none
      have accepted := h.alike.accept others (by rintro j a ⟨⟩)
      have launched := accepted.launch hab.stands a.selector a.domain
      have stands : N.Stands run b.call := hi ▸ hab.stands
      have taken : (s.accept as).proceed a =
          ((s.accept as).launch a.call a.selector a.domain).pull run a.domain (some fault) items := by
        rw [proceed, hr, hi]
      have done : (c.scheduler.accept bs).proceed b =
          ((c.scheduler.accept bs).launch b.call a.selector a.domain).setCall b.call .done := by
        rw [proceed, single, hab.selector, hab.domain]
      rw [taken, done, Client.goOn, ← left]
      refine inStep_pull (c := ⟨_, _, c.mine, c.theirs⟩) (launched.setSubmit stands .done) h.fits
        ?_ items
      rw [Client.returned, latest, Option.all_some]
      refine decide_eq_true (List.getElem?_set_self ?_)
      rw [launched.second.2]
      exact (N.lt stands).2
    · exact ⟨N, own, h.kept ((h.alike.accept rest h.alike.waits).proceed hi hab) h.fits⟩

/-- Whatever happens to both leaves them in step. -/
theorem InStep.act (ports : Ports σ η α) (h : InStep domain fault N own s c)
    (roster : Roster [] s) (a : Act α) :
    ∃ (M : Numbering run) (own' : Option (Nat × Ask)),
      InStep domain fault M own' (s.act ports a) (c.act ports domain a) := by
  cases a with
  | call request =>
    refine ⟨N.call, own, ?_⟩
    unfold Client.act
    rw [h.alike.second.2]
    exact h.kept (h.alike.receive request) h.fits.call
  | reply place reply =>
    refine ⟨N, own, h.kept ?_ h.fits⟩
    simp only [Scheduler.act]
    rw [h.alike.waiting]
    cases c.scheduler.waiting[place]? with
    | none => exact h.alike
    | some l =>
      refine Alike.push ?_ (.same (.resume l reply) rfl)
      exact { h.alike with waiting := rfl }
  | turn =>
    unfold Client.act Scheduler.act
    cases ht : s.turn? ports with
    | none =>
      have chores := h.alike.chores
      rw [turn?_eq_none_iff.1 ht] at chores
      rw [turn?_eq_none_iff.2 (List.forall₂_nil_left_iff.1 chores)]
      exact ⟨N, own, h.kept h.alike h.fits⟩
    | some s' =>
      obtain ⟨x, xs, hx, rfl⟩ := exists_perform_of_turn? ht
      obtain ⟨y, ys, hy, hxy, popped⟩ := h.alike.exists_turn? ports hx
      rw [hy]
      cases hxy with
      | look hs hi domain => exact ⟨N, own, h.kept (popped.look hi hs domain) h.fits⟩
      | same x none =>
        cases x with
        | start l => exact ⟨N, own, h.kept (popped.start l) h.fits⟩
        | resume l reply => exact ⟨N, own, h.kept (popped.resume l reply) h.fits⟩
        | leave n error => exact ⟨N, own, h.kept (popped.leave n error) h.fits⟩
        | look call domain => cases none
        | enter =>
          have next : InStep domain fault N own { s with ready := xs }
              { c with scheduler := { c.scheduler with ready := ys } } :=
            ⟨popped, h.fits, h.idle, h.waits⟩
          exact next.enter roster.nodup_asks

/-- When the run has been called, it is the only difference. -/
theorem Roster.alike_start (h : Roster [] s) (request : Request) :
    Alike (Numbering.start s.calls.length) none
      { s with requests := s.requests ++ [request], calls := s.calls ++ [Call.waiting] } s := by
  have stands {i : Nat} (hi : i < s.calls.length) :
      (Numbering.start s.calls.length).Stands i i :=
    ⟨rfl, hi⟩
  have posted {p : Post} (hp : p ∈ s.posts) : p.call < s.calls.length :=
    (List.getElem?_eq_some_iff.1 (h.told p hp).state).1
  refine ⟨⟨rfl, rfl, rfl, rfl, rfl, rfl, rfl, rfl, rfl, rfl, rfl⟩, ?_, ?_, ?_, ?_, ?_, ?_, ?_,
    by rintro j a ⟨⟩⟩
  · refine List.forall₂_same.2 fun a ha => ?_
    have lt : a.call < s.calls.length :=
      posted (List.mem_append_left _ (List.mem_map_of_mem ha))
    exact ⟨stands lt, rfl, rfl, fun _ => rfl, fun e => absurd e (Nat.ne_of_lt lt)⟩
  · refine List.forall₂_same.2 fun d hd => ?_
    have lt : d.call < s.calls.length :=
      posted (List.mem_append_right _ (List.mem_append_left _ (List.mem_map.2 ⟨d, hd, rfl⟩)))
    exact ⟨stands lt, Nat.ne_of_lt lt, rfl, rfl⟩
  · refine List.forall₂_same.2 fun c hc => ?_
    cases c with
    | look call domain =>
      have lt : call < s.calls.length := posted (List.mem_append_right _
        (List.mem_append_right _ (List.mem_filterMap.2 ⟨.look call domain, hc, rfl⟩)))
      exact .look (stands lt) (Nat.ne_of_lt lt) domain
    | _ => exact .same _ rfl
  · refine List.forall₂_same.2 fun e he => ?_
    cases e with
    | granted lookup call target =>
      exact .granted (stands (h.callers _ (mem_granted.2 (List.mem_filter.1 he).1))) lookup target
    | _ => exact .same _ rfl
  · simp [Numbering.start, h.length]
  · exact ⟨h.length, rfl⟩
  · rintro i _ - ⟨rfl, hi⟩
    have hi' : i < s.requests.length := h.length ▸ hi
    simp [List.getElem?_append_left hi, List.getElem?_append_left hi']

/-- A run and a client that begin in the same state are in step at every moment of a script. -/
theorem inStep_play {cap : Nat} {retries : Int} {transport : σ} {handler : η}
    (h : Reachable ports (idle cap retries transport handler read) s) {candidates : Candidates}
    (failing : candidates.fault = some fault) (domain : Text) (acts : List (Act α)) :
    ∃ (N : Numbering s.calls.length) (own : Option (Nat × Ask)), InStep domain fault N own
      ((s.receive (.run candidates domain)).play ports acts)
      ((Client.start domain candidates.selectors s).play ports domain acts) := by
  have begun : ∃ (N : Numbering s.calls.length) (own : Option (Nat × Ask)),
      InStep domain fault N own (s.receive (.run candidates domain))
        (Client.start domain candidates.selectors s) := by
    have alike := h.roster.alike_start (.run candidates domain)
    simp only [Scheduler.receive, failing]
    exact inStep_pull (c := ⟨s, [], [], List.range s.calls.length⟩) alike
      (Numbering.fits_start _) rfl candidates.items
  have reached := h.call (.run candidates domain)
  revert begun reached
  generalize s.receive (.run candidates domain) = t
  generalize Client.start domain candidates.selectors s = c
  rintro ⟨N, own, inStep⟩ reached
  induction acts generalizing t c N own with
  | nil => exact ⟨N, own, inStep⟩
  | cons a acts ih =>
    obtain ⟨M, own', next⟩ := inStep.act ports reached.roster a
    exact ih _ _ M own' next (reached.act a)

end Scheduler

end SelectorScan.Lookup
