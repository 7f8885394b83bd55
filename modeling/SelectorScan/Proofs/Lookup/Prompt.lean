import SelectorScan.Proofs.Lookup.Run

/-!
# Transports that reply at once

When no query waits, a lookup that has begun ends in the same turn. So a run on its own makes its
lookups in the order of its candidates, one after the other, whatever the number of slots: what the
transport and the handler have yet to see is always what is looked up from here on, and what they
will have seen in the end does not change from turn to turn (`Headed`).

    let last := ports.respondAll terms names transport
    (idle cap …).run ports c domain leaves the transport last.1 and the responses last.2
                                                                               (run_of_prompt)
-/

namespace SelectorScan.Lookup

open Candidate

variable {σ η α : Type} {read : Text → Reading}

/-! ## Responses one after the other -/

namespace Ports

/-- The transport replies to every query at once. -/
def Prompt (ports : Ports σ η α) : Prop :=
  ∀ transport name, (ports.ask transport name).reply ≠ none

/-- Looks a name up: the transport after it, and what the handler is to be given. -/
def respond (ports : Ports σ η α) (terms : Terms) (name : Text) (transport : σ) :
    σ × Option (Option α) :=
  match terms.read name with
  | .wellFormed => ports.query name terms.attempts transport
  | .malformed _ => (transport, some none)
  | .breakdown _ => (transport, none)

/-- Looks names up, one after the other: the transport after them, and what the handler is to be
given. -/
def respondAll (ports : Ports σ η α) (terms : Terms) : List Text → σ → σ × List (Option α)
  | [], transport => (transport, [])
  | name :: names, transport =>
    let one := ports.respond terms name transport
    let more := respondAll ports terms names one.1
    (more.1, one.2.toList ++ more.2)

/-- Names may be looked up in two goes. -/
theorem respondAll_append (ports : Ports σ η α) (terms : Terms) (front back : List Text)
    (transport : σ) :
    let first := ports.respondAll terms front transport
    let second := ports.respondAll terms back first.1
    ports.respondAll terms (front ++ back) transport = (second.1, first.2 ++ second.2) := by
  induction front generalizing transport with
  | nil => rfl
  | cons name front ih => simp only [List.cons_append, respondAll, ih, List.append_assoc]

def handleAll (ports : Ports σ η α) (handler : η) (responses : List (Option α)) : η :=
  responses.foldl (fun h r => (ports.handle h r).state) handler

end Ports

/-! ## One lookup -/

namespace Scheduler

variable {ports : Ports σ η α} {s t : Scheduler σ η α} {l : Job}

theorem responses_eq (s : Scheduler σ η α) :
    s.responses = ((handled s.trace).map Prod.snd).reverse := by
  rw [responses, history, List.filterMap_reverse, handled, List.map_filterMap]
  congr 2
  funext e
  cases e <;> rfl

theorem responses_append (es : List (Event α)) (h : t.trace = es ++ s.trace) :
    t.responses = s.responses ++ ((handled es).map Prod.snd).reverse := by
  rw [responses_eq, responses_eq, h, ← List.reverse_append, ← List.map_append]
  congr 2
  exact List.filterMap_append

@[simp] theorem responses_logAll (entries : List Log.Entry) (s : Scheduler σ η α) :
    (s.logAll entries).responses = s.responses := by
  rw [responses_append (s := s) (entries.map Event.logged).reverse rfl, handled_logs]
  exact List.append_nil _

/-- What a lookup of a prompt transport has come to after a turn: no query waits. -/
structure Answered (last : σ × Option (Option α)) (s t : Scheduler σ η α) : Prop where
  transport : t.transport = last.1
  responses : t.responses = s.responses ++ last.2.toList
  waiting : t.waiting = s.waiting

/-- Log entries before a turn are not about lookups. -/
theorem Answered.afterLogs {last : σ × Option (Option α)} (entries : List Log.Entry)
    (h : Answered last (s.logAll entries) t) : Answered last s t :=
  ⟨h.transport, responses_logAll entries s ▸ h.responses, h.waiting⟩

/-- What happened before may be put in front, if the handler had no part in it. -/
theorem Answered.afterEvent {last : σ × Option (Option α)} {e : Event α} (he : e.handled? = none)
    (h : Answered last (s.record e) t) : Answered last s t := by
  have responses : (s.record e).responses = s.responses ++ ((handled [e]).map Prod.snd).reverse :=
    responses_append [e] rfl
  have none : handled [e] = [] := List.filterMap_cons_none he
  rw [none, List.map_nil, List.reverse_nil, List.append_nil] at responses
  exact ⟨h.transport, responses ▸ h.responses, h.waiting⟩

theorem answered_close (l : Job) (error : Option String) (s : Scheduler σ η α) :
    Answered (s.transport, none) s (s.close l error) := by
  obtain ⟨free, handed, ready, e⟩ := exists_close l error s
  rw [e]
  exact ⟨rfl, responses_append [.released l.number] rfl, rfl⟩

theorem answered_finish (l : Job) (response : Option α) (s : Scheduler σ η α) :
    Answered (s.transport, some response) s (s.finish ports l response) := by
  have closed := answered_close l (ports.handle s.handler response).error
    (({ s with
      completed := if response.isSome then s.completed + 1 else s.completed
      failed := if response.isSome then s.failed else s.failed + 1
      handler := (ports.handle s.handler response).state }.record
        (.handled l.number response)).logAll (ports.handle s.handler response).notes)
  refine ⟨closed.transport, ?_, closed.waiting⟩
  have given : ∀ t : Scheduler σ η α,
      (t.record (.handled l.number response)).responses = t.responses ++ [response] :=
    fun t => responses_append [.handled l.number response] rfl
  rw [finish, closed.responses, responses_logAll, given]
  exact List.append_nil _

theorem answered_conclude {left : Nat} {again : Scheduler σ η α → Scheduler σ η α}
    (h : ∀ s, Answered (ports.query l.name left s.transport) s (again s)) (reply : Reply α)
    (s : Scheduler σ η α) :
    Answered
      (match reply with
        | .answer value => (s.transport, some (some value))
        | .failure => ports.query l.name left s.transport
        | .breakdown _ => (s.transport, none)) s (s.conclude ports l left reply again) := by
  unfold conclude
  apply Answered.afterEvent (e := .replied l.number reply) rfl
  cases reply with
  | answer value => exact answered_finish l (some value) (s.record _)
  | failure =>
    exact .afterLogs _ (h ((s.record _).log .debug (failureMessage l.name left)))
  | breakdown message => exact answered_close l (some message) (s.record _)

theorem answered_pursue (prompt : ports.Prompt) (l : Job) (left : Nat) (s : Scheduler σ η α) :
    Answered (ports.query l.name left s.transport) s (s.pursue ports l left) := by
  induction left generalizing s with
  | zero => exact answered_finish l none s
  | succ left ih =>
    obtain ⟨reply, hr⟩ := Option.ne_none_iff_exists'.1 (prompt s.transport l.name)
    let u := { s with transport := (ports.ask s.transport l.name).state }
    have concluded : Answered _ u _ :=
      .afterEvent (e := .asked l.number l.name) rfl
        (.afterLogs (ports.ask s.transport l.name).notes (answered_conclude ih reply _))
    simp only [pursue, Ports.query, hr]
    cases reply <;> exact ⟨concluded.transport, concluded.responses, concluded.waiting⟩

theorem answered_start (prompt : ports.Prompt) (l : Job) (s : Scheduler σ η α) :
    Answered (ports.respond ⟨l.attempts, s.terms.read⟩ l.name s.transport) s
      (s.start ports l) := by
  unfold start Ports.respond
  cases s.terms.read l.name with
  | wellFormed => exact answered_pursue prompt l l.attempts s
  | malformed message => exact .afterLogs _ (answered_finish l none (s.logAll _))
  | breakdown message =>
    exact .afterEvent (e := .unread l.number message) rfl (answered_close l _ (s.record _))

/-! ## What a run is headed for -/

/-- A run on its own has come so far that, once the targets it has yet to look up, those in `hand`
behind the others, have been looked up one after the other, the transport is `last.1` and the handler
has been given `last.2`. -/
structure Headed (ports : Ports σ η α) (request : Request) (last : σ × List (Option α))
    (hand : List Target) (s : Scheduler σ η α) : Prop where
  only : s.requests = [request]
  waiting : s.waiting = []
  alone : s.asks.length ≤ 1
  ahead : ∃ jobs : List Job, s.chores.filter Chore.holds = jobs.map Chore.start ∧
    (∀ l ∈ jobs, l.attempts = s.terms.attempts) ∧
    let more := ports.respondAll s.terms ((jobs.map Job.target ++
      s.asks.flatMap (fun a => a.post.targets) ++ hand).map Target.name) s.transport
    last = (more.1, s.responses ++ more.2)

variable {request : Request} {last : σ × List (Option α)} {hand : List Target}

/-- Chores that hold no slot come and go. -/
theorem Headed.same (h : Headed ports request last hand s) (requests : t.requests = s.requests)
    (waiting : t.waiting = s.waiting) (asks : t.asks = s.asks) (terms : t.terms = s.terms)
    (transport : t.transport = s.transport) (responses : t.responses = s.responses)
    (chores : t.chores.filter Chore.holds = s.chores.filter Chore.holds) :
    Headed ports request last hand t := by
  refine ⟨requests.trans h.only, waiting.trans h.waiting, asks ▸ h.alone, ?_⟩
  rw [chores, asks, terms, transport, responses]
  exact h.ahead

theorem Headed.logAll (h : Headed ports request last hand s) (entries : List Log.Entry) :
    Headed ports request last hand (s.logAll entries) :=
  h.same rfl rfl rfl rfl rfl (responses_logAll entries s) rfl

/-- The first target in hand is looked up behind all lookups that are to start. -/
theorem Headed.launch {selector : Points} {domain : Text}
    (h : Headed ports request last (⟨selector, domain⟩ :: hand) s) (ha : s.asks = [])
    (call : Nat) :
    Headed ports request last hand (s.launch call selector domain) := by
  obtain ⟨jobs, chores, attempts, ahead⟩ := h.ahead
  have granted : (s.launch call selector domain).responses = s.responses :=
    (responses_append [.granted s.submitted call _] rfl).trans (List.append_nil _)
  let l : Job := ⟨s.submitted, ⟨selector, domain⟩, s.terms.attempts⟩
  refine ⟨h.only, h.waiting, h.alone, jobs ++ [l], ?_, ?_, ?_⟩
  · have all : (s.launch call selector domain).chores = s.chores ++ [.start l] := chores_push ..
    rw [all, List.filter_append, chores, List.map_append]
    rfl
  · intro l' hl
    rcases List.mem_append.1 hl with hl | hl
    · exact attempts l' hl
    · obtain rfl := List.mem_singleton.1 hl
      rfl
  · have order : (jobs ++ [l]).map Job.target ++ hand = jobs.map Job.target ++ l.target :: hand := by
      simp
    rw [granted, ahead, show (s.launch call selector domain).asks = [] from ha, ha]
    simp only [List.flatMap_nil, List.append_nil, order]
    rfl

theorem Headed.enqueue {ask : Ask} (h : Headed ports request last ask.post.targets s)
    (ha : s.asks = []) :
    Headed ports request last [] (s.enqueue ask) := by
  obtain ⟨jobs, chores, attempts, ahead⟩ := h.ahead
  have asks : (s.enqueue ask).asks = [ask] := by
    rw [Scheduler.enqueue, ha]
    rfl
  refine ⟨h.only, h.waiting, ?_, jobs, chores, attempts, ?_⟩
  · rw [asks]
    exact Nat.le_refl 1
  · rw [ahead, ha, asks]
    simp only [List.flatMap_nil, List.append_nil, List.flatMap_singleton]
    rfl

theorem Headed.look (h : Headed ports request last [] s) (call : Nat) (domain : Option Text) :
    Headed ports request last [] (s.look call domain) := by
  unfold Scheduler.look
  split
  · exact (h.logAll _).same rfl rfl rfl rfl rfl rfl rfl
  · exact h.same rfl rfl rfl rfl rfl rfl rfl

theorem Headed.pull {call : Nat} {domain : Text} {fault : Option Fault} {items : List Item}
    (h : Headed ports request last (targets domain (items.filterMap Item.selector?)) s)
    (ha : s.asks = []) : Headed ports request last [] (s.pull call domain fault items) := by
  refine pull_induct (P := fun items s => s.asks = [] ∧ Headed ports request last
    (targets domain (items.filterMap Item.selector?)) s)
    ?_ ?_ ?_ ?_ ?_ items s ⟨ha, h⟩
  · rintro s entry rest ⟨ha, h⟩
    exact ⟨ha, h.logAll _⟩
  · rintro s selector rest _ ⟨ha, h⟩
    have taken : Headed ports request last _ s.take := h.same rfl rfl rfl rfl rfl rfl rfl
    exact ⟨ha, taken.launch ha call⟩
  · rintro s selector rest _ ⟨ha, h⟩
    exact Headed.enqueue h ha
  · rintro s fault _ ⟨-, h⟩
    exact h.same rfl rfl rfl rfl rfl rfl rfl
  · rintro s entry _ ⟨-, h⟩
    exact (h.logAll _).look call _

/-- A call that has been given its slot goes on. -/
theorem Headed.proceed {ask : Ask} (h : Headed ports request last ask.post.targets s)
    (ha : s.asks = []) : Headed ports request last [] (s.proceed ask) := by
  obtain ⟨call, selector, domain, rest⟩ := ask
  cases rest with
  | none => exact (h.launch ha call).same rfl rfl rfl rfl rfl rfl rfl
  | some c => exact (h.launch ha call).pull ha

/-! ## Turns -/

theorem filter_holds_eq (s : Scheduler σ η α) :
    s.chores.filter Chore.holds = s.chores.filterMap (Option.guard Chore.holds) := by
  rw [List.filterMap_eq_filter]

/-- The first lookup that is to start is made. -/
theorem Headed.start (prompt : ports.Prompt) {rest : Queue (Chore α)}
    (h : Headed ports request last [] s) (hc : s.chores = .start l :: rest.toList) :
    Headed ports request last [] ({ s with ready := rest }.start ports l) := by
  obtain ⟨jobs, chores, attempts, ahead⟩ := h.ahead
  have answered := answered_start prompt l { s with ready := rest }
  have carried : Carried ports s.terms l _ _ _ := carried_start l { s with ready := rest }
  have frame := carried.frame
  rw [hc, List.filter_cons_of_pos rfl] at chores
  cases jobs with
  | nil => cases chores
  | cons l' jobs =>
    obtain ⟨first, others⟩ := List.cons.inj chores
    cases first
    refine ⟨frame.requests.trans h.only, answered.waiting.trans h.waiting, ?_, jobs, ?_, ?_, ?_⟩
    · rw [frame.asks]
      exact h.alone
    · rw [filter_holds_eq, carried.filterMap_chores rfl fun _ _ => rfl, List.filterMap_eq_filter]
      exact others
    · intro l' hl
      rw [frame.terms]
      exact attempts l' (List.mem_cons_of_mem _ hl)
    · have terms : (⟨l.attempts, s.terms.read⟩ : Terms) = s.terms := by
        rw [attempts l List.mem_cons_self]
      rw [show ({ s with ready := rest } : Scheduler σ η α).terms = s.terms from rfl, terms]
        at answered
      rw [ahead, frame.terms, frame.asks, answered.transport, answered.responses]
      simp only [List.map_cons, List.cons_append, Ports.respondAll, List.append_assoc]
      rfl

theorem Headed.pop {c : Chore α} {rest : Queue (Chore α)} (h : Headed ports request last hand s)
    (hc : s.chores = c :: rest.toList) (free : c.holds = false) :
    Headed ports request last hand { s with ready := rest } := by
  refine h.same rfl rfl rfl rfl rfl rfl ?_
  rw [hc, List.filter_cons_of_neg (by simp [free])]
  rfl

theorem Headed.leave (h : Headed ports request last hand s) (n : Nat) (error : Option String) :
    Headed ports request last hand (s.leave n error) := by
  refine h.same rfl rfl rfl rfl rfl (responses_logAll _ _) ?_
  rw [filter_holds_eq, filter_holds_eq, filterMap_leave fun _ _ => rfl]

theorem Headed.enter (h : Headed ports request last [] s) :
    Headed ports request last [] s.enter := by
  unfold Scheduler.enter
  split
  · exact h
  · next ask asks ha =>
    -- no other call waits, so none is woken
    have none : asks = [] := by
      have := h.alone
      rw [ha] at this
      exact List.length_eq_zero_iff.1 (Nat.le_zero.1 (Nat.le_of_succ_le_succ this))
    subst none
    have accepted : s.accept [] = { s with asks := [], handed := s.handed - 1 } := by
      simp [Scheduler.accept, Scheduler.wake]
    have ready : Headed ports request last ask.post.targets
        { s with asks := [], handed := s.handed - 1 } := by
      obtain ⟨jobs, chores, attempts, ahead⟩ := h.ahead
      refine ⟨h.only, h.waiting, Nat.zero_le _, jobs, chores, attempts, ?_⟩
      rw [ahead, ha]
      simp only [List.flatMap_singleton, List.flatMap_nil, List.append_nil]
      rfl
    rw [accepted]
    exact ready.proceed rfl

theorem Headed.turn (prompt : ports.Prompt) (h : Headed ports request last [] s)
    (ht : s.turn? ports = some t) : Headed ports request last [] t := by
  obtain ⟨c, rest, hc, rfl⟩ := exists_perform_of_turn? ht
  cases c with
  | start l => exact h.start prompt hc
  | resume l reply =>
    -- no query waits, so none has been replied to
    obtain ⟨jobs, chores, -⟩ := h.ahead
    rw [hc, List.filter_cons_of_pos rfl] at chores
    cases jobs <;> cases chores
  | enter => exact (h.pop hc rfl).enter
  | leave n error => exact (h.pop hc rfl).leave n error
  | look call domain => exact (h.pop hc rfl).look call domain

theorem Headed.turns (prompt : ports.Prompt) (h : Headed ports request last [] s)
    (ht : Turns ports s t) : Headed ports request last [] t := by
  induction ht with
  | refl => exact h
  | tail _ ht ih => exact ih.turn prompt ht

/-! ## Runs -/

/-- A handler has taken the responses that it was given. -/
theorem Tally.handler_eq {transport : σ} {handler : η} (h : Tally ports transport handler s) :
    s.handler = ports.handleAll handler s.responses := by
  rw [h.handler, responses_eq, Ports.handleAll, List.foldl_reverse, List.foldr_map]

/-- A run on its own with a prompt transport looks its candidates up one after the other, in order,
and ends with the fault of its candidates if they have one. -/
theorem run_of_prompt (prompt : ports.Prompt) {cap : Nat} (hcap : 1 ≤ cap) (retries : Int)
    (transport : σ) (handler : η) (c : Candidates) (domain : Text) :
    let wanted := targets domain c.selectors
    let last := ports.respondAll ⟨retries.toNat + 1, read⟩ (wanted.map Target.name) transport
    let s := (idle cap retries transport handler read).run ports c domain
    s.transport = last.1 ∧ s.responses = last.2 ∧ s.handler = ports.handleAll handler last.2 ∧
      s.calls = [Call.ofFault c.fault] ∧
      ((granted s.trace).map fun g => g.2.2).reverse = wanted := by
  intro wanted last s
  have begun : Reachable ports (idle cap retries transport handler read) _ := .refl
  obtain ⟨reached, rest⟩ : Reachable ports (idle cap retries transport handler read) s ∧ s.AtRest :=
    begun.receive_toRest (.run c domain)
  have first : Headed ports (.run c domain) last []
      ((idle cap retries transport handler read).receive (.run c domain)) :=
    Headed.pull ⟨rfl, rfl, Nat.zero_le 1, [], rfl, nofun, rfl⟩ rfl
  have headed : Headed ports (.run c domain) last [] s := first.turns prompt (turns_toRest _).1
  have flight : s.flight = [] := by
    have := reached.underway.flight_perm rest
    rw [headed.waiting] at this
    exact this.eq_nil
  obtain ⟨calls, granted⟩ := reached.end_of_only hcap rest flight headed.only
  have asks : s.asks = [] :=
    asks_eq_nil_of_flight reached.underway reached.settled (by rwa [reached.cap_eq]) flight
  obtain ⟨jobs, chores, -, ahead⟩ := headed.ahead
  have none : jobs = [] := by
    rw [rest] at chores
    exact List.map_eq_nil_iff.1 chores.symm
  rw [none, asks] at ahead
  have responses : s.responses = last.2 := by
    rw [ahead]
    exact (List.append_nil _).symm
  refine ⟨?_, responses, ?_, calls, granted⟩
  · rw [ahead]
    rfl
  · rw [reached.stories.2.handler_eq, responses]

end Scheduler

end SelectorScan.Lookup
