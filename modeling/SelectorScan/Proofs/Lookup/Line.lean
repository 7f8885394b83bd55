import Mathlib.Data.List.Nodup
import SelectorScan.Proofs.Lookup.Attempts
import SelectorScan.Proofs.Lookup.Calls

/-!
# Standing in line

Calls are given slots in the order in which they ask for them. A submit asks once, when it is
called; a run asks for its first candidate when it is called and for the next one as soon as it has
the slot for the one before. `Wished` keeps the wishes of a scheduler in the order in which they
arise; the first of them are those that were granted, and the others stand in line:

    s.grants ++ s.asks.map Ask.wish = wishes                                       (Wished.line)

Lookups start in the order of their grants (`Begun`), so this is the order of first queries too.
-/

namespace SelectorScan.Lookup

open Candidate

variable {σ η α : Type} {read : Text → Reading}

/-! ## Wishes -/

/-- A wish for a slot: the call that has it, and what the lookup is for. -/
structure Wish where
  call : Nat
  target : Target
deriving DecidableEq, Repr

/-- The wish of a call that waits for a slot. -/
def Ask.wish (a : Ask) : Wish :=
  ⟨a.call, a.selector, a.domain⟩

namespace Scheduler

/-- What a run asks for that goes on with some items: a slot for its next candidate, and as long as
there is one at once, a slot for the candidate after it. -/
def pullWishes (call : Nat) (domain : Text) : List Item → Scheduler σ η α → List Wish
  | [], _ => []
  | .note entry :: rest, s => pullWishes call domain rest (s.logAll [entry])
  | .candidate selector :: rest, s =>
    ⟨call, selector, domain⟩ ::
      if s.vacant then pullWishes call domain rest (s.take.launch call selector domain) else []

/-- What a call asks for that goes on with the slot it was handed. -/
def enterWishes (s : Scheduler σ η α) : List Wish :=
  match s.asks with
  | [] => []
  | ask :: asks =>
    match ask.rest with
    | none => []
    | some c => pullWishes ask.call ask.domain c.items
        ((s.accept asks).launch ask.call ask.selector ask.domain)

/-- What a turn makes a call ask for. -/
def turnWishes (s : Scheduler σ η α) : List Wish :=
  match s.ready.pop? with
  | some (.enter, rest) => enterWishes { s with ready := rest }
  | _ => []

def requestWishes (s : Scheduler σ η α) : Request → List Wish
  | .submit selector domain => [⟨s.calls.length, selector, domain⟩]
  | .run c domain => pullWishes s.calls.length domain c.items
      { s with requests := s.requests ++ [.run c domain], calls := s.calls ++ [Call.waiting] }
  | .drain => []

/-- The second scheduler is what the first one may become, and these are the wishes for slots that
arise meanwhile, in order. -/
inductive Wished (ports : Ports σ η α) (s₀ : Scheduler σ η α) :
    List Wish → Scheduler σ η α → Prop where
  | none : Wished ports s₀ [] s₀
  | turn {wishes : List Wish} {s t : Scheduler σ η α} (h : Wished ports s₀ wishes s)
      (ht : s.turn? ports = some t) : Wished ports s₀ (wishes ++ s.turnWishes) t
  | call {wishes : List Wish} {s : Scheduler σ η α} (h : Wished ports s₀ wishes s)
      (request : Request) :
      Wished ports s₀ (wishes ++ s.requestWishes request) (s.receive request)
  | reply {wishes : List Wish} {s : Scheduler σ η α} {front back : List Job} {l : Job}
      (h : Wished ports s₀ wishes s) (reply : Reply α) (hw : s.waiting = front ++ l :: back) :
      Wished ports s₀ wishes ({ s with waiting := front ++ back }.push (.resume l reply))

variable {ports : Ports σ η α} {s₀ s t : Scheduler σ η α} {wishes : List Wish}

theorem Wished.reachable (h : Wished ports s₀ wishes s) : Reachable ports s₀ s := by
  induction h with
  | none => exact .refl
  | turn _ ht ih => exact ih.turn ht
  | call _ request ih => exact ih.call request
  | reply _ reply hw ih => exact ih.tail (.reply reply hw)

/-- Whatever a scheduler becomes, its wishes are kept and others may come behind them. -/
theorem Wished.later (h : Wished ports s₀ wishes s) (ht : Reachable ports s t) :
    ∃ more, Wished ports s₀ (wishes ++ more) t := by
  induction ht with
  | refl => exact ⟨[], (List.append_nil wishes).symm ▸ h⟩
  | tail _ step ih =>
    obtain ⟨more, ih⟩ := ih
    cases step with
    | turn ht => exact ⟨more ++ _, List.append_assoc wishes more _ ▸ ih.turn ht⟩
    | call request => exact ⟨more ++ _, List.append_assoc wishes more _ ▸ ih.call request⟩
    | reply reply hw => exact ⟨more, ih.reply reply hw⟩

/-! ## The line -/

def grants (s : Scheduler σ η α) : List Wish :=
  ((granted s.trace).map fun g => Wish.mk g.2.1 g.2.2).reverse

/-- The wishes that were granted, and behind them those of the calls that wait. -/
def line (s : Scheduler σ η α) : List Wish :=
  s.grants ++ s.asks.map Ask.wish

theorem grants_logAll (entries : List Log.Entry) (s : Scheduler σ η α) :
    (s.logAll entries).grants = s.grants := by
  have same : granted (s.logAll entries).trace = granted s.trace :=
    granted_logs_append entries s.trace
  rw [grants, same]
  rfl

theorem line_logAll (entries : List Log.Entry) (s : Scheduler σ η α) :
    (s.logAll entries).line = s.line := by
  rw [line, grants_logAll]
  rfl

theorem grants_launch (call : Nat) (selector : Points) (domain : Text) (s : Scheduler σ η α) :
    (s.launch call selector domain).grants = s.grants ++ [⟨call, selector, domain⟩] :=
  List.reverse_cons

theorem line_look (call : Nat) (domain : Option Text) (s : Scheduler σ η α) :
    (s.look call domain).line = s.line := by
  unfold look
  split
  · exact line_logAll ..
  · rfl

/-- A wish that is granted at once was the only one in line. -/
theorem line_admitted (hv : s.vacant = true) (call : Nat) (selector : Points) (domain : Text) :
    (s.take.launch call selector domain).line = s.line ++ [⟨call, selector, domain⟩] := by
  have none : s.asks = [] := by
    simp only [vacant, Bool.and_eq_true, List.isEmpty_iff] at hv
    exact hv.2
  show (s.take.launch call selector domain).grants ++ s.asks.map Ask.wish = _
  rw [grants_launch, line, none, List.map_nil, List.append_nil, List.append_nil]
  rfl

/-- What a run asks for comes to the end of the line. -/
theorem line_pull (call : Nat) (domain : Text) (fault : Option Fault) (items : List Item)
    (s : Scheduler σ η α) :
    (s.pull call domain fault items).line = s.line ++ s.pullWishes call domain items := by
  induction items generalizing s with
  | nil =>
    rw [pullWishes, List.append_nil]
    unfold pull
    split
    · rfl
    · rw [line_look]
      exact line_logAll ..
  | cons item rest ih =>
    cases item with
    | note entry => rw [pull, pullWishes, ih, line_logAll]
    | candidate selector =>
      rw [pull, pullWishes]
      split
      · next hv =>
        rw [ih, line_admitted hv, List.append_assoc]
        rfl
      · show s.grants ++ (s.asks ++ [_]).map Ask.wish = _
        rw [List.map_append, ← List.append_assoc]
        rfl

/-- A call that is made asks at the end of the line. -/
theorem line_receive (request : Request) (s : Scheduler σ η α) :
    (s.receive request).line = s.line ++ s.requestWishes request := by
  cases request with
  | submit selector domain =>
    show (seek _ _).line = _
    unfold seek
    split
    · next hv =>
      exact line_admitted hv ..
    · show s.grants ++ (s.asks ++ [_]).map Ask.wish = _
      rw [List.map_append, ← List.append_assoc]
      rfl
  | run c domain => exact line_pull ..
  | drain =>
    rw [requestWishes, List.append_nil]
    exact line_look ..

/-- A call that goes on with its slot was first in line. -/
theorem line_enter (s : Scheduler σ η α) : s.enter.line = s.line ++ s.enterWishes := by
  cases ha : s.asks with
  | nil => simp [enter, enterWishes, ha]
  | cons ask asks =>
    have first : ((s.accept asks).launch ask.call ask.selector ask.domain).line = s.line := by
      obtain ⟨free, handed, ready, e⟩ := exists_accept asks s
      rw [e, line, grants_launch, line, ha, List.append_assoc]
      rfl
    obtain ⟨call, selector, domain, rest⟩ := ask
    simp only [enter, enterWishes, ha, proceed]
    cases rest with
    | none => exact first.trans (List.append_nil _).symm
    | some c =>
      rw [← first]
      exact line_pull ..

/-- Carrying on a lookup is not about the line. -/
theorem line_carried {terms : Terms} {l : Job} {a : Stage α} (live : a.Live)
    (h : Carried ports terms l a s t) : t.line = s.line := by
  obtain ⟨es, b, trace, own, course, -⟩ := h.exists_course
  rw [line, grants, trace, course.granted_append own live, h.frame.asks]
  rfl

theorem line_turn (ht : s.turn? ports = some t) : t.line = s.line ++ s.turnWishes := by
  obtain ⟨⟨c, rest⟩, hp, rfl⟩ := Option.map_eq_some_iff.1 ht
  rw [turnWishes, hp]
  cases c with
  | enter => exact line_enter { s with ready := rest }
  | start l =>
    have carried : Carried ports s.terms l _ _ _ := carried_start l { s with ready := rest }
    exact (line_carried (Terms.live_begun ..) carried).trans (List.append_nil _).symm
  | resume l reply =>
    have carried : Carried ports s.terms l _ _ _ :=
      carried_resume l reply { s with ready := rest }
    exact (line_carried (a := .asking _ _) trivial carried).trans (List.append_nil _).symm
  | leave n error => exact (line_logAll ..).trans (List.append_nil _).symm
  | look call domain => exact (line_look ..).trans (List.append_nil _).symm

/-- Slots are granted in the order of the wishes, and the calls that wait stand in this order. -/
theorem Wished.line {cap : Nat} {retries : Int} {transport : σ} {handler : η}
    (h : Wished ports (idle cap retries transport handler read) wishes s) : s.line = wishes := by
  induction h with
  | none => rfl
  | turn _ ht ih => rw [line_turn ht, ih]
  | call _ request ih => rw [line_receive, ih]
  | reply _ reply hw ih => exact ih

/-! ## Starts -/

/-- How many lookups have begun. -/
def begun (s : Scheduler σ η α) : Nat :=
  s.submitted - s.starting.length

/-- The names that the lookups of a call asked for with their first queries, in order. -/
def attemptedFor (call : Nat) (s : Scheduler σ η α) : List Text :=
  (((firsts (asked s.trace)).filter fun q =>
    (granted s.trace).any fun g => g.1 == q.1 && g.2.1 == call).map Prod.snd).reverse

theorem Stories.length_granted (h : s.Stories) : (granted s.trace).length = s.submitted := by
  rw [← List.length_map Prod.fst, h.numbers, List.length_reverse, List.length_range]

/-- The lookups that are still to start are those that were granted slots last. -/
theorem Begun.starting_eq (h : s.Begun) : s.starting.reverse =
    ((granted s.trace).take s.starting.length).map fun g => Job.mk g.1 g.2.2 s.terms.attempts := by
  obtain ⟨begun, order, -⟩ := h.order
  rw [List.map_take, order, ← List.length_reverse, List.take_left]

/-- The others have asked if their names are well formed. -/
theorem Begun.firsts_eq (h : s.Begun) : firsts (asked s.trace) =
    (((granted s.trace).drop s.starting.length).filter
      fun g => wellFormed s.terms.read g.2.2.name).map fun g => (g.1, g.2.2.name) := by
  obtain ⟨begun, order, first⟩ := h.order
  have behind : begun = ((granted s.trace).drop s.starting.length).map
      fun g => Job.mk g.1 g.2.2 s.terms.attempts := by
    rw [List.map_drop, order, ← List.length_reverse, List.drop_left]
  rw [first, behind, List.filter_map, List.map_map]
  rfl

theorem Begun.length_starting_le (h : s.Begun) (stories : s.Stories) :
    s.starting.length ≤ s.submitted := by
  obtain ⟨begun, order, -⟩ := h.order
  have size := congrArg List.length order
  rw [List.length_map, stories.length_granted, List.length_append, List.length_reverse] at size
  omega

/-- Lookups start in the order of their numbers. -/
theorem Begun.numbers_starting (h : s.Begun) (stories : s.Stories) :
    s.starting.map Job.number = List.range' s.begun s.starting.length := by
  have le := h.length_starting_le stories
  have last : s.starting.reverse.map Job.number =
      ((granted s.trace).map Prod.fst).take s.starting.length := by
    rw [h.starting_eq, List.map_map, List.map_take]
    rfl
  rw [stories.numbers, List.take_reverse, List.length_range, List.map_reverse,
    List.reverse_inj] at last
  rw [last, begun, List.range_eq_range', List.drop_range']
  congr 1 <;> omega

/-- The names asked for first are the well-formed ones whose lookups have begun. -/
theorem Begun.attempted_eq (h : s.Begun) (stories : s.Stories) :
    s.attempted =
      ((s.line.take s.begun).map (·.target.name)).filter (wellFormed s.terms.read) := by
  have size : s.grants.length = s.submitted := by
    rw [grants, List.length_reverse, List.length_map, stories.length_granted]
  have front : s.line.take s.begun = (((granted s.trace).drop s.starting.length).map
      fun g => Wish.mk g.2.1 g.2.2).reverse := by
    have le := h.length_starting_le stories
    rw [line, List.take_append_of_le_length (by rw [size, begun]; omega), grants, List.take_reverse,
      List.length_map, stories.length_granted, ← List.map_drop, begun, Nat.sub_sub_self le]
  rw [attempted, h.firsts_eq, front, List.map_map, List.map_reverse, List.map_map,
    List.filter_reverse, List.filter_map]
  rfl

/-- The first queries of a call's lookups are for the names of the front part of its targets, as far
as they are well formed, and for all of them once no lookup is to start. -/
theorem Begun.attemptedFor_eq (h : s.Begun) (stories : s.Stories) (call : Nat) :
    ∃ k, s.attemptedFor call = (((targetsOf call s.trace).take k).map Target.name).filter
        (wellFormed s.terms.read) ∧
      (s.starting = [] → (targetsOf call s.trace).length ≤ k) := by
  generalize hd : (granted s.trace).drop s.starting.length = begun
  have nodup : ((granted s.trace).map Prod.fst).Nodup := by
    rw [stories.numbers]
    exact List.nodup_reverse.2 List.nodup_range
  have suffix : begun <:+ granted s.trace := hd ▸ List.drop_suffix ..
  -- a lookup is of the call if the call is the one it was granted to
  let ofCall := fun q : Nat × Text =>
    (granted s.trace).any fun g => g.1 == q.1 && g.2.1 == call
  have own : ∀ g ∈ begun.filter fun g => wellFormed s.terms.read g.2.2.name,
      (ofCall ∘ fun g => (g.1, g.2.2.name)) g = (g.2.1 == call) := by
    intro g hg
    have hg : g ∈ granted s.trace := suffix.subset (List.mem_filter.1 hg).1
    rw [Bool.eq_iff_iff]
    simp only [ofCall, Function.comp_apply, List.any_eq_true, Bool.and_eq_true, beq_iff_eq]
    constructor
    · rintro ⟨g', hg', number, rfl⟩
      rw [List.inj_on_of_nodup_map nodup hg' hg number]
    · rintro rfl
      exact ⟨g, hg, rfl, rfl⟩
  have names : s.attemptedFor call =
      (((begun.filter fun g => g.2.1 == call).map fun g => g.2.2).reverse.map Target.name).filter
        (wellFormed s.terms.read) := by
    rw [attemptedFor, h.firsts_eq, hd, List.filter_map, List.filter_congr own, List.filter_filter,
      List.map_map, List.map_reverse, List.map_map, List.filter_reverse, List.filter_map,
      List.filter_filter]
    simp only [Bool.and_comm]
    rfl
  have front : ((begun.filter fun g => g.2.1 == call).map fun g => g.2.2).reverse <+:
      targetsOf call s.trace :=
    List.reverse_prefix.2 ((suffix.filter _).map _)
  refine ⟨_, by rw [names, List.prefix_iff_eq_take.1 front], ?_⟩
  intro none
  rw [none] at hd
  rw [← hd, targetsOf]
  exact Nat.le_refl _

/-! ## Calls in line -/

theorem map_target_filter_line (call : Nat) (s : Scheduler σ η α) :
    (s.line.filter (·.call == call)).map Wish.target = targetsOf call s.trace ++
      (s.asks.filter (·.call == call)).map fun a => ⟨a.selector, a.domain⟩ := by
  rw [line, grants, targetsOf, List.filter_append, List.map_append, List.filter_reverse,
    List.map_reverse, List.filter_map, List.filter_map, List.map_map, List.map_map]
  rfl

/-- A call stands in line once at the most. -/
theorem Roster.filter_asks (h : Roster [] s) {a : Ask} (ha : a ∈ s.asks) :
    s.asks.filter (·.call == a.call) = [a] := by
  have nodup := h.nodup_asks
  obtain ⟨front, back, split⟩ := List.append_of_mem ha
  rw [split, List.map_append, List.map_cons, List.nodup_middle, List.nodup_cons,
    List.mem_append, not_or] at nodup
  have others {as : List Ask} (not : a.call ∉ as.map Ask.call) :
      as.filter (·.call == a.call) = [] := by
    rw [List.filter_eq_nil_iff]
    intro b hb same
    exact not (List.mem_map.2 ⟨b, hb, beq_iff_eq.1 same⟩)
  rw [split, List.filter_append, List.filter_cons_of_pos (by simp), others nodup.1.1,
    others nodup.1.2, List.nil_append]

/-- A call has been given slots for the front part of its targets. -/
theorem Roster.targetsOf_append (h : Roster [] s) {call : Nat} {r : Request}
    (hr : s.requests[call]? = some r) : ∃ left, targetsOf call s.trace ++ left = r.targets ∧
      (s.calls[call]? ≠ some .waiting → left = []) := by
  have lt : call < s.calls.length := h.length ▸ (List.getElem?_eq_some_iff.1 hr).1
  have told {p : Post} (hs : s.Standing p) (hp : p.call = call) :
      targetsOf call s.trace ++ p.targets = r.targets := by
    obtain ⟨-, r', hr', whole, -⟩ := hs
    rw [hp, hr] at hr'
    cases hr'
    rwa [← hp]
  rcases h.ended call lt with hc | ⟨fault, single, hs⟩
  · obtain ⟨p, hp, rfl⟩ := List.mem_map.1 hc
    change p ∈ s.posts at hp
    refine ⟨p.targets, told (h.told p hp) rfl, ?_⟩
    intro moved
    rcases List.mem_append.1 hp with hp' | hp'
    · obtain ⟨a, -, rfl⟩ := List.mem_map.1 hp'
      exact absurd (h.told _ hp).state moved
    · rcases List.mem_append.1 hp' with hp' | hp'
      · obtain ⟨d, -, rfl⟩ := List.mem_map.1 hp'
        rfl
      · obtain ⟨c, -, hc⟩ := List.mem_filterMap.1 hp'
        cases c <;> cases hc
        rfl
  · exact ⟨[], told hs rfl, fun _ => rfl⟩

/-- A call asks for the targets of its request in order, and for the next one only when it has the
slots for all before. -/
theorem Roster.prefix_targets (h : Roster [] s) {call : Nat} {r : Request}
    (hr : s.requests[call]? = some r) :
    (s.line.filter (·.call == call)).map Wish.target <+: r.targets ∧
      (s.line.filter (·.call == call)).length ≤ (targetsOf call s.trace).length + 1 := by
  rw [← List.length_map Wish.target, map_target_filter_line]
  by_cases ha : ∃ a ∈ s.asks, a.call = call
  · obtain ⟨a, ha, rfl⟩ := ha
    rw [h.filter_asks ha]
    have posted : a.post ∈ s.posts := List.mem_append_left _ (List.mem_map_of_mem ha)
    obtain ⟨-, r', hr', whole, -⟩ := h.told _ posted
    cases hr.symm.trans hr'
    constructor
    · rw [← whole]
      exact (List.prefix_append_right_inj _).2 (List.prefix_append [_] _)
    · simp
  · have none : s.asks.filter (·.call == call) = [] := by
      rw [List.filter_eq_nil_iff]
      intro a hm same
      exact ha ⟨a, hm, beq_iff_eq.1 same⟩
    obtain ⟨left, split, -⟩ := h.targetsOf_append hr
    rw [none, List.map_nil, List.append_nil]
    exact ⟨⟨left, split⟩, Nat.le_succ _⟩

/-! ## The order of all that happens -/

/-- What happens to wishes for slots that arose in this order, when names are read as `read` says. -/
structure Orderly (ports : Ports σ η α) (read : Text → Reading) (wishes : List Wish)
    (s : Scheduler σ η α) : Prop where
  /-- Slots are given out in this order, and the calls that wait stand in this order. -/
  line : s.grants ++ s.asks.map Ask.wish = wishes
  /-- The lookup of each granted wish is numbered by its place. -/
  numbered : (granted s.trace).map Prod.fst = (List.range s.grants.length).reverse
  /-- Lookups start in this order: those that are still to start are the last ones. -/
  starts : s.starting.map Job.number = List.range' s.begun s.starting.length ∧
    s.begun + s.starting.length = s.grants.length
  /-- So are the well-formed names first asked for: those of the lookups that have begun. -/
  attempted : s.attempted =
    ((wishes.take s.begun).map (·.target.name)).filter (wellFormed read)
  /-- A call asks for the targets of its request in order, one at a time. -/
  paced : ∀ (call : Nat) (r : Request), s.requests[call]? = some r →
    (wishes.filter (·.call == call)).map Wish.target <+: r.targets ∧
      (wishes.filter (·.call == call)).length ≤ (targetsOf call s.trace).length + 1
  /-- Its well-formed names are first asked for in their order, each once for each time that it
  occurs, and at rest all of them have been if the call does not wait for a slot. -/
  listed : ∀ (call : Nat) (r : Request), s.requests[call]? = some r →
    (∃ k, s.attemptedFor call =
      ((r.targets.take k).map Target.name).filter (wellFormed read)) ∧
    (s.AtRest → s.calls[call]? ≠ some .waiting →
      s.attemptedFor call = (r.targets.map Target.name).filter (wellFormed read))
  /-- A submit that is called now gets its slot only after all wishes that wait now. -/
  behind : ∀ (selector : Points) (domain : Text) (t : Scheduler σ η α),
    Reachable ports (s.receive (.submit selector domain)) t →
      ⟨s.calls.length, selector, domain⟩ ∈ t.grants →
        wishes ++ [⟨s.calls.length, selector, domain⟩] <+: t.grants

/-- A wish of a call that is yet to be made is not in line. -/
theorem Roster.not_mem_line (h : Roster [] s) {w : Wish} (hw : s.calls.length ≤ w.call) :
    w ∉ s.line := by
  intro mem
  refine Nat.not_lt.2 hw ?_
  rcases List.mem_append.1 mem with mem | mem
  · obtain ⟨g, hg, rfl⟩ := List.mem_map.1 (List.mem_reverse.1 mem)
    exact h.callers g hg
  · obtain ⟨a, ha, rfl⟩ := List.mem_map.1 mem
    have posted : a.post ∈ s.posts := List.mem_append_left _ (List.mem_map_of_mem ha)
    exact (List.getElem?_eq_some_iff.1 (h.told _ posted).state).1

/-- No call overtakes another one, whatever calls are made and in whatever order queries are
answered or fail. -/
theorem no_overtaking {cap : Nat} {retries : Int} {transport : σ} {handler : η}
    (h : Wished ports (idle cap retries transport handler read) wishes s) :
    Orderly ports read wishes s := by
  have reached := h.reachable
  have reads : s.terms.read = read := by rw [reached.terms_eq]
  have stories := reached.stories.1
  have begun := reached.begun
  have roster := reached.roster
  have size : s.grants.length = s.submitted := by
    rw [grants, List.length_reverse, List.length_map, stories.length_granted]
  refine ⟨h.line, ?_, ⟨begun.numbers_starting stories, ?_⟩, ?_, ?_, ?_, ?_⟩
  · rw [size]
    exact stories.numbers
  · rw [size]
    exact Nat.sub_add_cancel (begun.length_starting_le stories)
  · rw [← h.line, ← reads]
    exact begun.attempted_eq stories
  · intro call r hr
    rw [← h.line]
    exact roster.prefix_targets hr
  · intro call r hr
    obtain ⟨k, first, all⟩ := begun.attemptedFor_eq stories call
    obtain ⟨left, split, moved⟩ := roster.targetsOf_append hr
    rw [reads] at first
    constructor
    · refine ⟨min k (targetsOf call s.trace).length, ?_⟩
      rw [first, ← split, List.take_append_of_le_length (Nat.min_le_right ..),
        ← List.take_take, List.take_length]
    · intro rest other
      have none : s.starting = [] := by
        rw [Scheduler.starting, rest]
        rfl
      rw [first, List.take_of_length_le (all none), ← split, moved other, List.append_nil]
  · intro selector domain t ht mem
    have called := h.call (.submit selector domain)
    obtain ⟨more, later⟩ := called.later ht
    have granted : t.grants <+: (wishes ++ [_]) ++ more :=
      ⟨t.asks.map Ask.wish, later.line⟩
    rcases List.prefix_or_prefix_of_prefix (List.prefix_append (wishes ++ [_]) more) granted with
      hp | hp
    · exact hp
    · -- a shorter line of grants would not hold the wish
      rcases List.prefix_concat_iff.1 hp with whole | short
      · exact whole ▸ List.prefix_refl _
      · refine absurd (h.line ▸ short.subset mem) (roster.not_mem_line (Nat.le_refl _))

/-- With one slot, a run waits behind a submit and another submit behind the run. -/
def linedUp : Scheduler Unit Nat Nat :=
  ((((idle 1 0 () 0).receive (.submit "w".toList "d".toList)).receive
    (.run ⟨["wa", "wb"].map fun x => .candidate x.toList, none⟩ "d".toList)).receive
    (.submit "wc".toList "d".toList)).advance sample 20

/-- Since then the slot has come to the run, which asks for its next candidate behind the other
submit. -/
def lined : Scheduler Unit Nat Nat :=
  (linedUp.delivered (questionName "w".toList "d".toList) .failure).advance sample 20

theorem reachable_lined : Reachable sample (idle 1 0 () 0) lined := by
  have up : Reachable sample (idle 1 0 () 0) linedUp :=
    (((Reachable.call .refl _).call _).call _).advance 20
  exact (up.delivered _ _).advance 20

theorem no_overtaking_lined :
    let target (x : String) : Target := ⟨x.toList, "d".toList⟩
    let wishes : List Wish :=
      [⟨0, target "w"⟩, ⟨1, target "wa"⟩, ⟨2, target "wc"⟩, ⟨1, target "wb"⟩]
    Wished sample (idle 1 0 () 0) wishes lined ∧ Orderly sample readName wishes lined ∧
      lined.grants = wishes.take 2 ∧ lined.asks.map Ask.wish = wishes.drop 2 := by
  intro target wishes
  obtain ⟨all, h⟩ := Wished.none.later reachable_lined
  have here : lined.line = wishes := by decide
  rw [List.nil_append, ← h.line, here] at h
  exact ⟨h, no_overtaking h, by decide, by decide⟩

end Scheduler

end SelectorScan.Lookup
