import Mathlib.Data.List.Pairwise
import SelectorScan.Proofs.Lookup.Accounts

/-!
# First attempts

Lookups begin in the order in which they were given slots, whatever comes in between: lookups that
are to start stand in that order among the chores (`starting`), and a lookup whose name is well
formed asks the transport for the first time in the turn in which it starts (`Begun`). So at rest

    s.attempted = (s.submissions.map Target.name).filter (wellFormed read)   (attempted_of_atRest)
-/

namespace SelectorScan.Lookup

variable {σ η α : Type} {read : Text → Reading}

/-- Whether a name can be looked up. -/
def wellFormed (read : Text → Reading) (name : Text) : Bool :=
  (read name).isWellFormed

theorem wellFormed_iff {terms : Terms} {name : Text} (h : 0 < terms.attempts) :
    wellFormed terms.read name = true ↔ 0 < terms.allowance name := by
  unfold wellFormed Terms.allowance
  cases (terms.read name).isWellFormed with
  | false => simp
  | true => simpa using h

/-! ## Queries of a lookup -/

/-- Of queries, the latest first, only the first one of each lookup. -/
def firsts (queries : List (Nat × Text)) : List (Nat × Text) :=
  queries.pwFilter fun a b => a.1 ≠ b.1

theorem mem_asked {n : Nat} {name : Text} {es : List (Event α)} :
    (n, name) ∈ asked es ↔ .asked n name ∈ es := by
  rw [asked, List.mem_filterMap]
  constructor
  · rintro ⟨e, he, h⟩
    cases e <;> cases h
    exact he
  · intro h
    exact ⟨_, h, rfl⟩

/-- A lookup has asked if its queries are counted. -/
theorem countP_isAsked_pos {n : Nat} {es : List (Event α)} :
    0 < (eventsOf n es).countP Event.isAsked ↔ ∃ name, (n, name) ∈ asked es := by
  rw [List.countP_pos_iff]
  constructor
  · rintro ⟨e, he, ask⟩
    obtain ⟨he, own⟩ := mem_eventsOf.1 he
    cases e with
    | asked m name =>
      cases own
      exact ⟨name, mem_asked.2 he⟩
    | _ => cases ask
  · rintro ⟨name, h⟩
    exact ⟨_, mem_eventsOf.2 ⟨mem_asked.1 h, rfl⟩, rfl⟩

theorem Own.asked {n : Nat} {es : List (Event α)} (h : Own n es) {q : Nat × Text}
    (hq : q ∈ asked es) : q.1 = n := by
  obtain ⟨m, name⟩ := q
  rcases h _ (mem_asked.1 hq) with e | e
  · cases e
  · exact Option.some.inj e

/-- Every query of a lookup is for its name. -/
theorem Course.asked_name {terms : Terms} {n call : Nat} {target : Target} {name : Text}
    {b : Stage α} {es : List (Event α)} (h : Course terms n .unborn es b)
    (hg : .granted n call target ∈ es) (ha : .asked n name ∈ es) : name = target.name := by
  induction h with
  | nil => cases hg
  | other _ he ih =>
    exact ih ((mem_cons_of_lookup? he rfl).1 hg) ((mem_cons_of_lookup? he rfl).1 ha)
  | granted h =>
    -- nothing has happened to a lookup before it is given its slot
    have before := mem_eventsOf.2 ⟨(List.mem_cons.1 ha).resolve_left nofun, rfl⟩
    rw [h.eventsOf_eq_nil rfl] at before
    cases before
  | asked h ih =>
    have born := (List.mem_cons.1 hg).resolve_left nofun
    rcases List.mem_cons.1 ha with e | ha
    · cases e
      exact (h.spent born).1
    · exact ih born ha
  | _ _ ih =>
    exact ih ((List.mem_cons.1 hg).resolve_left nofun) ((List.mem_cons.1 ha).resolve_left nofun)

/-- A lookup that has left its beginning has asked if it was allowed to. -/
theorem Stage.Spent.pos_iff {name : Text} {allowed asked failed : Nat} {a : Stage α}
    (h : a.Spent name allowed asked failed) (moved : ∀ name left, a ≠ .due name left) :
    0 < asked ↔ 0 < allowed := by
  cases a with
  | unborn => exact h.elim
  | due name left => exact absurd rfl (moved name left)
  | closing o => cases o <;> simp only [Spent] at h <;> omega
  | gone o => cases o <;> simp only [Spent] at h <;> omega
  | _ => simp only [Spent] at h; omega

/-! ## First queries -/

theorem asked_append (es past : List (Event α)) : asked (es ++ past) = asked es ++ asked past :=
  List.filterMap_append

/-- Another query of a lookup that has asked before is not a first one. -/
theorem firsts_append_of_mem {n : Nat} {name : Text} {queries past : List (Nat × Text)}
    (own : ∀ q ∈ queries, q.1 = n) (before : (n, name) ∈ past) :
    firsts (queries ++ past) = firsts past := by
  have differ : ∀ {x y z : Nat × Text}, x.1 ≠ z.1 → x.1 ≠ y.1 ∨ y.1 ≠ z.1 := by
    intro x y z h
    rw [← not_and_or]
    rintro ⟨first, second⟩
    exact h (first.trans second)
  induction queries with
  | nil => rfl
  | cons q queries ih =>
    obtain ⟨hq, own⟩ := List.forall_mem_cons.1 own
    rw [List.cons_append, firsts, List.pwFilter_cons_of_neg]
    · exact ih own
    · intro apart
      have all : ∀ q' ∈ queries ++ past, q.1 ≠ q'.1 :=
        (List.forall_mem_pwFilter (R := fun a b => a.1 ≠ b.1) differ q _).1 apart
      exact all (n, name) (List.mem_append_right _ before) hq

/-- The same query made several times by a lookup that has not asked before is a first one once. -/
theorem firsts_append_of_fresh {q : Nat × Text} {queries past : List (Nat × Text)}
    (same : ∀ q' ∈ queries, q' = q) (fresh : ∀ q' ∈ past, q.1 ≠ q'.1) :
    firsts (queries ++ past) = (if queries = [] then [] else [q]) ++ firsts past := by
  have apart : ∀ q' ∈ firsts past, q.1 ≠ q'.1 := by
    intro q' h
    exact fresh q' (List.pwFilter_subset _ h)
  induction queries with
  | nil => rfl
  | cons q' queries ih =>
    obtain ⟨rfl, same⟩ := List.forall_mem_cons.1 same
    have ih := ih same
    rw [if_neg (List.cons_ne_nil _ _), List.cons_append]
    by_cases last : queries = []
    · rw [last]
      exact List.pwFilter_cons_of_pos apart
    · rw [if_neg last] at ih
      rw [firsts, List.pwFilter_cons_of_neg]
      · exact ih
      · intro all
        have mem : q' ∈ firsts (queries ++ past) := by
          rw [ih]
          exact List.mem_cons_self
        exact all q' mem rfl

/-- A lookup at its beginning has not asked. -/
theorem Course.fresh_of_begun {terms : Terms} {n call : Nat} {target : Target}
    {past : List (Event α)} (told : Course terms n .unborn past (terms.begun target.name))
    (born : .granted n call target ∈ past) : ¬∃ name, (n, name) ∈ Lookup.asked past := by
  rw [← countP_isAsked_pos]
  have spent := told.spent born
  rcases terms.begun_cases (α := α) target.name with e | ⟨message, -, e⟩
  · rw [e] at spent
    obtain ⟨-, _, -⟩ := spent
    omega
  · rw [e] at spent
    obtain ⟨-, -, _, -⟩ := spent
    omega

/-- A lookup makes a first query on leaving its beginning if its name is well formed. -/
theorem firsts_append_of_started {terms : Terms} {n call : Nat} {target : Target} {b : Stage α}
    {es past : List (Event α)} (told : Course terms n .unborn past (terms.begun target.name))
    (course : Course terms n (terms.begun target.name) es b) (own : Own n es)
    (moved : ∀ name left, b ≠ .due name left) (born : .granted n call target ∈ past)
    (some : 0 < terms.attempts) :
    firsts (asked (es ++ past)) =
      (if wellFormed terms.read target.name then [(n, target.name)] else []) ++
        firsts (asked past) := by
  have whole := told.trans course
  have born' : .granted n call target ∈ es ++ past := List.mem_append_right _ born
  have fresh := told.fresh_of_begun born
  have same : ∀ q ∈ asked es, q = (n, target.name) := by
    rintro ⟨m, name'⟩ hq
    obtain rfl := own.asked hq
    rw [whole.asked_name born' (List.mem_append_left _ (mem_asked.1 hq))]
  have asks : asked es = [] ↔ ¬wellFormed terms.read target.name = true := by
    rw [wellFormed_iff some, ← (whole.spent born').pos_iff moved, countP_isAsked_pos, asked_append,
      iff_not_comm]
    constructor
    · rintro ⟨name', hq⟩
      exact List.ne_nil_of_mem ((List.mem_append.1 hq).resolve_right fun hq => fresh ⟨name', hq⟩)
    · intro filled
      obtain ⟨q, hq⟩ := List.exists_mem_of_ne_nil _ filled
      exact ⟨target.name, List.mem_append_left _ (same q hq ▸ hq)⟩
  rw [asked_append, firsts_append_of_fresh same]
  · simp only [asks, ite_not]
  · rintro ⟨m, name'⟩ hq rfl
    exact fresh ⟨name', hq⟩

/-! ## The invariant -/

def Chore.starts? : Chore α → Option Job
  | .start l => some l
  | _ => none

namespace Scheduler

variable {ports : Ports σ η α} {s t : Scheduler σ η α}

/-- What the lookups that were given slots are for, in order. -/
def submissions (s : Scheduler σ η α) : List Target :=
  ((granted s.trace).map fun g => g.2.2).reverse

/-- The names that lookups asked for with their first queries, in order. -/
def attempted (s : Scheduler σ η α) : List Text :=
  ((firsts (asked s.trace)).map Prod.snd).reverse

/-- The lookups that are to start, in order. -/
def starting (s : Scheduler σ η α) : List Job :=
  s.chores.filterMap Chore.starts?

/-- The lookups that were given slots are those that are to start, behind those that have begun; and
of these the ones whose name is well formed have asked, in the order in which they were given
slots. -/
structure Begun (s : Scheduler σ η α) : Prop where
  attempts : 0 < s.terms.attempts
  order : ∃ begun : List Job,
    ((granted s.trace).map fun g => Job.mk g.1 g.2.2 s.terms.attempts) =
        s.starting.reverse ++ begun ∧
      firsts (asked s.trace) =
        (begun.filter fun l => wellFormed s.terms.read l.name).map fun l => (l.number, l.name)

theorem begun_idle (cap : Nat) (retries : Int) (transport : σ) (handler : η) :
    Begun (idle cap retries transport handler read : Scheduler σ η α) :=
  ⟨Nat.succ_pos _, [], rfl, rfl⟩

theorem Begun.same (h : s.Begun) (terms : t.terms = s.terms)
    (starting : t.starting = s.starting) (granted : granted t.trace = granted s.trace)
    (firsts : firsts (asked t.trace) = firsts (asked s.trace)) : t.Begun := by
  refine ⟨terms ▸ h.attempts, ?_⟩
  rw [terms, starting, granted, firsts]
  exact h.order

theorem Begun.pop {c : Chore α} {rest : Queue (Chore α)} (h : s.Begun)
    (hc : s.chores = c :: rest.toList) (other : c.starts? = none) :
    Begun { s with ready := rest } := by
  refine h.same rfl ?_ rfl rfl
  have popped := filterMap_pop (f := Chore.starts?) hc
  rw [other] at popped
  exact popped.symm

theorem Begun.accept (h : s.Begun) (asks : List Ask) : (s.accept asks).Begun := by
  have starting : (s.accept asks).starting = s.starting := filterMap_accept rfl asks s
  obtain ⟨free, handed, ready, e⟩ := exists_accept asks s
  rw [e] at starting ⊢
  exact h.same rfl starting rfl rfl

/-- A lookup that is put in flight is to start behind all others. -/
theorem Begun.launch (h : s.Begun) (call : Nat) (selector : Points) (domain : Text) :
    (s.launch call selector domain).Begun := by
  obtain ⟨begun, order, asked⟩ := h.order
  have starting : (s.launch call selector domain).starting =
      s.starting ++ [⟨s.submitted, ⟨selector, domain⟩, s.terms.attempts⟩] :=
    filterMap_push ..
  refine ⟨h.attempts, begun, ?_, asked⟩
  rw [starting, List.reverse_append]
  exact congrArg (_ :: ·) order

/-! ## Moves -/

/-- A lookup that is carried on has left its beginning. -/
theorem Carried.exists_course {terms : Terms} {l : Job} {a : Stage α}
    (h : Carried ports terms l a s t) :
    ∃ es b, t.trace = es ++ s.trace ∧ Own l.number es ∧ Course terms l.number a es b ∧
      ∀ name left, b ≠ .due name left := by
  cases h with
  | waits es left course own => exact ⟨es, _, rfl, own, course, nofun⟩
  | ends es outcome error course own =>
    obtain ⟨free, handed, ready, e⟩ := exists_close l error _
    refine ⟨.released l.number :: es, _, ?_, (own_singleton rfl).append own, course.released, nofun⟩
    rw [e]
    rfl

/-- A lookup that stands somewhere has been given a slot. -/
theorem Stories.exists_granted (h : s.Stories) {n : Nat} {a : Stage α} (hn : (n, a) ∈ s.stations) :
    ∃ call target, .granted n call target ∈ s.trace := by
  have mem : n ∈ (granted s.trace).map Prod.fst := by
    rw [h.numbers, List.mem_reverse, List.mem_range]
    exact h.lt (List.mem_append_left _ (List.mem_map_of_mem hn))
  obtain ⟨⟨n, call, target⟩, hg, rfl⟩ := List.mem_map.1 mem
  exact ⟨call, target, mem_granted.1 hg⟩

theorem mem_stations_of_chore {c : Chore α} {n : Nat} {a : Stage α} {rest : Queue (Chore α)}
    (hc : s.chores = c :: rest.toList) (station : c.station? s.terms.read = some (n, a)) :
    (n, a) ∈ s.stations := by
  refine List.mem_append_left _ (List.mem_filterMap.2 ⟨c, ?_, station⟩)
  rw [hc]
  exact List.mem_cons_self

/-- A lookup that starts asks for the first time if its name is well formed. -/
theorem Begun.start {l : Job} {rest : Queue (Chore α)} (h : s.Begun) (stories : s.Stories)
    (hc : s.chores = .start l :: rest.toList)
    (carried : Carried ports s.terms l (l.begun s.terms.read) { s with ready := rest } t) :
    t.Begun := by
  obtain ⟨begun, order, first⟩ := h.order
  have popped : s.starting = l :: rest.toList.filterMap Chore.starts? := filterMap_pop hc
  have starting : t.starting = rest.toList.filterMap Chore.starts? :=
    carried.filterMap_chores rfl fun _ _ => rfl
  rw [popped, List.reverse_cons, List.append_assoc] at order
  obtain ⟨call, born, attempts⟩ :
      ∃ call, .granted l.number call l.target ∈ s.trace ∧ l.attempts = s.terms.attempts := by
    have mem : l ∈ (granted s.trace).map fun g => Job.mk g.1 g.2.2 s.terms.attempts := by
      rw [order]
      simp
    obtain ⟨⟨n, call, target⟩, hg, rfl⟩ := List.mem_map.1 mem
    exact ⟨call, mem_granted.1 hg, rfl⟩
  have begins : (l.begun s.terms.read : Stage α) = s.terms.begun l.target.name := by
    rw [Job.begun, attempts]
    rfl
  have told := stories.told _ _ (mem_stations_of_chore hc rfl)
  obtain ⟨es, b, trace, own, course, moved⟩ := carried.exists_course
  rw [begins] at told course
  refine ⟨carried.frame.terms ▸ h.attempts, l :: begun, ?_, ?_⟩
  · rw [trace, course.granted_append own (Terms.live_begun ..), starting, carried.frame.terms]
    exact order
  · rw [trace, firsts_append_of_started told course own moved born h.attempts, first,
      List.filter_cons, carried.frame.terms]
    show _ = List.map _ (if wellFormed s.terms.read l.target.name then _ else _)
    cases wellFormed s.terms.read l.target.name <;> rfl

/-- A lookup that goes on has asked before. -/
theorem Begun.resume {l : Job} {reply : Reply α} {rest : Queue (Chore α)} (h : s.Begun)
    (stories : s.Stories) (hc : s.chores = .resume l reply :: rest.toList)
    (carried : Carried ports s.terms l (.asking l.name l.attempts) { s with ready := rest } t) :
    t.Begun := by
  have station := mem_stations_of_chore (n := l.number) hc rfl
  obtain ⟨call, name, born⟩ := stories.exists_granted station
  have before : ∃ name', (l.number, name') ∈ asked s.trace := by
    obtain ⟨-, -, _⟩ := (stories.told _ _ station).spent born
    rw [← countP_isAsked_pos]
    omega
  obtain ⟨name', before⟩ := before
  obtain ⟨es, b, trace, own, course, -⟩ := carried.exists_course
  have starting : t.starting = rest.toList.filterMap Chore.starts? :=
    carried.filterMap_chores rfl fun _ _ => rfl
  have popped : s.starting = rest.toList.filterMap Chore.starts? := filterMap_pop hc
  refine h.same carried.frame.terms (starting.trans popped.symm) ?_ ?_
  · rw [trace]
    exact course.granted_append own trivial s.trace
  · rw [trace, asked_append]
    exact firsts_append_of_mem (fun q hq => own.asked hq) before

theorem Begun.logAll (h : s.Begun) (entries : List Log.Entry) : (s.logAll entries).Begun := by
  have asked : asked (s.logAll entries).trace = asked s.trace :=
    filterMap_logs_append (fun _ => rfl) entries s.trace
  exact h.same rfl rfl (granted_logs_append entries s.trace) (congrArg firsts asked)

theorem Begun.move (h : s.Begun) (stories : s.Stories) (hm : Move ports s t) : t.Begun := by
  cases hm with
  | log entries => exact h.logAll entries
  | call request => exact h.same rfl rfl rfl rfl
  | setCall call c => exact h.same rfl rfl rfl rfl
  | admitted call selector domain _ =>
    have taken : s.take.Begun := h.same rfl rfl rfl rfl
    exact taken.launch call selector domain
  | wait ask _ => exact h.same rfl rfl rfl rfl
  | drain call domain _ => exact h.same rfl rfl rfl rfl
  | @reply front back l reply hw =>
    have replied : ({ s with waiting := front ++ back }.push (.resume l reply)).starting =
        s.starting := (filterMap_push ..).trans (List.append_nil _)
    exact h.same rfl replied rfl rfl
  | start hc hs => exact h.start stories hc hs
  | resume hc hr => exact h.resume stories hc hr
  | enter hc _ => exact ((h.pop hc rfl).accept _).launch ..
  | pass hc _ => exact h.pop hc rfl
  | @leave n error rest hc =>
    have left : ({ s with ready := rest }.leave n error).starting =
        ({ s with ready := rest } : Scheduler σ η α).starting := filterMap_leave (fun _ _ => rfl) ..
    exact ((h.pop hc rfl).logAll _).same rfl left rfl rfl
  | look hc => exact h.pop hc rfl

/-- In every reachable state the lookups that have begun are those that were given slots first. -/
theorem Reachable.begun {cap : Nat} {retries : Int} {transport : σ} {handler : η}
    (h : Reachable ports (idle cap retries transport handler read) s) : s.Begun := by
  have both : s.Stories ∧ s.Begun := by
    refine h.kept (P := fun s => s.Stories ∧ s.Begun) ?_ ?_
    · exact ⟨stories_idle .., begun_idle ..⟩
    · rintro s t ⟨stories, begun⟩ hm
      exact ⟨stories.move hm, begun.move stories hm⟩
  exact both.2

/-- At rest the well-formed names that were given slots have been asked for, in that order. -/
theorem Reachable.attempted_of_atRest {cap : Nat} {retries : Int} {transport : σ} {handler : η}
    (h : Reachable ports (idle cap retries transport handler read) s) (rest : s.AtRest) :
    s.attempted = (s.submissions.map Target.name).filter (wellFormed read) := by
  obtain ⟨begun, order, first⟩ := h.begun.order
  have starting : s.starting = [] := by
    rw [Scheduler.starting, rest]
    rfl
  rw [starting] at order
  have targets : (granted s.trace).map (fun g => g.2.2) = begun.map Job.target := by
    have := congrArg (List.map Job.target) order
    rwa [List.map_map] at this
  rw [attempted, submissions, first, targets, List.map_map, List.map_reverse, List.map_map,
    List.filter_reverse, List.filter_map, h.terms_eq]
  rfl

end Scheduler

end SelectorScan.Lookup
