import SelectorScan.Proofs.Lookup.Flight

/-!
# Lookups are accounted for

Every lookup that was given a slot either stands somewhere on its course, or was handed to the
handler, or crashed, or its name could not be read, and never two of these. To a lookup a move is
nothing, or its birth, or a part of its course (`Progress`); so that what moves keep needs to be
looked at for these only.

    (s.stations.map Prod.fst ++ ended s.trace).Perm (List.range s.submitted)    (Stories.partition)

The trace tells all that the transport and the handler were called for, as their states are what
these calls make of the first ones (`Tally`).
-/

namespace SelectorScan.Lookup

variable {σ η α : Type} {read : Text → Reading}

/-! ## Stations -/

/-- A lookup that is to start or to go on, and the stage it is at. -/
def Chore.station? (read : Text → Reading) : Chore α → Option (Nat × Stage α)
  | .start l => some (l.number, l.begun read)
  | .resume l _ => some (l.number, .asking l.name l.attempts)
  | _ => none

/-- A lookup whose query waits, and the stage it is at. -/
def Job.station (l : Job) : Nat × Stage α :=
  (l.number, .asking l.name l.attempts)

/-- Whether a lookup has a slot and has not ended. -/
def Stage.Live : Stage α → Prop
  | .stuck _ _ => True
  | .due _ _ => True
  | .asking _ _ => True
  | _ => False

/-- Lookup `n` and the stage it is at, if it has a slot and has not ended. -/
def Stage.station (n : Nat) : Stage α → List (Nat × Stage α)
  | .stuck name message => [(n, .stuck name message)]
  | .due name left => [(n, .due name left)]
  | .asking name left => [(n, .asking name left)]
  | _ => []

/-- Lookup `n` if it has ended. -/
def Stage.ended (n : Nat) (a : Stage α) : List Nat :=
  (a.handled n).map Prod.fst ++ a.crashed n ++ a.unreads n

theorem Stage.Live.ne_unborn {a : Stage α} (h : a.Live) : a ≠ .unborn := by
  rintro rfl
  exact h

theorem Terms.live_begun (terms : Terms) (name : Text) : (terms.begun name : Stage α).Live := by
  rcases terms.begun_cases (α := α) name with e | ⟨message, -, e⟩
  · rw [e]
    trivial
  · rw [e]
    trivial

theorem Stage.Live.handled {a : Stage α} (h : a.Live) (n : Nat) : a.handled n = [] := by
  cases a with
  | stuck name message => rfl
  | due name left => rfl
  | asking name left => rfl
  | _ => exact h.elim

theorem Stage.Live.ended {a : Stage α} (h : a.Live) (n : Nat) : a.ended n = [] := by
  cases a with
  | stuck name message => rfl
  | due name left => rfl
  | asking name left => rfl
  | _ => exact h.elim

theorem Stage.eq_of_mem_station {a b : Stage α} {n m : Nat} (h : (m, b) ∈ a.station n) :
    m = n ∧ b = a := by
  cases a with
  | stuck name message => simpa [station] using h
  | due name left => simpa [station] using h
  | asking name left => simpa [station] using h
  | _ => cases h

/-- A lookup either stands somewhere or has ended, and that in one way. -/
theorem Stage.station_append_ended {a : Stage α} (h : a.Live ∨ ∃ o, a = .gone o) (n : Nat) :
    (a.station n).map Prod.fst ++ a.ended n = [n] := by
  rcases h with h | ⟨o, rfl⟩
  · rw [h.ended]
    cases a with
    | stuck name message => rfl
    | due name left => rfl
    | asking name left => rfl
    | _ => exact h.elim
  · cases o <;> rfl

/-- Only a lookup that has no slot is given one. -/
theorem Course.granted_eq_nil {terms : Terms} {n : Nat} {a b : Stage α} {es : List (Event α)}
    (h : Course terms n a es b) (own : Own n es) (ha : a ≠ .unborn) :
    Lookup.granted es = [] ∧ b ≠ .unborn := by
  induction h with
  | nil => exact ⟨rfl, ha⟩
  | other _ he ih =>
    obtain ⟨entry, rfl⟩ := own.logged he
    exact ih own.tail
  | granted _ ih => exact absurd rfl (ih own.tail).2
  | _ _ ih => exact ⟨(ih own.tail).1, nofun⟩

/-- A lookup that goes on is not given another slot. -/
theorem Course.granted_append {terms : Terms} {n : Nat} {a b : Stage α} {es : List (Event α)}
    (h : Course terms n a es b) (own : Own n es) (live : a.Live) (past : List (Event α)) :
    Lookup.granted (es ++ past) = Lookup.granted past := by
  have none : es.filterMap Event.granted? = [] := (h.granted_eq_nil own live.ne_unborn).1
  rw [Lookup.granted, List.filterMap_append, none]
  rfl

/-- The events of a lookup that goes on say whether it ends. -/
theorem Course.ended_eq {terms : Terms} {n : Nat} {a b : Stage α} {es : List (Event α)}
    (h : Course terms n a es b) (own : Own n es) (live : a.Live) : ended es = b.ended n := by
  have handled := h.handled_append own
  have crashed := h.crashed_append own
  have unreads := h.unreads_append own
  have none := live.ended n
  rw [Stage.ended, List.append_eq_nil_iff, List.append_eq_nil_iff, List.map_eq_nil_iff] at none
  rw [none.1.1, List.append_nil] at handled
  rw [none.1.2, List.append_nil] at crashed
  rw [none.2, List.append_nil] at unreads
  rw [Lookup.ended, handled, crashed, unreads]
  rfl

namespace Scheduler

/-- The lookups that have slots, and the stages they are at. -/
def stations (s : Scheduler σ η α) : List (Nat × Stage α) :=
  s.roll (Chore.station? s.terms.read) Job.station

/-! ## Progress -/

variable {ports : Ports σ η α} {s t : Scheduler σ η α}

/-- Some events were added to the trace, and what they say was reckoned. -/
structure Grown (ports : Ports σ η α) (s t : Scheduler σ η α) (es : List (Event α)) : Prop where
  trace : t.trace = es ++ s.trace
  terms : t.terms = s.terms
  transport : t.transport = ports.askAll s.transport es
  completed : t.completed = s.completed + (handled es).countP fun r => r.2.isSome
  failed : t.failed = s.failed + (handled es).countP fun r => r.2.isNone
  handler : t.handler = (handled es).foldr (fun r h => (ports.handle h r.2).state) s.handler

/-- What a move is to the lookups. -/
inductive Progress (ports : Ports σ η α) (s t : Scheduler σ η α) : Prop where
  /-- Nothing, but log entries. -/
  | aside (entries : List Log.Entry) (grown : Grown ports s t (entries.map Event.logged).reverse)
      (submitted : t.submitted = s.submitted) (stations : t.stations.Perm s.stations)
  /-- The birth of a lookup. -/
  | born (call : Nat) (target : Target)
      (grown : Grown ports s t [.granted s.submitted call target])
      (submitted : t.submitted = s.submitted + 1)
      (stations : t.stations.Perm ((s.submitted, s.terms.begun target.name) :: s.stations))
  /-- A part of the course of a lookup: its query waits then, or it has ended. -/
  | carried {es : List (Event α)} {n : Nat} {a b : Stage α} {rest : List (Nat × Stage α)}
      (grown : Grown ports s t es) (own : Own n es) (submitted : t.submitted = s.submitted)
      (live : a.Live) (before : s.stations = (n, a) :: rest) (course : Course s.terms n a es b)
      (landed : b.Live ∨ ∃ o, b = .gone o) (after : t.stations.Perm (b.station n ++ rest))

/-- Events that the handler has no part in. -/
theorem Grown.unhandled {es : List (Event α)} (none : handled es = [])
    (trace : t.trace = es ++ s.trace) (terms : t.terms = s.terms)
    (transport : t.transport = ports.askAll s.transport es)
    (completed : t.completed = s.completed) (failed : t.failed = s.failed)
    (handler : t.handler = s.handler) : Grown ports s t es := by
  refine ⟨trace, terms, transport, ?_, ?_, ?_⟩
  · rw [none, completed]
    rfl
  · rw [none, failed]
    rfl
  · rw [none, handler]
    rfl

theorem handled_logs (entries : List Log.Entry) :
    handled ((entries.map (Event.logged (α := α))).reverse) = [] := by
  have none := filterMap_logs_append (f := Event.handled? (α := α)) (fun _ => rfl) entries []
  rwa [List.append_nil] at none

theorem stations_close (l : Job) (error : Option String) (s : Scheduler σ η α) :
    (s.close l error).stations.Perm s.stations := by
  have terms : (s.close l error).terms = s.terms := by
    obtain ⟨free, handed, ready, e⟩ := exists_close l error s
    rw [e]
  rw [stations, terms]
  exact (roll_push ..).trans (roll_wake rfl _)

theorem stations_accept (asks : List Ask) (s : Scheduler σ η α) :
    (s.accept asks).stations.Perm s.stations := by
  have terms : (s.accept asks).terms = s.terms := by
    obtain ⟨free, handed, ready, e⟩ := exists_accept asks s
    rw [e]
  rw [stations, terms]
  simp only [accept]
  split
  · exact List.Perm.refl _
  · exact roll_wake rfl _

theorem progress_of_carried {l : Job} {a : Stage α} {c : Chore α} {rest : Queue (Chore α)}
    (hc : s.chores = c :: rest.toList) (hs : c.station? s.terms.read = some (l.number, a))
    (live : a.Live)
    (h : Carried ports s.terms l a { s with ready := rest } t) : Progress ports s t := by
  have before : s.stations =
      (l.number, a) :: ({ s with ready := rest } : Scheduler σ η α).stations := by
    rw [stations, roll_pop hc, hs]
    rfl
  cases h with
  | waits es left course own =>
    have none : handled es = [] := by
      have := course.handled_append own
      rwa [live.handled, List.append_nil] at this
    exact .carried (.unhandled none rfl rfl rfl rfl rfl rfl) own rfl live before course (.inl trivial)
      (roll_wait (l := { l with attempts := left }) rfl rfl)
  | ends es outcome error course own =>
    have all : handled (.released l.number :: es) = outcome.handled l.number := by
      have := course.handled_append own
      rwa [live.handled, List.append_nil] at this
    refine .carried (?_ : Grown ports s _ (.released l.number :: es))
      ((own_singleton rfl).append own) ?_ live before course.released (.inr ⟨outcome, rfl⟩)
      (stations_close ..)
    · obtain ⟨free, handed, ready, e⟩ := exists_close l error _
      rw [e]
      refine ⟨rfl, rfl, rfl, ?_, ?_, ?_⟩
      · rw [all]
        cases outcome <;> rfl
      · rw [all]
        cases outcome <;> rfl
      · rw [all]
        cases outcome <;> rfl
    · obtain ⟨free, handed, ready, e⟩ := exists_close l error _
      rw [e]

theorem progress_of_launch (call : Nat) (selector : Points) (domain : Text) (h : Grown ports s t [])
    (submitted : t.submitted = s.submitted) (stations : t.stations.Perm s.stations) :
    Progress ports s (t.launch call selector domain) := by
  refine .born call ⟨selector, domain⟩
    ⟨?_, h.terms, h.transport, h.completed, h.failed, h.handler⟩ (congrArg (· + 1) submitted) ?_
  · rw [← submitted]
    exact congrArg (Event.granted t.submitted call _ :: ·) h.trace
  · rw [← submitted, ← h.terms]
    exact (roll_push ..).trans (List.Perm.cons _ stations)

theorem Move.progress (h : Move ports s t) : Progress ports s t := by
  cases h with
  | log entries =>
    exact .aside entries
      (.unhandled (handled_logs _) rfl rfl (ports.askAll_logs ..).symm rfl rfl rfl) rfl
      (List.Perm.refl _)
  | call request => exact .aside [] (.unhandled rfl rfl rfl rfl rfl rfl rfl) rfl (List.Perm.refl _)
  | setCall call c => exact .aside [] (.unhandled rfl rfl rfl rfl rfl rfl rfl) rfl (List.Perm.refl _)
  | admitted call selector domain _ =>
    exact progress_of_launch call selector domain ⟨rfl, rfl, rfl, rfl, rfl, rfl⟩ rfl
      (List.Perm.refl _)
  | wait ask _ => exact .aside [] (.unhandled rfl rfl rfl rfl rfl rfl rfl) rfl (List.Perm.refl _)
  | drain call domain _ =>
    exact .aside [] (.unhandled rfl rfl rfl rfl rfl rfl rfl) rfl (List.Perm.refl _)
  | reply reply hw =>
    exact .aside [] (.unhandled rfl rfl rfl rfl rfl rfl rfl) rfl (roll_reply rfl hw).symm
  | start hc hs => exact progress_of_carried hc rfl (Terms.live_begun ..) hs
  | resume hc hr => exact progress_of_carried hc rfl trivial hr
  | @enter ask asks rest hc ha =>
    have popped : s.stations = ({ s with ready := rest } : Scheduler σ η α).stations := roll_pop hc
    refine progress_of_launch _ _ _ ?_ ?_ (popped ▸ stations_accept ..)
    · obtain ⟨free, handed, ready, e⟩ := exists_accept asks { s with ready := rest }
      rw [e]
      exact ⟨rfl, rfl, rfl, rfl, rfl, rfl⟩
    · obtain ⟨free, handed, ready, e⟩ := exists_accept asks { s with ready := rest }
      rw [e]
  | @pass rest hc _ =>
    have popped : s.stations = ({ s with ready := rest } : Scheduler σ η α).stations := roll_pop hc
    exact .aside [] (.unhandled rfl rfl rfl rfl rfl rfl rfl) rfl (popped ▸ List.Perm.refl _)
  | @leave lookup error rest hc =>
    have popped : s.stations = ({ s with ready := rest } : Scheduler σ η α).stations := roll_pop hc
    refine .aside (error.toList.map errorEntry)
      (.unhandled (handled_logs _) rfl rfl (ports.askAll_logs ..).symm rfl rfl rfl) rfl ?_
    rw [popped]
    exact List.Perm.of_eq (roll_leave (fun _ _ => rfl) ..)
  | @look call domain rest hc =>
    have popped : s.stations = ({ s with ready := rest } : Scheduler σ η α).stations := roll_pop hc
    exact .aside [] (.unhandled rfl rfl rfl rfl rfl rfl rfl) rfl (popped ▸ List.Perm.refl _)

/-! ## What is counted -/

/-- What a scheduler counts is what its trace says, its transport has been asked what the trace
says, and its handler has taken what the trace says. -/
structure Tally (ports : Ports σ η α) (transport : σ) (handler : η) (s : Scheduler σ η α) :
    Prop where
  transport : s.transport = ports.askAll transport s.trace
  completed : s.completed = (handled s.trace).countP fun r => r.2.isSome
  failed : s.failed = (handled s.trace).countP fun r => r.2.isNone
  handler : s.handler = (handled s.trace).foldr (fun r h => (ports.handle h r.2).state) handler

theorem Tally.grown {transport : σ} {handler : η} {es : List (Event α)}
    (h : Tally ports transport handler s) (hg : Grown ports s t es) :
    Tally ports transport handler t := by
  have all : handled t.trace = handled es ++ handled s.trace := by
    rw [hg.trace]
    exact List.filterMap_append
  refine ⟨?_, ?_, ?_, ?_⟩
  · rw [hg.transport, hg.trace, Ports.askAll_append, ← h.transport]
  · rw [all, List.countP_append, hg.completed, h.completed, Nat.add_comm]
  · rw [all, List.countP_append, hg.failed, h.failed, Nat.add_comm]
  · rw [all, List.foldr_append, hg.handler, h.handler]

theorem Tally.move {transport : σ} {handler : η} (h : Tally ports transport handler s)
    (hm : Move ports s t) : Tally ports transport handler t := by
  cases hm.progress with
  | aside _ grown => exact h.grown grown
  | born _ _ grown => exact h.grown grown
  | carried grown => exact h.grown grown

/-! ## The invariant -/

/-- Every lookup stands somewhere or has ended, and its events are a course to where it is. -/
structure Stories (s : Scheduler σ η α) : Prop where
  partition : (s.stations.map Prod.fst ++ ended s.trace).Perm (List.range s.submitted)
  numbers : (granted s.trace).map Prod.fst = (List.range s.submitted).reverse
  told : ∀ n a, (n, a) ∈ s.stations → Course s.terms n .unborn s.trace a
  gone : ∀ n ∈ ended s.trace, ∃ o, Course s.terms n .unborn s.trace (.gone o)
  unborn : ∀ n, s.submitted ≤ n → Course s.terms n .unborn s.trace .unborn

theorem ended_append (es es' : List (Event α)) :
    (ended (es ++ es')).Perm (ended es ++ ended es') := by
  unfold ended handled crashed unreads
  rw [List.filterMap_append, List.filterMap_append, List.filterMap_append, List.map_append,
    List.perm_iff_count]
  intro n
  simp only [List.count_append]
  omega

theorem ended_logs_append (entries : List Log.Entry) (es : List (Event α)) :
    ended ((entries.map Event.logged).reverse ++ es) = ended es := by
  unfold ended handled crashed unreads
  simp only [filterMap_logs_append (f := Event.handled? (α := α)) fun _ => rfl,
    filterMap_logs_append (f := Event.crashed? (α := α)) fun _ => rfl,
    filterMap_logs_append (f := Event.unread? (α := α)) fun _ => rfl]

theorem granted_logs_append (entries : List Log.Entry) (es : List (Event α)) :
    granted ((entries.map Event.logged).reverse ++ es) = granted es :=
  filterMap_logs_append (fun _ => rfl) entries es

theorem Stories.nodup (h : s.Stories) : (s.stations.map Prod.fst ++ ended s.trace).Nodup :=
  h.partition.nodup_iff.2 List.nodup_range

theorem Stories.lt (h : s.Stories) {n : Nat} (hn : n ∈ s.stations.map Prod.fst ++ ended s.trace) :
    n < s.submitted :=
  List.mem_range.1 (h.partition.mem_iff.1 hn)

theorem stories_idle (cap : Nat) (retries : Int) (transport : σ) (handler : η) :
    Stories (idle cap retries transport handler read : Scheduler σ η α) where
  partition := List.Perm.refl _
  numbers := rfl
  told := nofun
  gone := nofun
  unborn _ _ := .nil

/-- A move that does nothing to lookups keeps their stories. -/
theorem Stories.aside (h : s.Stories) {entries : List Log.Entry}
    (hg : Grown ports s t (entries.map Event.logged).reverse)
    (submitted : t.submitted = s.submitted) (stations : t.stations.Perm s.stations) :
    t.Stories := by
  have granted : granted t.trace = granted s.trace := hg.trace ▸ granted_logs_append entries s.trace
  have ended : ended t.trace = ended s.trace := hg.trace ▸ ended_logs_append entries s.trace
  have kept {n : Nat} {a : Stage α} (c : Course s.terms n .unborn s.trace a) :
      Course t.terms n .unborn t.trace a := by
    rw [hg.trace, hg.terms]
    exact c.logs entries
  refine ⟨?_, ?_, ?_, ?_, ?_⟩
  · rw [ended, submitted]
    exact ((stations.map _).append_right _).trans h.partition
  · rw [granted, submitted]
    exact h.numbers
  · intro n a hn
    exact kept (h.told n a (stations.mem_iff.1 hn))
  · intro n hn
    obtain ⟨o, c⟩ := h.gone n (ended ▸ hn)
    exact ⟨o, kept c⟩
  · intro n hn
    rw [submitted] at hn
    exact kept (h.unborn n hn)

theorem Stories.born (h : s.Stories) {call : Nat} {target : Target}
    (hg : Grown ports s t [.granted s.submitted call target])
    (submitted : t.submitted = s.submitted + 1)
    (stations : t.stations.Perm ((s.submitted, s.terms.begun target.name) :: s.stations)) :
    t.Stories := by
  have ended : ended t.trace = ended s.trace := by rw [hg.trace]; rfl
  have kept {n : Nat} {a : Stage α} (hn : n ≠ s.submitted)
      (c : Course s.terms n .unborn s.trace a) : Course t.terms n .unborn t.trace a := by
    rw [hg.trace, hg.terms]
    exact c.others ((own_singleton rfl).ne hn)
  refine ⟨?_, ?_, ?_, ?_, ?_⟩
  · rw [ended, submitted, List.range_succ]
    refine ((stations.map _).append_right _).trans ?_
    exact (h.partition.cons _).trans (List.perm_append_singleton _ _).symm
  · rw [hg.trace, submitted, List.range_succ, List.reverse_append]
    exact congrArg (s.submitted :: ·) h.numbers
  · intro n a hn
    rcases List.mem_cons.1 (stations.mem_iff.1 hn) with e | hn
    · cases e
      rw [hg.trace, hg.terms]
      exact (h.unborn _ (Nat.le_refl _)).granted
    · have := h.lt (List.mem_append_left _ (List.mem_map_of_mem hn))
      exact kept (Nat.ne_of_lt this) (h.told n a hn)
  · intro n hn
    rw [ended] at hn
    obtain ⟨o, c⟩ := h.gone n hn
    exact ⟨o, kept (Nat.ne_of_lt (h.lt (List.mem_append_right _ hn))) c⟩
  · intro n hn
    rw [submitted] at hn
    exact kept (Nat.ne_of_gt hn) (h.unborn n (Nat.le_of_succ_le hn))

/-- While a lookup is carried on, the other ones stay where they are. -/
theorem Stories.elsewhere (h : s.Stories) {es : List (Event α)} {n : Nat} {a : Stage α}
    {rest : List (Nat × Stage α)} (hg : Grown ports s t es) (own : Own n es)
    (before : s.stations = (n, a) :: rest) :
    (∀ m b, (m, b) ∈ rest → Course t.terms m .unborn t.trace b) ∧
      (∀ m ∈ ended s.trace, ∃ o, Course t.terms m .unborn t.trace (.gone o)) ∧
      ∀ m, s.submitted ≤ m → Course t.terms m .unborn t.trace .unborn := by
  have kept {m : Nat} {b : Stage α} (hm : m ≠ n) (c : Course s.terms m .unborn s.trace b) :
      Course t.terms m .unborn t.trace b := by
    rw [hg.trace, hg.terms]
    exact c.others (own.ne hm)
  have nodup := h.nodup
  rw [before, List.map_cons, List.cons_append, List.nodup_cons] at nodup
  refine ⟨?_, ?_, ?_⟩
  · intro m b hm
    have stood : (m, b) ∈ s.stations := by
      rw [before]
      exact List.mem_cons_of_mem _ hm
    refine kept ?_ (h.told m b stood)
    rintro rfl
    exact nodup.1 (List.mem_append_left _ (List.mem_map.2 ⟨(m, b), hm, rfl⟩))
  · intro m hm
    obtain ⟨o, c⟩ := h.gone m hm
    refine ⟨o, kept ?_ c⟩
    rintro rfl
    exact nodup.1 (List.mem_append_right _ hm)
  · intro m hm
    have : n < s.submitted := by
      apply h.lt
      rw [before]
      exact List.mem_cons_self
    exact kept (by omega) (h.unborn m hm)

/-- A lookup that is carried on stands where its course has led, or has ended. -/
theorem Stories.carried (h : s.Stories) {es : List (Event α)} {n : Nat} {a b : Stage α}
    {rest : List (Nat × Stage α)} (hg : Grown ports s t es) (own : Own n es)
    (submitted : t.submitted = s.submitted) (live : a.Live) (before : s.stations = (n, a) :: rest)
    (course : Course s.terms n a es b) (landed : b.Live ∨ ∃ o, b = .gone o)
    (after : t.stations.Perm (b.station n ++ rest)) : t.Stories := by
  have here : Course t.terms n .unborn t.trace b := by
    rw [hg.trace, hg.terms]
    exact (h.told n a (by rw [before]; exact List.mem_cons_self)).trans course
  obtain ⟨others, gone, unborn⟩ := h.elsewhere hg own before
  have ended : (ended t.trace).Perm (b.ended n ++ ended s.trace) := by
    rw [hg.trace, ← course.ended_eq own live]
    exact ended_append es s.trace
  have one := Stage.station_append_ended landed n
  refine ⟨?_, ?_, ?_, ?_, ?_⟩
  · refine ((after.map Prod.fst).append ended).trans ?_
    have whole := h.partition
    rw [before, ← submitted, List.map_cons, List.cons_append, ← List.singleton_append,
      ← one] at whole
    refine List.Perm.trans ?_ whole
    rw [List.map_append, List.append_assoc, List.append_assoc]
    refine List.Perm.append_left _ ?_
    rw [← List.append_assoc, ← List.append_assoc]
    exact List.perm_append_comm.append_right _
  · rw [hg.trace, course.granted_append own live, submitted]
    exact h.numbers
  · intro m b' hm
    rcases List.mem_append.1 (after.mem_iff.1 hm) with hm | hm
    · obtain ⟨rfl, rfl⟩ := Stage.eq_of_mem_station hm
      exact here
    · exact others m b' hm
  · intro m hm
    rcases List.mem_append.1 (ended.mem_iff.1 hm) with hm | hm
    · rcases landed with lives | ⟨o, rfl⟩
      · rw [lives.ended] at hm
        cases hm
      · rw [show (Stage.gone o).ended n = [n] from one, List.mem_singleton] at hm
        exact ⟨o, hm ▸ here⟩
    · exact gone m hm
  · intro m hm
    rw [submitted] at hm
    exact unborn m hm

theorem Stories.move (h : s.Stories) (hm : Move ports s t) : t.Stories := by
  cases hm.progress with
  | aside _ grown submitted stations => exact h.aside grown submitted stations
  | born _ _ grown submitted stations => exact h.born grown submitted stations
  | carried grown own submitted live before course landed after =>
    exact h.carried grown own submitted live before course landed after

/-- In every reachable state each lookup has its story, and the counts are right. -/
theorem Reachable.stories {cap : Nat} {retries : Int} {transport : σ} {handler : η}
    (h : Reachable ports (idle cap retries transport handler read) s) :
    s.Stories ∧ Tally ports transport handler s := by
  refine h.kept (P := fun s => s.Stories ∧ Tally ports transport handler s) ?_ ?_
  · exact ⟨stories_idle cap retries transport handler, rfl, rfl, rfl, rfl⟩
  · rintro s t ⟨stories, tally⟩ hm
    exact ⟨stories.move hm, tally.move hm⟩

/-! ## What follows -/

/-- A lookup has no slot yet, or is on its course, or has ended: nothing of it is left halfway. -/
theorem Stories.exists_course (h : s.Stories) (n : Nat) :
    ∃ b, Course s.terms n .unborn s.trace b ∧
      (s.submitted ≤ n ∧ b = .unborn ∨ (n, b) ∈ s.stations ∨
        n ∈ ended s.trace ∧ ∃ o, b = .gone o) := by
  rcases Nat.lt_or_ge n s.submitted with hn | hn
  · rcases List.mem_append.1 (h.partition.mem_iff.2 (List.mem_range.2 hn)) with hn | hn
    · obtain ⟨⟨n, b⟩, hb, rfl⟩ := List.mem_map.1 hn
      exact ⟨b, h.told n b hb, .inr (.inl hb)⟩
    · obtain ⟨o, c⟩ := h.gone n hn
      exact ⟨_, c, .inr (.inr ⟨hn, o, rfl⟩)⟩
  · exact ⟨.unborn, h.unborn n hn, .inl ⟨hn, rfl⟩⟩

/-- At rest lookups stand nowhere but at queries that wait. -/
theorem stations_of_atRest (rest : s.AtRest) : s.stations = s.waiting.map Job.station := by
  unfold stations roll
  rw [rest]
  rfl

theorem live_of_mem_stations {n : Nat} {a : Stage α} (h : (n, a) ∈ s.stations) : a.Live := by
  rcases List.mem_append.1 h with h | h
  · obtain ⟨c, -, e⟩ := List.mem_filterMap.1 h
    cases c with
    | start l =>
      cases e
      exact Terms.live_begun ..
    | resume l reply =>
      cases e
      trivial
    | _ => cases e
  · obtain ⟨l, -, e⟩ := List.mem_map.1 h
    cases e
    trivial

/-- The handler is given the answers that lookups get, and no others. -/
theorem Stories.answered_iff (h : s.Stories) (n : Nat) (value : α) :
    (n, some value) ∈ handled s.trace ↔ (n, value) ∈ answers s.trace := by
  obtain ⟨b, c, hb⟩ := h.exists_course n
  rw [mem_handled, mem_answers, c.answered_iff, or_iff_right]
  rintro rfl
  rcases hb with ⟨-, e⟩ | hb | ⟨-, o, e⟩
  · cases e
  · exact live_of_mem_stations hb
  · cases e

/-- At rest a lookup that was given a slot waits for a reply, or has ended. -/
theorem Stories.settled (h : s.Stories) (rest : s.AtRest) {n call : Nat} {target : Target}
    (hg : (n, call, target) ∈ granted s.trace) : ∃ b, Course s.terms n .unborn s.trace b ∧
      ((∃ name left, b = .asking name left) ∨ ∃ o, b = .gone o) := by
  obtain ⟨b, c, hb⟩ := h.exists_course n
  refine ⟨b, c, ?_⟩
  rcases hb with ⟨-, rfl⟩ | hb | ⟨-, gone⟩
  · exact (c.spent (mem_granted.1 hg)).elim
  · rw [stations_of_atRest rest] at hb
    obtain ⟨l, -, e⟩ := List.mem_map.1 hb
    cases e
    exact .inl ⟨_, _, rfl⟩
  · exact .inr gone

/-- A lookup whose name is not well formed has ended at rest, and no query was made for it. -/
theorem Stories.barred (h : s.Stories) (rest : s.AtRest) {n call : Nat} {target : Target}
    (hg : (n, call, target) ∈ granted s.trace)
    (ill : (s.terms.read target.name).isWellFormed = false) :
    (∃ o, Course s.terms n .unborn s.trace (.gone o) ∧ (o = .gaveUp ∨ ∃ m, o = .unread m)) ∧
      ∀ name, .asked n name ∉ s.trace := by
  have none : s.terms.allowance target.name = 0 := by
    rw [Terms.allowance, ill]
    rfl
  obtain ⟨b, c, hb⟩ := h.settled rest hg
  have spent := c.spent (mem_granted.1 hg)
  rw [none] at spent
  have unasked (h0 : (eventsOf n s.trace).countP Event.isAsked = 0) (name : Text) :
      .asked n name ∉ s.trace := by
    intro ha
    exact List.countP_eq_zero.1 h0 _ (mem_eventsOf.2 ⟨ha, rfl⟩) rfl
  rcases hb with ⟨name, left, rfl⟩ | ⟨o, rfl⟩
  · obtain ⟨-, _, _⟩ := spent
    omega
  · cases o with
    | gaveUp => exact ⟨⟨_, c, .inl rfl⟩, unasked spent.1⟩
    | unread message => exact ⟨⟨_, c, .inr ⟨message, rfl⟩⟩, unasked spent.2.1⟩
    | answered value =>
      obtain ⟨_, _⟩ : _ ∧ _ := spent
      omega
    | broke message =>
      obtain ⟨_, _⟩ : _ ∧ _ := spent
      omega

/-- A lookup with a malformed name is given up without a query. -/
theorem Stories.malformed (h : s.Stories) (rest : s.AtRest) {n call : Nat} {target : Target}
    {message : String} (hg : (n, call, target) ∈ granted s.trace)
    (he : s.terms.read target.name = .malformed message) :
    (n, none) ∈ handled s.trace ∧ ∀ name, .asked n name ∉ s.trace := by
  obtain ⟨⟨o, c, ho⟩, unasked⟩ := h.barred rest hg (by rw [he]; rfl)
  refine ⟨?_, unasked⟩
  rcases ho with rfl | ⟨m, rfl⟩
  · have given : handled (eventsOf n s.trace) = [(n, none)] := c.handled_eventsOf
    have mem : (n, none) ∈ handled (eventsOf n s.trace) := by
      rw [given]
      exact List.mem_singleton_self _
    exact mem_handled.2 (mem_eventsOf.1 (mem_handled.1 mem)).1
  · have fits : s.terms.read target.name = .breakdown m := c.fits (mem_granted.1 hg)
    rw [he] at fits
    cases fits

theorem mem_unreads_eventsOf {n : Nat} {es : List (Event α)} :
    n ∈ unreads (eventsOf n es) ↔ n ∈ unreads es := by
  rw [mem_unreads, mem_unreads]
  constructor
  · rintro ⟨message, h⟩
    exact ⟨message, (mem_eventsOf.1 h).1⟩
  · rintro ⟨message, h⟩
    exact ⟨message, mem_eventsOf.2 ⟨h, rfl⟩⟩

/-- A transport that goes by the first letter of a name, and a handler that counts what it is given
and fails on answers. -/
def sample : Ports Unit Nat Nat where
  ask _ name := ⟨(), [], match name.head? with
    | some 'a' => some (.answer 1)
    | some 'f' => some .failure
    | some 'b' => some (.breakdown "broken")
    | _ => none⟩
  handle h response := ⟨h + 1, [], response.map fun _ => "refused"⟩

/-- A run whose lookups end in all ways; the third name is malformed, the fourth cannot be read at
all, and the last query waits. -/
def mixed : Scheduler Unit Nat Nat :=
  ((idle 2 1 () 0).receive (.run ⟨["a", "f", "", "\\²", "b", "w"].map fun x =>
    .candidate x.toList, none⟩ "d".toList)).advance sample 40

end Scheduler

end SelectorScan.Lookup
