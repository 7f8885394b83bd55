import Mathlib.Logic.Relation
import SelectorScan.Lookup.Scheduler

/-!
# The course of a lookup

A scheduler moves by `Step`s: it takes a turn, a call is made, or a waiting query is replied to;
calls and replies may come between any two turns. What happens to one lookup is told by the events
of its number: `Course` says which events may follow one another, and what each of them makes of the
lookup.

Everything a turn does with a lookup is said once, by `Carried`: the lookup is carried on along its
course until its query waits or until it is closed.

    Carried ports terms l (s.terms.begun l.name) s (s.start ports l)              (carried_start)
    Carried ports terms l (.asking l.name l.attempts) s (s.resume ports l reply) (carried_resume)
-/

namespace SelectorScan.Lookup

open Candidate

variable {σ η α : Type} {read : Text → Reading}

/-! ## Steps -/

namespace Scheduler

/-- One thing that happens to a scheduler. -/
inductive Step (ports : Ports σ η α) : Scheduler σ η α → Scheduler σ η α → Prop where
  | turn {s t : Scheduler σ η α} (h : s.turn? ports = some t) : Step ports s t
  | call {s : Scheduler σ η α} (request : Request) : Step ports s (s.receive request)
  | reply {s : Scheduler σ η α} {front back : List Job} {l : Job} (reply : Reply α)
      (h : s.waiting = front ++ l :: back) :
      Step ports s ({ s with waiting := front ++ back }.push (.resume l reply))

/-- The second scheduler is what the first one may become. -/
def Reachable (ports : Ports σ η α) : Scheduler σ η α → Scheduler σ η α → Prop :=
  Relation.ReflTransGen (Step ports)

/-- The second scheduler is what turns make of the first one. -/
def Turns (ports : Ports σ η α) : Scheduler σ η α → Scheduler σ η α → Prop :=
  Relation.ReflTransGen fun s t => s.turn? ports = some t

/-- Takes up to so many turns. -/
def advance (ports : Ports σ η α) : Nat → Scheduler σ η α → Scheduler σ η α
  | 0, s => s
  | n + 1, s =>
    match s.turn? ports with
    | none => s
    | some t => t.advance ports n

/-- Gives a reply to the oldest waiting query for a name, if one waits. -/
def delivered (name : Text) (reply : Reply α) (s : Scheduler σ η α) : Scheduler σ η α :=
  (s.deliver? name reply).getD s

/-- Nothing is ready to go on. -/
def AtRest (s : Scheduler σ η α) : Prop :=
  s.chores = []

end Scheduler

/-! ## Stages -/

/-- How a lookup ends. -/
inductive Outcome (α : Type) where
  | answered (value : α)
  | gaveUp
  | broke (message : String)
  | unread (message : String)

/-- What the handler is given about a lookup that has ended so. -/
def Outcome.response? : Outcome α → Option (Option α)
  | .answered value => some (some value)
  | .gaveUp => some none
  | .broke _ => none
  | .unread _ => none

/-- Lookup `n` and what the handler is given about it. -/
def Outcome.handled (n : Nat) (o : Outcome α) : List (Nat × Option α) :=
  o.response?.toList.map fun response => (n, response)

/-- Lookup `n` if it crashed. -/
def Outcome.crashed (n : Nat) : Outcome α → List Nat
  | .broke _ => [n]
  | _ => []

/-- Lookup `n` if its name could not be read. -/
def Outcome.unreads (n : Nat) : Outcome α → List Nat
  | .unread _ => [n]
  | _ => []

/-- How far a lookup has come. -/
inductive Stage (α : Type) where
  /-- It has no slot yet. -/
  | unborn
  /-- It has a slot, and its name cannot be read. -/
  | stuck (name : Text) (message : String)
  /-- It may still make so many attempts. -/
  | due (name : Text) (left : Nat)
  /-- Its query is out, and after it so many attempts are left. -/
  | asking (name : Text) (left : Nat)
  /-- Its query was answered. -/
  | answered (value : α)
  /-- It has ended and still has its slot. -/
  | closing (outcome : Outcome α)
  /-- It has given its slot back. -/
  | gone (outcome : Outcome α)

namespace Stage

/-- Lookup `n` and what the handler has been given about it. -/
def handled (n : Nat) : Stage α → List (Nat × Option α)
  | closing outcome => outcome.handled n
  | gone outcome => outcome.handled n
  | _ => []

/-- Lookup `n` if it has crashed. -/
def crashed (n : Nat) : Stage α → List Nat
  | closing outcome => outcome.crashed n
  | gone outcome => outcome.crashed n
  | _ => []

/-- Lookup `n` if its name could not be read. -/
def unreads (n : Nat) : Stage α → List Nat
  | closing outcome => outcome.unreads n
  | gone outcome => outcome.unreads n
  | _ => []

/-- How many queries of a lookup are out. -/
def queries : Stage α → Nat
  | asking _ _ => 1
  | _ => 0

end Stage

/-- How many attempts a lookup has for a name: none unless it is well formed. -/
def Terms.allowance (terms : Terms) (name : Text) : Nat :=
  if (terms.read name).isWellFormed then terms.attempts else 0

/-- The stage of a lookup that has just been given a slot. -/
def Terms.begun (terms : Terms) (name : Text) : Stage α :=
  match terms.read name with
  | .wellFormed => .due name terms.attempts
  | .malformed _ => .due name 0
  | .breakdown message => .stuck name message

def Job.begun (read : Text → Reading) (l : Job) : Stage α :=
  (⟨l.attempts, read⟩ : Terms).begun l.name

section
variable (terms : Terms) (name : Text)

theorem Terms.begun_cases :
    (terms.begun name : Stage α) = .due name (terms.allowance name) ∨
      ∃ message, terms.read name = .breakdown message ∧
        (terms.begun name : Stage α) = .stuck name message := by
  unfold begun allowance
  cases terms.read name with
  | wellFormed => exact .inl rfl
  | malformed message => exact .inl rfl
  | breakdown message => exact .inr ⟨message, rfl, rfl⟩

theorem Terms.begun_ne {a : Stage α} (due : ∀ left, .due name left ≠ a)
    (stuck : ∀ message, .stuck name message ≠ a) : terms.begun name ≠ a := by
  rcases terms.begun_cases name with e | ⟨message, -, e⟩
  · exact e ▸ due _
  · exact e ▸ stuck message

/-- A lookup that has just been given a slot has neither ended nor asked. -/
theorem Terms.fresh_begun (n : Nat) :
    (terms.begun name : Stage α).handled n = [] ∧ (terms.begun name : Stage α).crashed n = [] ∧
      (terms.begun name : Stage α).unreads n = [] ∧ (terms.begun name : Stage α).queries = 0 := by
  rcases terms.begun_cases (α := α) name with e | ⟨message, -, e⟩
  · rw [e]
    exact ⟨rfl, rfl, rfl, rfl⟩
  · rw [e]
    exact ⟨rfl, rfl, rfl, rfl⟩

end

theorem Job.queries_begun (l : Job) : (l.begun read : Stage α).queries = 0 :=
  (Terms.fresh_begun _ _ l.number).2.2.2

/-- Of the attempts that a lookup of the given name is allowed, so many were used and so many of
them failed when it came to a stage. -/
def Stage.Spent (name : Text) (allowed asked failed : Nat) : Stage α → Prop
  | .unborn => False
  | .stuck name' _ => name' = name ∧ allowed = 0 ∧ asked = 0 ∧ failed = 0
  | .due name' left => name' = name ∧ left + asked = allowed ∧ failed = asked
  | .asking name' left => name' = name ∧ left + asked = allowed ∧ failed + 1 = asked
  | .closing .gaveUp => asked = allowed ∧ failed = allowed
  | .gone .gaveUp => asked = allowed ∧ failed = allowed
  | .closing (.unread _) => allowed = 0 ∧ asked = 0 ∧ failed = 0
  | .gone (.unread _) => allowed = 0 ∧ asked = 0 ∧ failed = 0
  | _ => failed + 1 = asked ∧ asked ≤ allowed

/-- A lookup whose name is read so may be at the stage. -/
def Stage.Fits (reading : Reading) : Stage α → Prop
  | .unborn => False
  | .stuck _ message => reading = .breakdown message
  | .closing (.unread message) => reading = .breakdown message
  | .gone (.unread message) => reading = .breakdown message
  | _ => ∀ message, reading ≠ .breakdown message

theorem Terms.fits_begun (terms : Terms) (name : Text) :
    (terms.begun name : Stage α).Fits (terms.read name) := by
  unfold begun
  cases terms.read name with
  | wellFormed => exact nofun
  | malformed message => exact nofun
  | breakdown message => exact rfl

namespace Event

def lookup? : Event α → Option Nat
  | granted n _ _ => some n
  | unread n _ => some n
  | asked n _ => some n
  | replied n _ => some n
  | handled n _ => some n
  | released n => some n
  | logged _ => none

/-- A lookup that is given a slot, and which call and what it is for. -/
def granted? : Event α → Option (Nat × Nat × Target)
  | granted n call target => some (n, call, target)
  | _ => none

/-- A lookup that asks, and the name that it asks for. -/
def asked? : Event α → Option (Nat × Text)
  | asked n name => some (n, name)
  | _ => none

/-- A lookup and what the handler is given about it. -/
def handled? : Event α → Option (Nat × Option α)
  | handled n response => some (n, response)
  | _ => none

def answer? : Event α → Option (Nat × α)
  | replied n (.answer value) => some (n, value)
  | _ => none

def crashed? : Event α → Option Nat
  | replied n (.breakdown _) => some n
  | _ => none

/-- A lookup whose name cannot be read. -/
def unread? : Event α → Option Nat
  | unread n _ => some n
  | _ => none

def isAsked : Event α → Bool
  | asked _ _ => true
  | _ => false

def isReplied : Event α → Bool
  | replied _ _ => true
  | _ => false

def isFailure : Event α → Bool
  | replied _ .failure => true
  | _ => false

end Event

/-- The events, the latest first, lead the lookup with number `n` from stage `a` to another one. -/
inductive Course (terms : Terms) (n : Nat) (a : Stage α) : List (Event α) → Stage α → Prop where
  | nil : Course terms n a [] a
  | other {e : Event α} {past : List (Event α)} {b : Stage α} (h : Course terms n a past b)
      (he : e.lookup? ≠ some n) : Course terms n a (e :: past) b
  | granted {call : Nat} {target : Target} {past : List (Event α)}
      (h : Course terms n a past .unborn) :
      Course terms n a (.granted n call target :: past) (terms.begun target.name)
  | unread {name : Text} {message : String} {past : List (Event α)}
      (h : Course terms n a past (.stuck name message)) :
      Course terms n a (.unread n message :: past) (.closing (.unread message))
  | asked {name : Text} {left : Nat} {past : List (Event α)}
      (h : Course terms n a past (.due name (left + 1))) :
      Course terms n a (.asked n name :: past) (.asking name left)
  | failed {name : Text} {left : Nat} {past : List (Event α)}
      (h : Course terms n a past (.asking name left)) :
      Course terms n a (.replied n .failure :: past) (.due name left)
  | answered {name : Text} {left : Nat} {value : α} {past : List (Event α)}
      (h : Course terms n a past (.asking name left)) :
      Course terms n a (.replied n (.answer value) :: past) (.answered value)
  | broke {name : Text} {left : Nat} {message : String} {past : List (Event α)}
      (h : Course terms n a past (.asking name left)) :
      Course terms n a (.replied n (.breakdown message) :: past) (.closing (.broke message))
  | handled {value : α} {past : List (Event α)} (h : Course terms n a past (.answered value)) :
      Course terms n a (.handled n (some value) :: past) (.closing (.answered value))
  | gaveUp {name : Text} {past : List (Event α)} (h : Course terms n a past (.due name 0)) :
      Course terms n a (.handled n none :: past) (.closing .gaveUp)
  | released {outcome : Outcome α} {past : List (Event α)}
      (h : Course terms n a past (.closing outcome)) :
      Course terms n a (.released n :: past) (.gone outcome)

/-- The lookups that were given slots, the latest first. -/
def granted (events : List (Event α)) : List (Nat × Nat × Target) :=
  events.filterMap Event.granted?

/-- The lookups that asked, with the names that they asked for, the latest first. -/
def asked (events : List (Event α)) : List (Nat × Text) :=
  events.filterMap Event.asked?

/-- What lookups were answered, the latest first. -/
def answers (events : List (Event α)) : List (Nat × α) :=
  events.filterMap Event.answer?

/-- What the handler was given about which lookup, the latest first. -/
def handled (events : List (Event α)) : List (Nat × Option α) :=
  events.filterMap Event.handled?

/-- The lookups that crashed, the latest first. -/
def crashed (events : List (Event α)) : List Nat :=
  events.filterMap Event.crashed?

/-- The lookups whose names could not be read, the latest first. -/
def unreads (events : List (Event α)) : List Nat :=
  events.filterMap Event.unread?

/-- The lookups that have ended, or are about to. -/
def ended (events : List (Event α)) : List Nat :=
  (handled events).map Prod.fst ++ crashed events ++ unreads events

theorem mem_granted {n call : Nat} {target : Target} {es : List (Event α)} :
    (n, call, target) ∈ granted es ↔ .granted n call target ∈ es := by
  rw [granted, List.mem_filterMap]
  constructor
  · rintro ⟨e, he, h⟩
    cases e <;> cases h
    exact he
  · intro h
    exact ⟨_, h, rfl⟩

theorem mem_answers {n : Nat} {value : α} {es : List (Event α)} :
    (n, value) ∈ answers es ↔ .replied n (.answer value) ∈ es := by
  rw [answers, List.mem_filterMap]
  constructor
  · rintro ⟨e, he, h⟩
    unfold Event.answer? at h
    split at h <;> cases h
    exact he
  · intro h
    exact ⟨_, h, rfl⟩

theorem mem_unreads {n : Nat} {es : List (Event α)} :
    n ∈ unreads es ↔ ∃ message, .unread n message ∈ es := by
  rw [unreads, List.mem_filterMap]
  constructor
  · rintro ⟨e, he, h⟩
    cases e <;> cases h
    exact ⟨_, he⟩
  · rintro ⟨message, h⟩
    exact ⟨_, h, rfl⟩

theorem mem_handled {n : Nat} {response : Option α} {es : List (Event α)} :
    (n, response) ∈ handled es ↔ .handled n response ∈ es := by
  rw [handled, List.mem_filterMap]
  constructor
  · rintro ⟨e, he, h⟩
    cases e <;> cases h
    exact he
  · intro h
    exact ⟨_, h, rfl⟩

/-- The events are those of one lookup, and log entries. -/
def Own (n : Nat) (events : List (Event α)) : Prop :=
  ∀ e ∈ events, e.lookup? = none ∨ e.lookup? = some n

def eventsOf (n : Nat) (events : List (Event α)) : List (Event α) :=
  events.filter fun e => e.lookup? == some n

theorem eventsOf_cons {n : Nat} {e : Event α} {es : List (Event α)} (h : e.lookup? = some n) :
    eventsOf n (e :: es) = e :: eventsOf n es :=
  List.filter_cons_of_pos (by simp [h])

theorem eventsOf_cons_ne {n : Nat} {e : Event α} {es : List (Event α)} (h : e.lookup? ≠ some n) :
    eventsOf n (e :: es) = eventsOf n es :=
  List.filter_cons_of_neg (by simp [h])

/-- An event of a lookup is not found among those of others. -/
theorem mem_cons_of_lookup? {n : Nat} {e e' : Event α} {es : List (Event α)}
    (he : e.lookup? ≠ some n) (he' : e'.lookup? = some n) : e' ∈ e :: es ↔ e' ∈ es := by
  rw [List.mem_cons, or_iff_right]
  rintro rfl
  exact he he'

theorem mem_eventsOf {n : Nat} {e : Event α} {es : List (Event α)} :
    e ∈ eventsOf n es ↔ e ∈ es ∧ e.lookup? = some n := by
  rw [eventsOf, List.mem_filter, beq_iff_eq]

theorem own_eventsOf (n : Nat) (es : List (Event α)) : Own n (eventsOf n es) := by
  intro e he
  exact .inr (mem_eventsOf.1 he).2

theorem Event.eq_logged {e : Event α} (h : e.lookup? = none) : ∃ entry, e = .logged entry := by
  cases e with
  | logged entry => exact ⟨entry, rfl⟩
  | _ => simp [Event.lookup?] at h

/-- They are not events of other lookups. -/
theorem Own.ne {n m : Nat} {es : List (Event α)} (h : Own n es) (hm : m ≠ n) :
    ∀ e ∈ es, e.lookup? ≠ some m := by
  intro e he hs
  rcases h e he with hn | hn
  · rw [hn] at hs
    cases hs
  · rw [hn] at hs
    exact hm (Option.some.inj hs).symm

theorem Own.tail {n : Nat} {e : Event α} {es : List (Event α)} (h : Own n (e :: es)) : Own n es :=
  (List.forall_mem_cons.1 h).2

theorem Own.append {n : Nat} {es es' : List (Event α)} (h : Own n es) (h' : Own n es') :
    Own n (es ++ es') := by
  intro e he
  exact (List.mem_append.1 he).elim (h e) (h' e)

theorem own_singleton {n : Nat} {e : Event α} (h : e.lookup? = some n) : Own n [e] := by
  intro e' he
  obtain rfl := List.mem_singleton.1 he
  exact .inr h

theorem own_logs (n : Nat) (entries : List Log.Entry) :
    Own n ((entries.map (Event.logged (α := α))).reverse) := by
  intro e he
  obtain ⟨entry, -, rfl⟩ := List.mem_map.1 (List.mem_reverse.1 he)
  exact .inl rfl

/-- Log entries are not found by what looks for events of lookups. -/
theorem filterMap_logs_append {β : Type} {f : Event α → Option β}
    (hf : ∀ entry, f (.logged entry) = none) (entries : List Log.Entry) (es : List (Event α)) :
    ((entries.map Event.logged).reverse ++ es).filterMap f = es.filterMap f := by
  rw [← List.map_reverse]
  induction entries.reverse with
  | nil => rfl
  | cons entry entries ih => exact (List.filterMap_cons_none (hf entry)).trans ih

theorem Own.logged {n : Nat} {e : Event α} {es : List (Event α)} (h : Own n (e :: es))
    (he : e.lookup? ≠ some n) : ∃ entry, e = .logged entry :=
  Event.eq_logged (((List.forall_mem_cons.1 h).1).resolve_right he)

namespace Course

variable {terms : Terms} {n : Nat} {a b c : Stage α} {past es : List (Event α)}

/-- One course may follow another. -/
theorem trans (h : Course terms n a past b) (h' : Course terms n b es c) :
    Course terms n a (es ++ past) c := by
  induction h' with
  | nil => exact h
  | other _ he ih => exact ih.other he
  | granted _ ih => exact ih.granted
  | unread _ ih => exact ih.unread
  | asked _ ih => exact ih.asked
  | failed _ ih => exact ih.failed
  | answered _ ih => exact ih.answered
  | broke _ ih => exact ih.broke
  | handled _ ih => exact ih.handled
  | gaveUp _ ih => exact ih.gaveUp
  | released _ ih => exact ih.released

/-- What happens to other lookups leaves a lookup where it is. -/
theorem others (h : Course terms n a past b) (hes : ∀ e ∈ es, e.lookup? ≠ some n) :
    Course terms n a (es ++ past) b := by
  induction es with
  | nil => exact h
  | cons e es ih =>
    have rest : Course terms n a (es ++ past) b := by
      apply ih
      intro e' he'
      exact hes e' (List.mem_cons_of_mem _ he')
    exact rest.other (hes e List.mem_cons_self)

/-- Log entries leave a lookup where it is. -/
theorem logs (h : Course terms n a past b) (entries : List Log.Entry) :
    Course terms n a ((entries.map Event.logged).reverse ++ past) b := by
  apply h.others
  intro e he
  obtain ⟨entry, -, rfl⟩ := List.mem_map.1 (List.mem_reverse.1 he)
  simp [Event.lookup?]

/-- The events of one lookup are a course of their own. -/
theorem ownEvents (h : Course terms n a es b) :
    Course terms n a (eventsOf n es) b := by
  induction h with
  | nil => exact .nil
  | other _ he ih => rwa [eventsOf_cons_ne he]
  | granted _ ih => rw [eventsOf_cons rfl]; exact ih.granted
  | unread _ ih => rw [eventsOf_cons rfl]; exact ih.unread
  | asked _ ih => rw [eventsOf_cons rfl]; exact ih.asked
  | failed _ ih => rw [eventsOf_cons rfl]; exact ih.failed
  | answered _ ih => rw [eventsOf_cons rfl]; exact ih.answered
  | broke _ ih => rw [eventsOf_cons rfl]; exact ih.broke
  | handled _ ih => rw [eventsOf_cons rfl]; exact ih.handled
  | gaveUp _ ih => rw [eventsOf_cons rfl]; exact ih.gaveUp
  | released _ ih => rw [eventsOf_cons rfl]; exact ih.released

/-- The stage says what the handler has been given. -/
theorem handled_append (h : Course terms n a es b) (own : Own n es) :
    Lookup.handled es ++ a.handled n = b.handled n := by
  induction h with
  | nil => rfl
  | other _ he ih =>
    obtain ⟨entry, rfl⟩ := own.logged he
    exact ih own.tail
  | @handled value past _ ih => exact congrArg ((n, some value) :: ·) (ih own.tail)
  | @gaveUp name past _ ih => exact congrArg ((n, none) :: ·) (ih own.tail)
  | granted _ ih => exact (ih own.tail).trans (terms.fresh_begun _ n).1.symm
  | _ _ ih => exact ih own.tail

theorem handled_eventsOf (h : Course terms n .unborn es b) :
    Lookup.handled (eventsOf n es) = b.handled n := by
  rw [← h.ownEvents.handled_append (own_eventsOf n es)]
  exact (List.append_nil _).symm

/-- The stage says whether the lookup has crashed. -/
theorem crashed_append (h : Course terms n a es b) (own : Own n es) :
    Lookup.crashed es ++ a.crashed n = b.crashed n := by
  induction h with
  | nil => rfl
  | other _ he ih =>
    obtain ⟨entry, rfl⟩ := own.logged he
    exact ih own.tail
  | broke _ ih => exact congrArg (n :: ·) (ih own.tail)
  | granted _ ih => exact (ih own.tail).trans (terms.fresh_begun _ n).2.1.symm
  | _ _ ih => exact ih own.tail

/-- The stage says whether the name of the lookup could not be read. -/
theorem unreads_append (h : Course terms n a es b) (own : Own n es) :
    Lookup.unreads es ++ a.unreads n = b.unreads n := by
  induction h with
  | nil => rfl
  | other _ he ih =>
    obtain ⟨entry, rfl⟩ := own.logged he
    exact ih own.tail
  | granted _ ih => exact (ih own.tail).trans (terms.fresh_begun _ n).2.2.1.symm
  | unread _ ih => exact congrArg (n :: ·) (ih own.tail)
  | _ _ ih => exact ih own.tail

theorem unreads_eventsOf (h : Course terms n .unborn es b) :
    Lookup.unreads (eventsOf n es) = b.unreads n := by
  rw [← h.ownEvents.unreads_append (own_eventsOf n es)]
  exact (List.append_nil _).symm

/-- The stage says whether a query is out. -/
theorem queries (h : Course terms n a es b) (own : Own n es) :
    es.countP Event.isAsked + a.queries = es.countP Event.isReplied + b.queries := by
  induction h with
  | nil => rfl
  | other _ he ih =>
    obtain ⟨entry, rfl⟩ := own.logged he
    exact ih own.tail
  | asked _ ih =>
    have := ih own.tail
    rw [List.countP_cons_of_pos rfl, List.countP_cons_of_neg Bool.false_ne_true]
    simp only [Stage.queries] at this ⊢
    omega
  | failed _ ih | answered _ ih | broke _ ih =>
    have := ih own.tail
    rw [List.countP_cons_of_neg Bool.false_ne_true, List.countP_cons_of_pos rfl]
    simp only [Stage.queries] at this ⊢
    omega
  | granted _ ih =>
    rw [(terms.fresh_begun _ n).2.2.2]
    exact ih own.tail
  | _ _ ih => exact ih own.tail

/-- A lookup without a slot has no events. -/
theorem eventsOf_eq_nil (h : Course terms n a es b) (hb : b = .unborn) : eventsOf n es = [] := by
  induction h with
  | nil => rfl
  | other _ he ih => rw [eventsOf_cons_ne he, ih hb]
  | granted => exact absurd hb (terms.begun_ne _ nofun nofun)
  | _ => cases hb

/-- A lookup uses up the attempts that it is allowed before it gives up. -/
theorem spent {call : Nat} {target : Target} (h : Course terms n .unborn es b)
    (hg : .granted n call target ∈ es) :
    b.Spent target.name (terms.allowance target.name) ((eventsOf n es).countP Event.isAsked)
      ((eventsOf n es).countP Event.isFailure) := by
  induction h with
  | nil => cases hg
  | other _ he ih =>
    rw [eventsOf_cons_ne he]
    exact ih ((mem_cons_of_lookup? he rfl).1 hg)
  | granted h ih =>
    rcases List.mem_cons.1 hg with e | hg
    · cases e
      rw [eventsOf_cons rfl, h.eventsOf_eq_nil rfl]
      rcases terms.begun_cases (α := α) target.name with e | ⟨message, read, e⟩
      · rw [e]
        exact ⟨rfl, rfl, rfl⟩
      · rw [e, Terms.allowance, read]
        exact ⟨rfl, rfl, rfl, rfl⟩
    · exact (ih hg).elim
  | unread _ ih =>
    rw [eventsOf_cons rfl]
    exact (ih ((List.mem_cons.1 hg).resolve_left nofun)).2
  | asked _ ih =>
    obtain ⟨rfl, _, _⟩ := ih ((List.mem_cons.1 hg).resolve_left nofun)
    rw [eventsOf_cons rfl, List.countP_cons_of_pos rfl, List.countP_cons_of_neg Bool.false_ne_true]
    exact ⟨rfl, by omega, by omega⟩
  | failed _ ih =>
    obtain ⟨rfl, _, _⟩ := ih ((List.mem_cons.1 hg).resolve_left nofun)
    rw [eventsOf_cons rfl, List.countP_cons_of_neg Bool.false_ne_true, List.countP_cons_of_pos rfl]
    exact ⟨rfl, by omega, by omega⟩
  | answered _ ih | broke _ ih =>
    obtain ⟨-, _, _⟩ := ih ((List.mem_cons.1 hg).resolve_left nofun)
    rw [eventsOf_cons rfl, List.countP_cons_of_neg Bool.false_ne_true,
      List.countP_cons_of_neg Bool.false_ne_true]
    exact ⟨by omega, by omega⟩
  | handled _ ih =>
    rw [eventsOf_cons rfl]
    exact ih ((List.mem_cons.1 hg).resolve_left nofun)
  | gaveUp _ ih =>
    obtain ⟨-, _, _⟩ := ih ((List.mem_cons.1 hg).resolve_left nofun)
    rw [eventsOf_cons rfl, List.countP_cons_of_neg Bool.false_ne_true,
      List.countP_cons_of_neg Bool.false_ne_true]
    exact ⟨by omega, by omega⟩
  | @released outcome _ _ ih =>
    rw [eventsOf_cons rfl]
    have := ih ((List.mem_cons.1 hg).resolve_left nofun)
    cases outcome <;> exact this

/-- Only a lookup whose name cannot be read at all is stuck, and ends so. -/
theorem fits {call : Nat} {target : Target} (h : Course terms n .unborn es b)
    (hg : .granted n call target ∈ es) : b.Fits (terms.read target.name) := by
  induction h with
  | nil => cases hg
  | other _ he ih => exact ih ((mem_cons_of_lookup? he rfl).1 hg)
  | @granted _ _ _ h ih =>
    rcases List.mem_cons.1 hg with e | hg
    · cases e
      exact terms.fits_begun target.name
    · exact (ih hg).elim
  | @released outcome _ _ ih =>
    have := ih ((List.mem_cons.1 hg).resolve_left nofun)
    cases outcome <;> exact this
  | _ _ ih => exact ih ((List.mem_cons.1 hg).resolve_left nofun)

/-- What a lookup was answered is handed to the handler before the lookup ends, and nothing else. -/
theorem answered_iff {value : α} (h : Course terms n .unborn es b) :
    .replied n (.answer value) ∈ es ↔ b = .answered value ∨ .handled n (some value) ∈ es := by
  induction h with
  | nil => simp
  | other _ he ih =>
    rw [mem_cons_of_lookup? he rfl, mem_cons_of_lookup? he rfl]
    exact ih
  | @granted _ target _ _ ih =>
    have fresh : terms.begun target.name ≠ .answered value := terms.begun_ne _ nofun nofun
    simpa [fresh] using ih
  | answered _ ih => simp [ih, eq_comm]
  | handled _ ih => simp [ih, eq_comm]
  | _ _ ih => simpa using ih

end Course

/-! ## What a turn does with a lookup -/

/-- The transport once it has been asked what the events, the latest first, say. -/
def Ports.askAll (ports : Ports σ η α) (transport : σ) (events : List (Event α)) : σ :=
  (asked events).foldr (fun q transport => (ports.ask transport q.2).state) transport

theorem Ports.askAll_append (ports : Ports σ η α) (transport : σ) (es past : List (Event α)) :
    ports.askAll transport (es ++ past) = ports.askAll (ports.askAll transport past) es := by
  unfold askAll asked
  rw [List.filterMap_append, List.foldr_append]

theorem Ports.askAll_logs_append (ports : Ports σ η α) (transport : σ) (entries : List Log.Entry)
    (es : List (Event α)) :
    ports.askAll transport ((entries.map Event.logged).reverse ++ es) =
      ports.askAll transport es := by
  unfold askAll asked
  rw [filterMap_logs_append fun _ => rfl]

theorem Ports.askAll_logs (ports : Ports σ η α) (transport : σ) (entries : List Log.Entry) :
    ports.askAll transport (entries.map Event.logged).reverse = transport := by
  have none := ports.askAll_logs_append transport entries []
  rwa [List.append_nil] at none

namespace Scheduler

/-- The second scheduler is what the first one becomes when a lookup at stage `a` is carried on:
either a query of the lookup waits, or the lookup is closed. -/
inductive Carried (ports : Ports σ η α) (terms : Terms) (l : Job) (a : Stage α)
    (s : Scheduler σ η α) : Scheduler σ η α → Prop where
  | waits (es : List (Event α)) (left : Nat)
      (course : Course terms l.number a es (.asking l.name left)) (own : Own l.number es) :
      Carried ports terms l a s
        { s with
          transport := ports.askAll s.transport es
          waiting := s.waiting ++ [{ l with attempts := left }]
          trace := es ++ s.trace }
  | ends (es : List (Event α)) (outcome : Outcome α) (error : Option String)
      (course : Course terms l.number a es (.closing outcome)) (own : Own l.number es) :
      Carried ports terms l a s
        (close l error { s with
          transport := ports.askAll s.transport es
          handler := outcome.response?.elim s.handler fun r => (ports.handle s.handler r).state
          completed := s.completed + outcome.response?.toList.countP Option.isSome
          failed := s.failed + outcome.response?.toList.countP Option.isNone
          trace := es ++ s.trace })

variable {ports : Ports σ η α} {terms : Terms} {l : Job} {a b : Stage α} {s t : Scheduler σ η α}

/-- What happened before may be put in front. -/
theorem Carried.after (es : List (Event α)) {transport : σ}
    (queries : transport = ports.askAll s.transport es)
    (course : Course terms l.number a es b) (own : Own l.number es)
    (h : Carried ports terms l b { s with transport, trace := es ++ s.trace } t) :
    Carried ports terms l a s t := by
  subst queries
  cases h with
  | waits es' left course' own' =>
    have h : Carried ports terms l a s _ :=
      .waits (es' ++ es) left (course.trans course') (own'.append own)
    rwa [List.append_assoc, Ports.askAll_append] at h
  | ends es' outcome error course' own' =>
    have h : Carried ports terms l a s _ :=
      .ends (es' ++ es) outcome error (course.trans course') (own'.append own)
    rwa [List.append_assoc, Ports.askAll_append] at h

/-- So may log entries. -/
theorem Carried.afterLogs (entries : List Log.Entry)
    (h : Carried ports terms l a (s.logAll entries) t) : Carried ports terms l a s t :=
  .after (entries.map Event.logged).reverse (ports.askAll_logs ..).symm
    (List.append_nil (entries.map Event.logged).reverse ▸ Course.logs .nil entries)
    (own_logs _ entries) h

/-- A lookup that the handler is given a response about is closed. -/
theorem carried_finish {r : Option α} {outcome : Outcome α} (hr : outcome.response? = some r)
    (course : Course terms l.number a [.handled l.number r] (.closing outcome))
    (s : Scheduler σ η α) : Carried ports terms l a s (s.finish ports l r) := by
  have h : Carried ports terms l a s _ :=
    .ends _ outcome (ports.handle s.handler r).error
      (course.logs (ports.handle s.handler r).notes) ((own_logs _ _).append (own_singleton rfl))
  have unasked : ports.askAll s.transport [.handled l.number r] = s.transport := rfl
  rw [hr, Ports.askAll_logs_append, unasked] at h
  cases r <;> simpa [finish, record, logAll] using h

theorem carried_conclude {left : Nat} {again : Scheduler σ η α → Scheduler σ η α}
    (h : ∀ s, Carried ports terms l (.due l.name left) s (again s)) (reply : Reply α)
    (s : Scheduler σ η α) :
    Carried ports terms l (.asking l.name left) s (s.conclude ports l left reply again) := by
  unfold conclude
  cases reply with
  | answer value =>
    refine .after [.replied l.number (.answer value)] rfl (.answered .nil) (own_singleton rfl) ?_
    exact carried_finish (by rfl) (.handled .nil) _
  | breakdown message =>
    exact .ends [.replied l.number (.breakdown message)] (.broke message) (some message)
      (.broke .nil) (own_singleton rfl)
  | failure =>
    refine .after [.replied l.number .failure] rfl (.failed .nil) (own_singleton rfl) ?_
    exact .afterLogs _ (h _)

theorem carried_pursue (left : Nat) (s : Scheduler σ η α) :
    Carried ports terms l (.due l.name left) s (s.pursue ports l left) := by
  induction left generalizing s with
  | zero => exact carried_finish (by rfl) (.gaveUp .nil) s
  | succ left ih =>
    refine .after [.asked l.number l.name] rfl (.asked .nil) (own_singleton rfl)
      (.afterLogs (ports.ask s.transport l.name).notes ?_)
    simp only [pursue]
    split
    · exact .waits [] left .nil (by simp [Own])
    · exact carried_conclude ih _ _

/-- Starting a lookup carries it on from its beginning. -/
theorem carried_start (l : Job) (s : Scheduler σ η α) :
    Carried ports terms l (l.begun s.terms.read) s (s.start ports l) := by
  unfold start Job.begun Terms.begun
  cases s.terms.read l.name with
  | wellFormed => exact carried_pursue _ _
  | malformed message =>
    apply Carried.afterLogs
    exact carried_finish (by rfl) (.gaveUp .nil) _
  | breakdown message =>
    exact .ends [.unread l.number message] (.unread message) (some message) (.unread .nil)
      (own_singleton rfl)

/-- Going on with a lookup carries it on from its query. -/
theorem carried_resume (l : Job) (reply : Reply α) (s : Scheduler σ η α) :
    Carried ports terms l (.asking l.name l.attempts) s (s.resume ports l reply) :=
  carried_conclude (carried_pursue _) _ _

/-! ## Turns and calls -/

@[simp] theorem chores_push (c : Chore α) (s : Scheduler σ η α) :
    (s.push c).chores = s.chores ++ [c] :=
  Queue.toList_push c s.ready

/-- A turn does the first chore. -/
theorem exists_perform_of_turn? (h : s.turn? ports = some t) :
    ∃ (c : Chore α) (rest : Queue (Chore α)),
      s.chores = c :: rest.toList ∧ t = { s with ready := rest }.perform ports c := by
  obtain ⟨⟨c, rest⟩, hp, rfl⟩ := Option.map_eq_some_iff.1 h
  exact ⟨c, rest, Queue.toList_of_pop? hp, rfl⟩

theorem turn?_eq_none_iff : s.turn? ports = none ↔ s.AtRest := by
  unfold turn? AtRest chores
  rw [Option.map_eq_none_iff, Queue.pop?_eq_none_iff]

/-- Handing out a slot takes a free one for the next call that waits, if one has none yet. -/
theorem wake_cases (s : Scheduler σ η α) :
    s.handed < s.asks.length ∧
        s.wake = { s with free := s.free - 1, handed := s.handed + 1 }.push .enter ∨
      s.asks.length ≤ s.handed ∧ s.wake = s := by
  unfold wake
  split
  · next h => exact .inl ⟨h, rfl⟩
  · next h => exact .inr ⟨Nat.le_of_not_lt h, rfl⟩

/-- All else stays as it is. -/
theorem exists_wake (s : Scheduler σ η α) : ∃ free handed ready,
    s.wake = { s with free, handed, ready } := by
  rcases s.wake_cases with ⟨-, e⟩ | ⟨-, e⟩
  · exact ⟨_, _, _, e⟩
  · exact ⟨_, _, _, e⟩

/-- Closing a lookup changes nothing but slots, chores and the trace. -/
theorem exists_close (l : Job) (error : Option String) (s : Scheduler σ η α) :
    ∃ free handed ready, s.close l error =
      { s with free, handed, ready, trace := .released l.number :: s.trace } := by
  obtain ⟨free, handed, ready, e⟩ :=
    exists_wake ({ s with free := s.free + 1 }.record (.released l.number))
  exact ⟨free, handed, _, congrArg (push (.leave l.number error)) e⟩

/-- A call that accepts its slot changes nothing but slots, wishes and chores. -/
theorem exists_accept (asks : List Ask) (s : Scheduler σ η α) :
    ∃ free handed ready, s.accept asks = { s with free, handed, ready, asks } := by
  simp only [accept]
  split
  · exact ⟨_, _, _, rfl⟩
  · obtain ⟨free, handed, ready, e⟩ := exists_wake { s with asks, handed := s.handed - 1 }
    exact ⟨free, handed, ready, e⟩

/-- What carrying on a lookup leaves as it is. -/
structure Frame (s t : Scheduler σ η α) : Prop where
  cap : t.cap = s.cap
  terms : t.terms = s.terms
  asks : t.asks = s.asks
  flight : t.flight = s.flight
  drains : t.drains = s.drains
  requests : t.requests = s.requests
  calls : t.calls = s.calls
  submitted : t.submitted = s.submitted

theorem Carried.frame (h : Carried ports terms l a s t) : Frame s t := by
  cases h with
  | waits => exact ⟨rfl, rfl, rfl, rfl, rfl, rfl, rfl, rfl⟩
  | ends es outcome error =>
    obtain ⟨free, handed, ready, e⟩ := exists_close l error _
    rw [e]
    exact ⟨rfl, rfl, rfl, rfl, rfl, rfl, rfl, rfl⟩

/-- What holds of a run that goes on with some items, and is kept by log entries and new lookups,
leads to what holds once the run waits, fails or drains. -/
theorem pull_induct {P : List Item → Scheduler σ η α → Prop} {Q : Scheduler σ η α → Prop}
    {call : Nat} {domain : Text} {fault : Option Fault}
    (note : ∀ s entry rest, P (.note entry :: rest) s → P rest (s.logAll [entry]))
    (launch : ∀ s selector rest, s.vacant = true → P (.candidate selector :: rest) s →
      P rest (s.take.launch call selector domain))
    (wait : ∀ s selector rest, s.vacant = false → P (.candidate selector :: rest) s →
      Q (s.enqueue ⟨call, selector, domain, some ⟨rest, fault⟩⟩))
    (fail : ∀ s f, fault = some f → P [] s → Q (s.setCall call (.failed f)))
    (drain : ∀ s entry, fault = none → P [] s → Q ((s.logAll [entry]).look call (some domain)))
    (items : List Item) (s : Scheduler σ η α) (h : P items s) :
    Q (s.pull call domain fault items) := by
  induction items generalizing s with
  | nil =>
    unfold pull
    split
    · exact fail s _ rfl h
    · exact drain s _ rfl h
  | cons item rest ih =>
    cases item with
    | note entry => exact ih _ (note s entry rest h)
    | candidate selector =>
      unfold pull
      split
      · next hv => exact ih _ (launch s selector rest hv h)
      · next hv => exact wait s selector rest (by simpa using hv) h

/-- The parts that steps are made of. Between any two of them the slots and the lookups of a
scheduler are accounted for; its calls need not be. -/
inductive Move (ports : Ports σ η α) (s : Scheduler σ η α) : Scheduler σ η α → Prop where
  | log (entries : List Log.Entry) : Move ports s (s.logAll entries)
  | call (request : Request) : Move ports s
      { s with requests := s.requests ++ [request], calls := s.calls ++ [Call.waiting] }
  | setCall (call : Nat) (c : Call) : Move ports s (s.setCall call c)
  | admitted (call : Nat) (selector : Points) (domain : Text) (h : s.vacant = true) :
      Move ports s (s.take.launch call selector domain)
  | wait (ask : Ask) (h : s.vacant = false) : Move ports s (s.enqueue ask)
  | drain (call : Nat) (domain : Option Text) (h : s.flight ≠ []) :
      Move ports s { s with drains := s.drains ++ [⟨call, domain, s.flight⟩] }
  | reply {front back : List Job} {l : Job} (reply : Reply α) (h : s.waiting = front ++ l :: back) :
      Move ports s ({ s with waiting := front ++ back }.push (.resume l reply))
  | start {l : Job} {rest : Queue (Chore α)} {t : Scheduler σ η α}
      (hc : s.chores = .start l :: rest.toList)
      (h : Carried ports s.terms l (l.begun s.terms.read) { s with ready := rest } t) :
      Move ports s t
  | resume {l : Job} {reply : Reply α} {rest : Queue (Chore α)} {t : Scheduler σ η α}
      (hc : s.chores = .resume l reply :: rest.toList)
      (h : Carried ports s.terms l (.asking l.name l.attempts) { s with ready := rest } t) :
      Move ports s t
  | enter {ask : Ask} {asks : List Ask} {rest : Queue (Chore α)}
      (hc : s.chores = .enter :: rest.toList) (ha : s.asks = ask :: asks) :
      Move ports s (({ s with ready := rest }.accept asks).launch ask.call ask.selector ask.domain)
  | pass {rest : Queue (Chore α)} (hc : s.chores = .enter :: rest.toList) (ha : s.asks = []) :
      Move ports s { s with ready := rest }
  | leave {lookup : Nat} {error : Option String} {rest : Queue (Chore α)}
      (hc : s.chores = .leave lookup error :: rest.toList) :
      Move ports s ({ s with ready := rest }.leave lookup error)
  | look {call : Nat} {domain : Option Text} {rest : Queue (Chore α)}
      (hc : s.chores = .look call domain :: rest.toList) : Move ports s { s with ready := rest }

/-- The second scheduler is what moves make of the first one. -/
def Moves (ports : Ports σ η α) : Scheduler σ η α → Scheduler σ η α → Prop :=
  Relation.ReflTransGen (Move ports)

theorem Moves.look (h : Moves ports s t) (call : Nat) (domain : Option Text) :
    Moves ports s (t.look call domain) := by
  unfold Scheduler.look
  split
  · exact (h.tail (.log _)).tail (.setCall ..)
  · next hf => exact (h.tail (.drain call domain (by simpa [flight] using hf))).tail (.setCall ..)

theorem Moves.pull (h : Moves ports s t) (call : Nat) (domain : Text) (fault : Option Fault)
    (items : List Item) : Moves ports s (t.pull call domain fault items) := by
  refine pull_induct (P := fun _ t => Moves ports s t) ?_ ?_ ?_ ?_ ?_ items t h
  · intro t entry rest h
    exact h.tail (.log _)
  · intro t selector rest hv h
    exact h.tail (.admitted _ _ _ hv)
  · intro t selector rest hv h
    exact h.tail (.wait _ hv)
  · intro t f _ h
    exact h.tail (.setCall ..)
  · intro t entry _ h
    exact Moves.look (h.tail (.log _)) ..

/-- A call that has been given its slot goes on by moves. -/
theorem Moves.goOn {ask : Ask} (h : Moves ports s (t.launch ask.call ask.selector ask.domain)) :
    Moves ports s (t.proceed ask) := by
  unfold proceed
  split
  · exact h.tail (.setCall ..)
  · exact h.pull ..

/-- A turn is made of moves. -/
theorem moves_of_turn? (h : s.turn? ports = some t) : Moves ports s t := by
  obtain ⟨c, rest, hc, rfl⟩ := exists_perform_of_turn? h
  cases c with
  | start l => exact .single (.start hc (carried_start l { s with ready := rest }))
  | resume l reply => exact .single (.resume hc (carried_resume ..))
  | enter =>
    show Moves ports s (enter _)
    unfold enter
    split
    · next ha => exact .single (.pass hc ha)
    · next ask asks ha => exact .goOn (.single (.enter hc ha))
  | leave lookup error => exact .single (.leave hc)
  | look call domain => exact .look (.single (.look hc)) ..

/-- A call that has been made goes on by moves. -/
theorem moves_receive (request : Request) (s : Scheduler σ η α) :
    Moves ports { s with requests := s.requests ++ [request], calls := s.calls ++ [Call.waiting] }
      (s.receive request) := by
  cases request with
  | submit selector domain =>
    show Moves ports _ (seek _ _)
    unfold seek
    split
    · next hv => exact .goOn (.single (.admitted _ _ _ hv))
    · next hv => exact .single (.wait _ (by simpa using hv))
  | run candidates domain => exact Moves.pull .refl ..
  | drain => exact Moves.look .refl ..

/-- Steps are made of moves. -/
theorem Step.moves (h : Step ports s t) : Moves ports s t := by
  cases h with
  | turn ht => exact moves_of_turn? ht
  | call request => exact .head (.call request) (moves_receive request s)
  | reply reply hw => exact .single (.reply reply hw)

theorem Reachable.moves {s₀ : Scheduler σ η α} (h : Reachable ports s₀ s) : Moves ports s₀ s := by
  induction h with
  | refl => exact .refl
  | tail _ step ih => exact ih.trans step.moves

/-! ## Reachable states -/

theorem Reachable.turn {s₀ : Scheduler σ η α} (h : Reachable ports s₀ s)
    (ht : s.turn? ports = some t) : Reachable ports s₀ t :=
  .tail h (.turn ht)

theorem Reachable.call {s₀ : Scheduler σ η α} (h : Reachable ports s₀ s) (request : Request) :
    Reachable ports s₀ (s.receive request) :=
  .tail h (.call request)

/-- What moves keep holds of every reachable state. -/
theorem Reachable.kept {s₀ : Scheduler σ η α} {P : Scheduler σ η α → Prop}
    (h : Reachable ports s₀ s) (base : P s₀) (move : ∀ s t, P s → Move ports s t → P t) : P s := by
  have moves := h.moves
  clear h
  induction moves with
  | refl => exact base
  | tail _ hm ih => exact move _ _ ih hm

/-- What a scheduler was made with stays as it is. -/
theorem Move.fixed (h : Move ports s t) : t.cap = s.cap ∧ t.terms = s.terms := by
  cases h with
  | start _ h => exact ⟨h.frame.cap, h.frame.terms⟩
  | resume _ h => exact ⟨h.frame.cap, h.frame.terms⟩
  | @enter ask asks rest =>
    obtain ⟨free, handed, ready, e⟩ := exists_accept asks { s with ready := rest }
    rw [e]
    exact ⟨rfl, rfl⟩
  | _ => exact ⟨rfl, rfl⟩

theorem Reachable.terms_eq {cap : Nat} {retries : Int} {transport : σ} {handler : η}
    (h : Reachable ports (idle cap retries transport handler read) s) :
    s.terms = ⟨retries.toNat + 1, read⟩ :=
  h.kept (P := fun s => s.terms = ⟨retries.toNat + 1, read⟩) rfl
    fun _ _ h hm => hm.fixed.2.trans h

/-- Turns are steps. -/
theorem Reachable.turns {s₀ : Scheduler σ η α} (h : Reachable ports s₀ s) (ht : Turns ports s t) :
    Reachable ports s₀ t := by
  induction ht with
  | refl => exact h
  | tail _ ht ih => exact ih.turn ht

theorem turns_advance (ports : Ports σ η α) (n : Nat) (s : Scheduler σ η α) :
    Turns ports s (s.advance ports n) := by
  induction n generalizing s with
  | zero => exact .refl
  | succ n ih =>
    unfold advance
    split
    · exact .refl
    · next t ht => exact .head ht (ih t)

theorem Reachable.advance {s₀ : Scheduler σ η α} (h : Reachable ports s₀ s) (n : Nat) :
    Reachable ports s₀ (s.advance ports n) :=
  h.turns (turns_advance ports n s)

/-- A scheduler is brought to rest by turns. -/
theorem turns_toRest (s : Scheduler σ η α) :
    Turns ports s (s.toRest ports) ∧ (s.toRest ports).AtRest := by
  induction s using toRest.induct ports with
  | case1 s hn =>
    rw [toRest]
    split
    · exact ⟨.refl, turn?_eq_none_iff.1 hn⟩
    · next ht => rw [hn] at ht; cases ht
  | case2 s t ht ih =>
    rw [toRest]
    split
    · next hn => rw [ht] at hn; cases hn
    · next ht' =>
      rw [ht] at ht'
      cases ht'
      exact ⟨.head ht ih.1, ih.2⟩

theorem Reachable.toRest {s₀ : Scheduler σ η α} (h : Reachable ports s₀ s) :
    Reachable ports s₀ (s.toRest ports) ∧ (s.toRest ports).AtRest := by
  constructor
  · exact h.turns (turns_toRest s).1
  · exact (turns_toRest s).2

/-- A call that is made, be it `submit`, `run` or `drain`, leads to a state at rest. -/
theorem Reachable.receive_toRest {s₀ : Scheduler σ η α} (h : Reachable ports s₀ s)
    (request : Request) :
    Reachable ports s₀ ((s.receive request).toRest ports) ∧
      ((s.receive request).toRest ports).AtRest :=
  (h.call request).toRest

theorem takeWaiting_eq_some {name : Text} {jobs rest : List Job} {l : Job}
    (h : takeWaiting name jobs = some (l, rest)) :
    ∃ front back, jobs = front ++ l :: back ∧ rest = front ++ back := by
  induction jobs generalizing rest with
  | nil => simp [takeWaiting] at h
  | cons l' jobs ih =>
    unfold takeWaiting at h
    split at h
    · obtain ⟨rfl, rfl⟩ := Prod.mk.inj (Option.some.inj h)
      exact ⟨[], jobs, rfl, rfl⟩
    · obtain ⟨⟨l'', rest'⟩, hf, he⟩ := Option.map_eq_some_iff.1 h
      obtain ⟨rfl, rfl⟩ := Prod.mk.inj he
      obtain ⟨front, back, rfl, rfl⟩ := ih hf
      exact ⟨l' :: front, back, rfl, rfl⟩

/-- Giving a reply to a waiting query is a step. -/
theorem step_of_deliver? {name : Text} {reply : Reply α} (hd : s.deliver? name reply = some t) :
    Step ports s t := by
  obtain ⟨⟨l, rest⟩, hw, rfl⟩ := Option.map_eq_some_iff.1 hd
  obtain ⟨front, back, hs, rfl⟩ := takeWaiting_eq_some hw
  exact .reply reply hs

/-- So does a reply. -/
theorem Reachable.reply? {s₀ : Scheduler σ η α} (h : Reachable ports s₀ s) {name : Text}
    {reply : Reply α} (hr : s.reply? ports name reply = some t) :
    Reachable ports s₀ t ∧ t.AtRest := by
  obtain ⟨u, hd, rfl⟩ := Option.map_eq_some_iff.1 hr
  exact Reachable.toRest (h.tail (step_of_deliver? hd))

theorem step_delivered {name : Text} {reply : Reply α} (hd : (s.deliver? name reply).isSome) :
    Step ports s (s.delivered name reply) := by
  obtain ⟨t, ht⟩ := Option.isSome_iff_exists.1 hd
  rw [Scheduler.delivered, ht]
  exact step_of_deliver? ht

theorem Reachable.delivered {s₀ : Scheduler σ η α} (h : Reachable ports s₀ s) (name : Text)
    (reply : Reply α) : Reachable ports s₀ (s.delivered name reply) := by
  cases hd : s.deliver? name reply with
  | none =>
    rw [Scheduler.delivered, hd]
    exact h
  | some t => exact h.tail (step_delivered (by rw [hd]; rfl))

end Scheduler

end SelectorScan.Lookup
