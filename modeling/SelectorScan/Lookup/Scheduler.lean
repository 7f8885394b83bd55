import SelectorScan.Candidate.Stream
import SelectorScan.Dns.Name
import SelectorScan.Lookup.Queue

/-!
# Scheduling lookups

A scheduler runs lookups with a limited number of them in flight. A call asks for a slot, and slots
are handed out first come first served; a lookup holds its slot until it has ended. `submit` asks
for one lookup; `run` asks for the lookups of a stream, one at a time, and then drains; `drain`
waits until nothing is in flight.

Whatever is ready to go on stands in a queue of chores, and a turn takes the next chore and does it
(`turn?`): a lookup begins, or goes on with the reply to its query; a call goes on with the slot it
was handed; an ended lookup leaves the lookups in flight; a drain looks whether any are left. A
lookup gives its slot back, to the first call that waits for one, before it leaves. Every turn uses
up some of the work at hand (`rank`), so that the scheduler comes to rest (`toRest`).

The transport and the handler of responses are given by `Ports`. A query may be answered at once or
wait; a waiting query is answered by `reply`. Everything that happens is kept in a `trace`.
-/

namespace SelectorScan.Lookup

open Candidate

/-! ## Partners -/

/-- How a query ends. -/
inductive Reply (α : Type) where
  | answer (value : α)
  /-- The transport failed; the query may be made again. -/
  | failure
  /-- Something else went wrong; the lookup ends. -/
  | breakdown (message : String)
deriving DecidableEq, Repr

/-- What the transport does with a query: no reply means that the query waits. -/
structure Asked (σ α : Type) where
  state : σ
  notes : List Log.Entry
  reply : Option (Reply α)

structure Handled (η : Type) where
  state : η
  notes : List Log.Entry
  error : Option String

/-- The transport and the handler of a scheduler, which have states of their own. -/
structure Ports (σ η α : Type) where
  ask : σ → Text → Asked σ α
  handle : η → Option α → Handled η

/-! ## Names -/

/-- The name that is looked up for a selector of a domain, with U+FFFD for a surrogate: neither may
stand in a name. -/
def questionName (selector : Points) (domain : Text) : Text :=
  selector.shown ++ "._domainkey.".toList ++ domain

/-- What a lookup is for. -/
structure Target where
  selector : Points
  domain : Text
deriving DecidableEq, Repr

def Target.name (t : Target) : Text :=
  questionName t.selector t.domain

/-- The name between quotation marks. -/
def Target.quoted (t : Target) : Text :=
  (t.selector ++ Points.ofText ("._domainkey.".toList ++ t.domain)).quoted

inductive Reading where
  | wellFormed
  | malformed (message : String)
  /-- Reading it fails altogether. -/
  | breakdown (message : String)
deriving DecidableEq, Repr

def Reading.isWellFormed : Reading → Bool
  | wellFormed => true
  | _ => false

/-- On what terms lookups are made. -/
structure Terms where
  /-- How many attempts a lookup has. -/
  attempts : Nat
  /-- How names are read. -/
  read : Text → Reading

def readName (name : Text) : Reading :=
  match Dns.Name.read name with
  | .ok _ => .wellFormed
  | .error (.refused e) => .malformed e.message
  | .error (.noDecimal c) => .breakdown (Dns.noDecimalMessage c)

/-! ## States -/

/-- A lookup that holds a slot. -/
structure Job where
  /-- Its place in the order in which slots were given out, from 0. -/
  number : Nat
  target : Target
  /-- How many attempts it has left. -/
  attempts : Nat
deriving DecidableEq, Repr

def Job.name (l : Job) : Text :=
  l.target.name

inductive Request where
  | submit (selector : Points) (domain : Text)
  | run (candidates : Candidates) (domain : Text)
  | drain
deriving DecidableEq, Repr

/-- A call's wish for a slot. -/
structure Ask where
  call : Nat
  selector : Points
  domain : Text
  /-- What the call, if it is a run, still has to ask for. -/
  rest : Option Candidates
deriving DecidableEq, Repr

def Ask.work (a : Ask) : Nat :=
  match a.rest with
  | none => 4
  | some c => 4 * (1 + c.items.length)

/-- A call that waits until lookups have left. -/
structure Drain where
  call : Nat
  /-- The domain of a run. -/
  domain : Option Text
  /-- The lookups that have not left yet, of those in flight when it began to wait. -/
  left : List Nat
deriving DecidableEq, Repr

/-- How far a call has come. -/
inductive Call where
  /-- It waits for a slot. -/
  | waiting
  /-- It waits until nothing is in flight; a run remembers its domain. -/
  | draining (domain : Option Text)
  | done
  | failed (fault : Fault)
deriving DecidableEq, Repr

/-- Something that is ready to go on. -/
inductive Chore (α : Type) where
  /-- A lookup begins. -/
  | start (lookup : Job)
  /-- A lookup goes on with the reply to its query. -/
  | resume (lookup : Job) (reply : Reply α)
  /-- The first call that waits for a slot goes on with the one it was handed. -/
  | enter
  /-- An ended lookup leaves the lookups in flight, with its error if it has one. -/
  | leave (lookup : Nat) (error : Option String)
  /-- A call that drains looks whether anything is in flight. -/
  | look (call : Nat) (domain : Option Text)
deriving DecidableEq, Repr

def Chore.work {α : Type} : Chore α → Nat
  | .start _ => 2
  | .resume _ _ => 2
  | .enter => 1
  | .leave _ _ => 1
  | .look _ _ => 0

/-- Whether a chore is to look whether anything is in flight. -/
def Chore.isLook {α : Type} : Chore α → Bool
  | .look _ _ => true
  | _ => false

/-- What can happen; lookups are told apart by their numbers. -/
inductive Event (α : Type) where
  /-- A lookup for a call was given a slot. -/
  | granted (lookup : Nat) (call : Nat) (target : Target)
  /-- Reading the name of a lookup failed altogether, which ends the lookup. -/
  | unread (lookup : Nat) (message : String)
  /-- The transport was asked. -/
  | asked (lookup : Nat) (name : Text)
  /-- The transport replied. -/
  | replied (lookup : Nat) (reply : Reply α)
  /-- The handler was given a response, or none. -/
  | handled (lookup : Nat) (response : Option α)
  /-- The slot was given back. -/
  | released (lookup : Nat)
  | logged (entry : Log.Entry)
deriving DecidableEq, Repr

structure Scheduler (σ η α : Type) where
  /-- How many lookups may be in flight. -/
  cap : Nat
  terms : Terms
  /-- How many slots are free. -/
  free : Nat
  /-- The calls that wait for a slot, first come first. -/
  asks : List Ask
  /-- How many of them, from the first, have been handed a slot that they have not gone on with. -/
  handed : Nat
  /-- The lookups in flight, in the order in which they were given slots. -/
  tasks : Queue Nat
  /-- The lookups whose query waits, the oldest query first. -/
  waiting : List Job
  /-- The calls that wait for lookups to leave, the first to wait first. -/
  drains : List Drain
  /-- What is ready to go on. -/
  ready : Queue (Chore α)
  /-- The calls made so far. -/
  requests : List Request
  /-- How far each of them has come. -/
  calls : List Call
  submitted : Nat
  completed : Nat
  failed : Nat
  transport : σ
  handler : η
  /-- What has happened, the latest first. -/
  trace : List (Event α)

namespace Scheduler

variable {σ η α : Type}

/-- The scheduler before the first call. -/
def idle (cap : Nat) (retries : Int) (transport : σ) (handler : η)
    (read : Text → Reading := readName) : Scheduler σ η α where
  cap
  terms := ⟨retries.toNat + 1, read⟩
  free := cap
  asks := []
  handed := 0
  tasks := .empty
  waiting := []
  drains := []
  ready := .empty
  requests := []
  calls := []
  submitted := 0
  completed := 0
  failed := 0
  transport
  handler
  trace := []

/-- The lookups in flight, in order. -/
def flight (s : Scheduler σ η α) : List Nat :=
  s.tasks.toList

/-- How many lookups are in flight. -/
def inFlight (s : Scheduler σ η α) : Nat :=
  s.flight.length

/-- What is ready to go on, in order. -/
def chores (s : Scheduler σ η α) : List (Chore α) :=
  s.ready.toList

/-- Makes something ready to go on. -/
def push (c : Chore α) (s : Scheduler σ η α) : Scheduler σ η α :=
  { s with ready := s.ready.push c }

def record (e : Event α) (s : Scheduler σ η α) : Scheduler σ η α :=
  { s with trace := e :: s.trace }

def logAll (entries : List Log.Entry) (s : Scheduler σ η α) : Scheduler σ η α :=
  { s with trace := (entries.map Event.logged).reverse ++ s.trace }

/-- The topic of the scheduler's own entries. -/
def topic : String := "dkimscan.scheduler"

/-- Adds an entry of the scheduler's own. -/
def log (level : Log.Level) (message : String) (s : Scheduler σ η α) : Scheduler σ η α :=
  s.logAll [.plain topic level message]

/-! ## Ends of a lookup -/

/-- Hands a free slot to the first call that waits for one and has none yet. -/
def wake (s : Scheduler σ η α) : Scheduler σ η α :=
  if s.handed < s.asks.length then
    { s with free := s.free - 1, handed := s.handed + 1 }.push .enter
  else s

/-- Gives the slot of a lookup back. -/
def release (l : Job) (s : Scheduler σ η α) : Scheduler σ η α :=
  ({ s with free := s.free + 1 }.record (.released l.number)).wake

/-- Ends a lookup, which gives its slot back and then is to leave. -/
def close (l : Job) (error : Option String) (s : Scheduler σ η α) : Scheduler σ η α :=
  (s.release l).push (.leave l.number error)

/-- Ends a lookup with a response, or with none when it is given up, and has it handled. -/
def finish (ports : Ports σ η α) (l : Job) (response : Option α) (s : Scheduler σ η α) :
    Scheduler σ η α :=
  let result := ports.handle s.handler response
  let s := { s with
    completed := if response.isSome then s.completed + 1 else s.completed
    failed := if response.isSome then s.failed else s.failed + 1
    handler := result.state }
  ((s.record (.handled l.number response)).logAll result.notes).close l result.error

/-! ## Attempts -/

/-- What is said about a failed attempt; how it failed is put in the words of the transport. -/
def failureMessage (name : Text) (left : Nat) : String :=
  "Query " ++ String.ofList name ++ " failed (" ++ toString left ++ " attempts left): ..."

/-- Goes on with a lookup that has got a reply and has `left` attempts: a failure makes it ask
`again`, a breakdown ends it without a response being handled. -/
def conclude (ports : Ports σ η α) (l : Job) (left : Nat) (reply : Reply α)
    (again : Scheduler σ η α → Scheduler σ η α) (s : Scheduler σ η α) : Scheduler σ η α :=
  let s := s.record (.replied l.number reply)
  match reply with
  | .answer value => s.finish ports l (some value)
  | .breakdown message => s.close l (some message)
  | .failure => again (s.log .debug (failureMessage l.name left))

/-- Asks the transport for a lookup with the given number of attempts until it is answered, gives
up, or waits. -/
def pursue (ports : Ports σ η α) (l : Job) : Nat → Scheduler σ η α → Scheduler σ η α
  | 0, s => s.finish ports l none
  | left + 1, s =>
    let asked := ports.ask s.transport l.name
    let s := ({ s with transport := asked.state }.record (.asked l.number l.name)).logAll
      asked.notes
    match asked.reply with
    | none => { s with waiting := s.waiting ++ [{ l with attempts := left }] }
    | some reply => s.conclude ports l left reply (pursue ports l left)

/-- The entry about a lookup whose name is malformed. -/
def skippedEntry (t : Target) (message : String) : Log.Entry :=
  .detailed topic .debug ("Skipping " ++ String.ofList t.quoted ++ ": ") message ""

/-- Starts a lookup. A name that is malformed is given up without a query; one that cannot be read
at all ends the lookup without a response being handled. -/
def start (ports : Ports σ η α) (l : Job) (s : Scheduler σ η α) : Scheduler σ η α :=
  match s.terms.read l.name with
  | .wellFormed => s.pursue ports l l.attempts
  | .malformed message => (s.logAll [skippedEntry l.target message]).finish ports l none
  | .breakdown message => (s.record (.unread l.number message)).close l (some message)

/-- Goes on with a lookup whose waiting query has got a reply. -/
def resume (ports : Ports σ η α) (l : Job) (reply : Reply α) (s : Scheduler σ η α) :
    Scheduler σ η α :=
  s.conclude ports l l.attempts reply (pursue ports l l.attempts)

/-! ## Calls -/

/-- Changes how far a call has come. -/
def setCall (call : Nat) (c : Call) (s : Scheduler σ η α) : Scheduler σ η α :=
  { s with calls := s.calls.set call c }

/-- The entry about a run that has ended. -/
def finishedMessage (s : Scheduler σ η α) (domain : Text) : String :=
  "Scan of " ++ String.ofList domain ++ " finished: " ++ toString s.submitted ++ " queried, " ++
    toString s.completed ++ " answered, " ++ toString s.failed ++ " gave up"

/-- Ends a call that drains if nothing is in flight; else the call waits until the lookups that are
in flight now have left, and then is to look again. -/
def look (call : Nat) (domain : Option Text) (s : Scheduler σ η α) : Scheduler σ η α :=
  if s.tasks.isEmpty then
    (s.logAll (domain.toList.map fun d =>
      Log.Entry.plain topic .info (s.finishedMessage d))).setCall call .done
  else
    { s with drains := s.drains ++ [Drain.mk call domain s.flight] }.setCall call (.draining domain)

/-- The entry about the error of an ended lookup. -/
def errorEntry (message : String) : Log.Entry :=
  .plain topic .error ("Response handling failed: " ++ message)

/-- The calls that drain after a lookup has left: those that still wait, and what becomes ready of
the others. -/
def tell (lookup : Nat) (drains : List Drain) : List Drain × List (Chore α) :=
  let told := drains.map fun d => { d with left := d.left.erase lookup }
  (told.filter fun d => !d.left.isEmpty,
    (told.filter fun d => d.left.isEmpty).map fun d => .look d.call d.domain)

/-- An ended lookup leaves the lookups in flight, and its error is reported. -/
def leave (lookup : Nat) (error : Option String) (s : Scheduler σ η α) : Scheduler σ η α :=
  let told := tell lookup s.drains
  { s with
    tasks := s.tasks.erase lookup
    drains := told.1
    ready := s.ready.pushAll told.2 }.logAll (error.toList.map errorEntry)

/-- Whether a slot is to be had without waiting. -/
def vacant (s : Scheduler σ η α) : Bool :=
  s.free != 0 && s.asks.isEmpty

/-- Takes a free slot. -/
def take (s : Scheduler σ η α) : Scheduler σ η α :=
  { s with free := s.free - 1 }

/-- Waits for a slot. -/
def enqueue (ask : Ask) (s : Scheduler σ η α) : Scheduler σ η α :=
  { s with asks := s.asks ++ [ask] }

/-- Puts a lookup in flight for a call that has a slot. -/
def launch (call : Nat) (selector : Points) (domain : Text) (s : Scheduler σ η α) :
    Scheduler σ η α :=
  let l : Job := ⟨s.submitted, ⟨selector, domain⟩, s.terms.attempts⟩
  ({ s with tasks := s.tasks.push l.number, submitted := s.submitted + 1 }.record
    (.granted l.number call l.target)).push (.start l)

/-- The entry about a run that has no candidates left. -/
def drainingEntry (s : Scheduler σ η α) (domain : Text) : Log.Entry :=
  .detailed topic .debug
    ("All " ++ toString s.submitted ++ " candidates submitted for " ++ String.ofList domain ++
      ", draining ")
    (toString s.inFlight) " in flight"

/-- Goes on with a run: asks for a slot for its next candidate, or drains when there is none. -/
def pull (call : Nat) (domain : Text) (fault : Option Fault) :
    List Item → Scheduler σ η α → Scheduler σ η α
  | [], s =>
    match fault with
    | some f => s.setCall call (.failed f)
    | none => (s.logAll [s.drainingEntry domain]).look call (some domain)
  | .note entry :: rest, s => pull call domain fault rest (s.logAll [entry])
  | .candidate selector :: rest, s =>
    if s.vacant then pull call domain fault rest (s.take.launch call selector domain)
    else s.enqueue ⟨call, selector, domain, some ⟨rest, fault⟩⟩

/-- Goes on with a call that has a slot. -/
def proceed (ask : Ask) (s : Scheduler σ η α) : Scheduler σ η α :=
  let s := s.launch ask.call ask.selector ask.domain
  match ask.rest with
  | none => s.setCall ask.call .done
  | some c => s.pull ask.call ask.domain c.fault c.items

def seek (ask : Ask) (s : Scheduler σ η α) : Scheduler σ η α :=
  if s.vacant then s.take.proceed ask else s.enqueue ask

/-- The first call that waits for a slot has one, and `rest` wait behind it; a free slot is handed
to the next one. -/
def accept (rest : List Ask) (s : Scheduler σ η α) : Scheduler σ η α :=
  let s := { s with asks := rest, handed := s.handed - 1 }
  if s.free = 0 then s else s.wake

/-- The first call that waits for a slot goes on with the one it was handed. -/
def enter (s : Scheduler σ η α) : Scheduler σ η α :=
  match s.asks with
  | [] => s
  | ask :: rest => (s.accept rest).proceed ask

/-! ## Turns -/

def perform (ports : Ports σ η α) (c : Chore α) (s : Scheduler σ η α) : Scheduler σ η α :=
  match c with
  | .start l => s.start ports l
  | .resume l reply => s.resume ports l reply
  | .enter => s.enter
  | .leave lookup error => s.leave lookup error
  | .look call domain => s.look call domain

/-- Does the next chore; `none` when the scheduler is at rest. -/
def turn? (ports : Ports σ η α) (s : Scheduler σ η α) : Option (Scheduler σ η α) :=
  s.ready.pop?.map fun next => { s with ready := next.2 }.perform ports next.1

/-! ## Work runs out -/

def workOf {β : Type} (work : β → Nat) : List β → Nat
  | [] => 0
  | b :: rest => work b + workOf work rest

/-- The work at hand, but for looking. A wish that is still to be handed a slot makes one chore
more. -/
def work (s : Scheduler σ η α) : Nat :=
  workOf Ask.work s.asks + (s.asks.length - s.handed) + workOf Chore.work s.chores

/-- The work at hand, and how often calls are to look. -/
def rank (s : Scheduler σ η α) : Nat × Nat :=
  (s.work, s.chores.countP Chore.isLook)

@[simp] theorem workOf_append {β : Type} (work : β → Nat) (front back : List β) :
    workOf work (front ++ back) = workOf work front + workOf work back := by
  induction front with
  | nil => simp [workOf]
  | cons b front ih => simp only [List.cons_append, workOf, ih, Nat.add_assoc]

@[simp] theorem work_record (e : Event α) (s : Scheduler σ η α) : (s.record e).work = s.work := rfl

@[simp] theorem work_logAll (entries : List Log.Entry) (s : Scheduler σ η α) :
    (s.logAll entries).work = s.work := rfl

@[simp] theorem work_log (level : Log.Level) (message : String) (s : Scheduler σ η α) :
    (s.log level message).work = s.work := rfl

@[simp] theorem work_setCall (call : Nat) (c : Call) (s : Scheduler σ η α) :
    (s.setCall call c).work = s.work := rfl

@[simp] theorem work_take (s : Scheduler σ η α) : s.take.work = s.work := rfl

@[simp] theorem work_push (c : Chore α) (s : Scheduler σ η α) :
    (s.push c).work = s.work + c.work := by
  simp only [work, push, chores, Queue.toList_push, workOf_append, workOf]
  omega

/-- Handing out a slot only moves work. -/
@[simp] theorem work_wake (s : Scheduler σ η α) : s.wake.work = s.work := by
  unfold wake
  split
  · next h =>
    rw [work_push]
    simp only [work, chores, Chore.work]
    omega
  · rfl

@[simp] theorem work_close (l : Job) (error : Option String) (s : Scheduler σ η α) :
    (s.close l error).work = s.work + 1 := by
  simp only [close, release, work_push, work_wake, work_record]
  rfl

@[simp] theorem work_finish (ports : Ports σ η α) (l : Job) (response : Option α)
    (s : Scheduler σ η α) : (s.finish ports l response).work = s.work + 1 := by
  simp only [finish, work_close, work_logAll, work_record]
  rfl

theorem work_conclude_le {ports : Ports σ η α} {l : Job} {left : Nat} {reply : Reply α}
    {again : Scheduler σ η α → Scheduler σ η α}
    (h : ∀ s, (again s).work ≤ s.work + 1) (s : Scheduler σ η α) :
    (s.conclude ports l left reply again).work ≤ s.work + 1 := by
  unfold conclude
  cases reply with
  | answer value => simp
  | failure => simpa using h ((s.record _).log _ _)
  | breakdown message => simp

theorem work_pursue_le (ports : Ports σ η α) (l : Job) (left : Nat) (s : Scheduler σ η α) :
    (s.pursue ports l left).work ≤ s.work + 1 := by
  induction left generalizing s with
  | zero => exact Nat.le_of_eq (work_finish ..)
  | succ left ih =>
    simp only [pursue]
    split
    · exact Nat.le_succ _
    · exact work_conclude_le ih _

theorem work_start_le (ports : Ports σ η α) (l : Job) (s : Scheduler σ η α) :
    (s.start ports l).work ≤ s.work + 1 := by
  unfold start
  split
  · exact work_pursue_le ..
  · exact Nat.le_of_eq (work_finish ..)
  · exact Nat.le_of_eq (work_close ..)

theorem work_resume_le (ports : Ports σ η α) (l : Job) (reply : Reply α) (s : Scheduler σ η α) :
    (s.resume ports l reply).work ≤ s.work + 1 :=
  work_conclude_le (work_pursue_le ports l l.attempts) s

theorem work_launch (call : Nat) (selector : Points) (domain : Text) (s : Scheduler σ η α) :
    (s.launch call selector domain).work = s.work + 2 := by
  simp only [launch, work_push, work_record]
  rfl

theorem work_enqueue_le (ask : Ask) (s : Scheduler σ η α) :
    (s.enqueue ask).work ≤ s.work + ask.work + 1 := by
  simp only [enqueue, work, workOf_append, List.length_append, List.length_singleton]
  simp only [workOf, chores]
  omega

theorem work_look (call : Nat) (domain : Option Text) (s : Scheduler σ η α) :
    (s.look call domain).work = s.work := by
  unfold look
  split <;> rfl

theorem work_pull_le (call : Nat) (domain : Text) (fault : Option Fault) (items : List Item)
    (s : Scheduler σ η α) :
    (s.pull call domain fault items).work ≤ s.work + 4 * items.length + 1 := by
  induction items generalizing s with
  | nil =>
    unfold pull
    split
    · exact Nat.le_succ _
    · rw [work_look]
      exact Nat.le_succ _
  | cons item rest ih =>
    rw [List.length_cons]
    cases item with
    | note entry =>
      have := ih (s.logAll [entry])
      rw [work_logAll] at this
      simp only [pull]
      omega
    | candidate selector =>
      simp only [pull]
      split
      · have := ih (s.take.launch call selector domain)
        rw [work_launch, work_take] at this
        omega
      · refine Nat.le_trans (work_enqueue_le ..) ?_
        simp only [Ask.work]
        omega

theorem work_proceed_lt (ask : Ask) (s : Scheduler σ η α) :
    (s.proceed ask).work < s.work + ask.work := by
  unfold proceed Ask.work
  cases ask.rest with
  | none =>
    simp only [work_setCall, work_launch]
    omega
  | some c =>
    have := work_pull_le ask.call ask.domain c.fault c.items
      (s.launch ask.call ask.selector ask.domain)
    rw [work_launch] at this
    simp only
    omega

theorem work_enter_le (s : Scheduler σ η α) : s.enter.work ≤ s.work := by
  unfold enter
  split
  · exact Nat.le_refl _
  · next ask rest h =>
    have drop :
        ({ s with asks := rest, handed := s.handed - 1 } : Scheduler σ η α).work + ask.work ≤
          s.work := by
      simp only [work, h, workOf, List.length_cons, chores]
      omega
    refine Nat.le_trans (Nat.le_of_lt (work_proceed_lt ..)) ?_
    simp only [accept]
    split
    · exact drop
    · rw [work_wake]
      exact drop

theorem work_tell (lookup : Nat) (drains : List Drain) :
    workOf Chore.work ((tell lookup drains).2 : List (Chore α)) = 0 := by
  simp only [tell]
  induction (drains.map fun d => { d with left := d.left.erase lookup }).filter
      fun d => d.left.isEmpty with
  | nil => rfl
  | cons d rest ih => simpa [workOf, Chore.work] using ih

theorem work_leave (lookup : Nat) (error : Option String) (s : Scheduler σ η α) :
    (s.leave lookup error).work = s.work := by
  simp [leave, work, chores, work_tell, logAll]

/-- Every turn uses up work, or a look. -/
theorem rank_turn?_lt {ports : Ports σ η α} {s t : Scheduler σ η α}
    (h : s.turn? ports = some t) : Prod.Lex (· < ·) (· < ·) t.rank s.rank := by
  unfold turn? at h
  obtain ⟨⟨c, rest⟩, hp, rfl⟩ := Option.map_eq_some_iff.1 h
  have hc : s.chores = c :: rest.toList := Queue.toList_of_pop? hp
  have hw : s.work = ({ s with ready := rest } : Scheduler σ η α).work + c.work := by
    simp only [work, hc, workOf]
    simp only [chores]
    omega
  cases c with
  | start l =>
    have := work_start_le ports l { s with ready := rest }
    refine Prod.Lex.left _ _ ?_
    simp only [hw, Chore.work, perform]
    omega
  | resume l reply =>
    have := work_resume_le ports l reply { s with ready := rest }
    refine Prod.Lex.left _ _ ?_
    simp only [hw, Chore.work, perform]
    omega
  | enter =>
    have := work_enter_le { s with ready := rest }
    refine Prod.Lex.left _ _ ?_
    simp only [hw, Chore.work, perform]
    omega
  | leave lookup error =>
    refine Prod.Lex.left _ _ ?_
    simp only [hw, Chore.work, perform, work_leave]
    omega
  | look call domain =>
    have same : (({ s with ready := rest } : Scheduler σ η α).look call domain).chores =
        rest.toList := by
      unfold look
      split <;> rfl
    simp only [rank, perform, work_look, hw, Chore.work, Nat.add_zero, same, hc,
      List.countP_cons, Chore.isLook, if_true]
    exact Prod.Lex.right _ (Nat.lt_succ_self _)

/-- Takes turns until the scheduler is at rest. -/
def toRest (ports : Ports σ η α) (s : Scheduler σ η α) : Scheduler σ η α :=
  match _h : s.turn? ports with
  | none => s
  | some t => toRest ports t
termination_by s.rank
decreasing_by exact rank_turn?_lt _h

/-! ## Outside events -/

def receive (request : Request) (s : Scheduler σ η α) : Scheduler σ η α :=
  let n := s.calls.length
  let s := { s with requests := s.requests ++ [request], calls := s.calls ++ [Call.waiting] }
  match request with
  | .submit selector domain => s.seek ⟨n, selector, domain, none⟩
  | .run candidates domain => s.pull n domain candidates.fault candidates.items
  | .drain => s.look n none

def submit (ports : Ports σ η α) (selector : Points) (domain : Text) (s : Scheduler σ η α) :
    Scheduler σ η α :=
  (s.receive (.submit selector domain)).toRest ports

/-- Asks for the lookups of all candidates, one at a time, and then drains. -/
def run (ports : Ports σ η α) (candidates : Candidates) (domain : Text) (s : Scheduler σ η α) :
    Scheduler σ η α :=
  (s.receive (.run candidates domain)).toRest ports

/-- Waits until nothing is in flight. -/
def drain (ports : Ports σ η α) (s : Scheduler σ η α) : Scheduler σ η α :=
  (s.receive .drain).toRest ports

/-- The oldest lookup whose waiting query is for the given name, and the others. -/
def takeWaiting (name : Text) : List Job → Option (Job × List Job)
  | [] => none
  | l :: rest =>
    if l.name = name then some (l, rest)
    else (takeWaiting name rest).map fun found => (found.1, l :: found.2)

/-- Gives a reply to the oldest waiting query for a name; `none` when no such query waits. -/
def deliver? (name : Text) (reply : Reply α) (s : Scheduler σ η α) : Option (Scheduler σ η α) :=
  (takeWaiting name s.waiting).map fun found =>
    { s with waiting := found.2 }.push (.resume found.1 reply)

/-- Gives a reply to a waiting query and goes on. -/
def reply? (ports : Ports σ η α) (name : Text) (reply : Reply α) (s : Scheduler σ η α) :
    Option (Scheduler σ η α) :=
  (s.deliver? name reply).map (toRest ports)

/-- All that has happened, in order. -/
def history (s : Scheduler σ η α) : List (Event α) :=
  s.trace.reverse

/-- What the handler has been given, in order. -/
def responses (s : Scheduler σ η α) : List (Option α) :=
  s.history.filterMap fun
    | .handled _ response => some response
    | _ => none

def entries (s : Scheduler σ η α) : List Log.Entry :=
  s.history.filterMap fun
    | .logged entry => some entry
    | _ => none

end Scheduler

end SelectorScan.Lookup
