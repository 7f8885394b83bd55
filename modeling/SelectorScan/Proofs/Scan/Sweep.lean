import SelectorScan.Proofs.Candidate.Stream
import SelectorScan.Proofs.Dns.Name
import SelectorScan.Proofs.Lookup.Prompt
import SelectorScan.Scan

/-!
# Scans of a zone make their lookups one after the other

A zone answers every query at once. So it cannot be told from a scan how many lookups may be in
flight: its queries, the findings that it hands to its listener and how it ends are those of a plain
loop (`Scan.sweep`), which knows neither slots nor tasks. The loop makes all attempts for a name
before it goes on to the next one, sends the query with number `k` to server `k % servers.length`,
and stops at the first rule that is refused.

    1 ≤ c → (s.capped c).account listener = s.sweep listener                  (cap_unobservable)
-/

namespace SelectorScan

open Candidate Lookup Dns Rule Session

/-! ## The plain loop -/

/-- How far a scan has come that makes its lookups one after the other. -/
structure Sweep where
  zone : Zone
  /-- The queries made, as the text of the name and the server, in order. -/
  queries : List (Text × Text)
  session : Session
  /-- The findings handed to the listener, in order. -/
  announced : List Key.Finding
deriving DecidableEq

namespace Sweep

/-- Queries a name; the query with number `k`, from 0, goes to server `k % servers.length`. -/
def ask (servers : List Text) (name : Name) (s : Sweep) : Except Trouble Response × Sweep :=
  let server := servers.getD (s.queries.length % servers.length) []
  let (result, zone) := s.zone.query name.toText
  (result.map fun answer => answer.1.response name,
    { s with zone, queries := s.queries ++ [(name.toText, server)] })

/-- Handles a response, or that a lookup has been given up. -/
def handle (listener : Option Listener) (response : Option Response) (s : Sweep) : Sweep :=
  let outcome := s.session.handle listener response
  { s with
    session := outcome.session
    announced := s.announced ++ outcome.announced.toList }

/-- Makes up to so many attempts to look a name up, back to back. -/
def attempt (servers : List Text) (listener : Option Listener) (name : Name) : Nat → Sweep → Sweep
  | 0, s => s.handle listener none
  | left + 1, s =>
    match s.ask servers name with
    | (.ok response, s) => s.handle listener (some response)
    | (.error .failure, s) => attempt servers listener name left s
    | (.error (.breakdown _), s) => s

section
variable (servers : List Text) (listener : Option Listener) (attempts : Nat) (domain : Text)

/-- Looks a selector up; a malformed name is given up without a query, and nothing comes of one that
cannot be read at all. -/
def visit (s : Sweep) (selector : Points) : Sweep :=
  match Name.read (questionName selector domain) with
  | .ok name => s.attempt servers listener name attempts
  | .error (.refused _) => s.handle listener none
  | .error (.noDecimal _) => s

/-- Looks up the candidates of rules, rule by rule, until a rule is refused. -/
def visitRules : List Text → Sweep → Sweep × Option RuleError
  | [], s => (s, none)
  | line :: rest, s =>
    match compile line with
    | .error e => (s, some e)
    | .ok tokens =>
      visitRules rest ((candidates ⟨domain⟩ tokens).foldl (visit servers listener attempts domain) s)

end

end Sweep

/-- What can be told of a scan. -/
structure Account where
  queries : List (Text × Text)
  announced : List Key.Finding
  /-- The findings, or what ended the scan before its time. -/
  outcome : Except Fault (List Key.Finding)

namespace Scan

/-- A scan with so many lookups in flight at the most. -/
def capped (c : Int) (s : Scan) : Scan :=
  { s with settings := { s.settings with concurrency := c } }

/-- What can be told of a scan whose findings are handed to a listener. -/
def account (listener : Option Listener) (s : Scan) : Except Obstacle Account :=
  (s.runFor listener).map fun r =>
    ⟨r.queries, s.announced listener, r.fault.elim (.ok r.session.findings) .error⟩

/-- The plain loop for a scan: first the selectors of the archive, then the rules. -/
def sweep (listener : Option Listener) (s : Scan) : Except Obstacle Account := do
  s.checkArchive
  let servers := (Rotation.ofServers s.settings.nameservers).servers
  let visit := Sweep.visit servers listener (s.settings.retries.toNat + 1) s.domain
  let known := s.archived.1.foldl visit ⟨s.zone, [], .empty, []⟩
  let (last, refused) := known.visitRules servers listener (s.settings.retries.toNat + 1) s.domain
    (liveLines s.rules)
  return ⟨last.queries, last.announced,
    match refused with
    | none => .ok last.session.findings
    | some e => .error (.rule e)⟩

end Scan

/-! ## The loop and the transport -/

/-- A resolver that has counted its queries and rotates through these servers. -/
def Lookup.Resolver.Regular (servers : List Text) (r : Resolver) : Prop :=
  r.rotation = ⟨servers, r.queries.length⟩

namespace Sweep

/-- The loop when the transport has come to a state and the handler has been given some
responses. -/
def reached (listener : Option Listener) (r : Resolver) (rs : List (Option Response)) : Sweep where
  zone := r.zone
  queries := r.queries.reverse
  session := handleAll listener .empty rs
  announced := announcements listener .empty rs

section
variable (listener : Option Listener) {servers : List Text} {r : Resolver}
  (rs : List (Option Response))

theorem announcements_append (s : Session) (rs' : List (Option Response)) :
    announcements listener s (rs ++ rs') =
      announcements listener s rs ++ announcements listener (handleAll listener s rs) rs' := by
  induction rs generalizing s with
  | nil => rfl
  | cons r rs ih =>
    simp only [List.cons_append, announcements, ih, List.append_assoc]
    rfl

theorem handle_reached (response : Option Response) :
    (reached listener r rs).handle listener response = reached listener r (rs ++ [response]) := by
  simp only [reached, handle, announcements_append, handleAll, List.foldl_append, announcements,
    List.append_nil, List.foldl_cons, List.foldl_nil]

/-- The loop queries a name as the transport does. -/
theorem ask_reached (regular : r.Regular servers) {text : Text} {name : Name}
    (h : Name.ofText text = .ok name) :
    ∃ result, (reached listener r rs).ask servers name =
        (result, reached listener (r.ask text).state rs) ∧
      (r.ask text).reply = some (match result with
        | .ok response => .answer response
        | .error trouble => trouble.reply) ∧
      (r.ask text).state.Regular servers := by
  unfold Resolver.Regular at regular
  have query : r.rotation.query text =
      .ok (⟨name, servers.getD (r.queries.length % servers.length) []⟩,
        ⟨servers, r.queries.length + 1⟩) := by
    rw [Rotation.query, h, regular]
    rfl
  unfold Resolver.ask Sweep.ask
  rw [query]
  simp only [reached, List.length_reverse]
  rcases r.zone.query name.toText with ⟨trouble | ⟨answer, overStream⟩, zone⟩
  · exact ⟨.error trouble, by simp [Except.map], rfl, rfl⟩
  · exact ⟨.ok (answer.response name), by simp [Except.map], rfl, rfl⟩

/-- The loop makes the attempts for a name as the transport's queries come out. -/
theorem attempt_reached {text : Text} {name : Name} (h : Name.ofText text = .ok name) (left : Nat)
    (regular : r.Regular servers) :
    let last := (Scan.portsOf Resolver.ask listener).query text left r
    (reached listener r rs).attempt servers listener name left =
        reached listener last.1 (rs ++ last.2.toList) ∧ last.1.Regular servers := by
  induction left generalizing r with
  | zero => exact ⟨handle_reached listener rs none, regular⟩
  | succ left ih =>
    obtain ⟨result, asked, reply, regular⟩ := ask_reached listener rs regular h
    simp only [attempt, asked, Ports.query, Scan.portsOf]
    rw [reply]
    rcases result with trouble | response
    · cases trouble with
      | failure => exact ih regular
      | breakdown message => exact ⟨congrArg (reached listener _) (List.append_nil rs).symm, regular⟩
    · exact ⟨handle_reached listener rs (some response), regular⟩

theorem visit_reached (attempts : Nat) (domain : Text) (selector : Points)
    (regular : r.Regular servers) :
    let last := (Scan.portsOf Resolver.ask listener).respond ⟨attempts, readName⟩
      (questionName selector domain) r
    visit servers listener attempts domain (reached listener r rs) selector =
        reached listener last.1 (rs ++ last.2.toList) ∧ last.1.Regular servers := by
  simp only [visit, Ports.respond, readName]
  cases h : Name.read (questionName selector domain) with
  | ok name => exact attempt_reached listener rs (Name.ofText_eq_ok_iff.2 h) attempts regular
  | error e =>
    cases e with
    | refused e => exact ⟨handle_reached listener rs none, regular⟩
    | noDecimal c => exact ⟨congrArg (reached listener r) (List.append_nil rs).symm, regular⟩

theorem visitAll_reached (attempts : Nat) (domain : Text) (selectors : List Points)
    (regular : r.Regular servers) :
    let last := (Scan.portsOf Resolver.ask listener).respondAll ⟨attempts, readName⟩
      ((targets domain selectors).map Target.name) r
    selectors.foldl (visit servers listener attempts domain) (reached listener r rs) =
        reached listener last.1 (rs ++ last.2) ∧ last.1.Regular servers := by
  induction selectors generalizing r rs with
  | nil => exact ⟨congrArg (reached listener r) (List.append_nil rs).symm, regular⟩
  | cons x selectors ih =>
    obtain ⟨first, regular⟩ := visit_reached listener rs attempts domain x regular
    rw [List.foldl_cons, first, targets, List.map_cons, List.map_cons, Ports.respondAll]
    simp only [← List.append_assoc]
    exact ih _ regular

/-- The loop goes through rules as through all of their candidates. -/
theorem visitRules_reached (attempts : Nat) (domain : Text) (lines : List Text)
    (regular : r.Regular servers) :
    let rules := ofRules ⟨domain⟩ lines
    let last := (Scan.portsOf Resolver.ask listener).respondAll ⟨attempts, readName⟩
      ((targets domain rules.1).map Target.name) r
    visitRules servers listener attempts domain lines (reached listener r rs) =
        (reached listener last.1 (rs ++ last.2), rules.2) := by
  induction lines generalizing r rs with
  | nil => exact congrArg (fun all => (reached listener r all, none)) (List.append_nil rs).symm
  | cons line lines ih =>
    unfold visitRules ofRules
    cases compile line with
    | error e =>
      exact congrArg (fun all => (reached listener r all, some e)) (List.append_nil rs).symm
    | ok tokens =>
      obtain ⟨first, regular⟩ := visitAll_reached listener rs attempts domain
        (candidates ⟨domain⟩ tokens) regular
      simp only [first, ih _ regular, targets_append, List.map_append, Ports.respondAll_append,
        List.append_assoc]

end

end Sweep

/-! ## Scans -/

/-- A resolver replies to every query at once. -/
theorem prompt_resolver (listener : Option Listener) :
    (Scan.portsOf Resolver.ask listener).Prompt := by
  intro r name
  show (Resolver.ask r name).reply ≠ none
  unfold Resolver.ask
  cases r.rotation.query name with
  | error e => exact nofun
  | ok asked =>
    simp only
    rcases r.zone.query asked.1.name.toText with ⟨trouble | answer, zone⟩
    · exact nofun
    · exact nofun

namespace Scan

/-- The candidates of a scan are the selectors of the archive and then those of the rules. -/
theorem candidates_eq (s : Scan) :
    s.candidates.selectors = s.archived.1 ++ (ofRules ⟨s.domain⟩ (liveLines s.rules)).1 ∧
      s.candidates.fault = (ofRules ⟨s.domain⟩ (liveLines s.rules)).2.map .rule := by
  obtain ⟨selectors, fault⟩ := Stream.items_ofLines ⟨s.domain⟩ s.rules
  refine ⟨?_, fault⟩
  rw [← selectors]
  show ((s.archived.1.map Item.candidate ++ _).filterMap Item.selector?) = _
  rw [List.filterMap_append, List.filterMap_map]
  exact congrArg (· ++ _) List.filterMap_some

/-- What a scan comes to whose names were looked up one after the other: the resolver after that, and
the responses. -/
def accountOf (listener : Option Listener) (fault : Option Fault)
    (last : Resolver × List (Option Response)) : Account :=
  ⟨last.1.queries.reverse, announcements listener .empty last.2,
    fault.elim (.ok (handleAll listener .empty last.2).findings) .error⟩

section
variable (s : Scan) (listener : Option Listener)

/-- The resolver and the responses once the candidates of a scan were looked up one after the
other. -/
def lastOf : Resolver × List (Option Response) :=
  (portsOf Resolver.ask listener).respondAll ⟨s.settings.retries.toNat + 1, readName⟩
    ((targets s.domain s.candidates.selectors).map Target.name) s.resolver

/-- The plain loop looks the candidates up one after the other. -/
theorem sweep_eq : s.sweep listener =
    s.checkArchive.map fun _ => accountOf listener s.candidates.fault (s.lastOf listener) := by
  obtain ⟨selectors, fault⟩ := s.candidates_eq
  have regular : s.resolver.Regular (Rotation.ofServers s.settings.nameservers).servers := rfl
  have first : (⟨s.zone, [], .empty, []⟩ : Sweep) = Sweep.reached listener s.resolver [] := rfl
  obtain ⟨known, regular⟩ := Sweep.visitAll_reached listener [] (s.settings.retries.toNat + 1)
    s.domain s.archived.1 regular
  simp only [sweep, first, known, Sweep.visitRules_reached listener _ _ s.domain _ regular]
  rw [lastOf, selectors, fault, targets_append, List.map_append, Ports.respondAll_append]
  cases s.checkArchive with
  | error e => rfl
  | ok _ => cases (ofRules ⟨s.domain⟩ (liveLines s.rules)).2 <;> rfl

variable {s} in
/-- A scan looks its candidates up one after the other, and ends as they do. -/
theorem final_eq (h : 1 ≤ s.settings.concurrency) :
    (s.final listener).transport = (s.lastOf listener).1 ∧
      (s.final listener).responses = (s.lastOf listener).2 ∧
      (s.final listener).handler = handleAll listener .empty (s.lastOf listener).2 ∧
      (s.final listener).calls = [Call.ofFault s.candidates.fault] ∧
      ((granted (s.final listener).trace).map fun g => g.2.2).reverse =
        targets s.domain s.candidates.selectors :=
  Scheduler.run_of_prompt (prompt_resolver listener) (by omega) s.settings.retries s.resolver .empty
    s.candidates s.domain

variable {s} in
/-- What a scan comes to if the archive does not keep it from beginning: its queries and its session
are those at the end, and only its candidates can have ended it before its time. -/
theorem runFor_eq (h : 1 ≤ s.settings.concurrency) :
    s.runFor listener = s.checkArchive.map fun _ =>
      ⟨(s.final listener).handler, (s.final listener).transport.queries.reverse,
        s.archived.2 ++ (s.final listener).entries, s.candidates.fault⟩ := by
  obtain ⟨-, -, -, calls, -⟩ := final_eq listener h
  have ended : ((s.final listener).calls.head?).bind callFault = s.candidates.fault := by
    rw [calls]
    cases s.candidates.fault <;> rfl
  have slots : checkSlots s.settings.concurrency = .ok () := if_neg (by omega)
  rw [← ended, runFor, slots]
  cases s.checkArchive <;> rfl

theorem account_eq (h : 1 ≤ s.settings.concurrency) :
    s.account listener =
      s.checkArchive.map fun _ => accountOf listener s.candidates.fault (s.lastOf listener) := by
  obtain ⟨transport, responses, handler, -, -⟩ := final_eq listener h
  rw [account, runFor_eq listener h, announced, responses, transport, handler]
  cases s.checkArchive <;> rfl

theorem account_eq_sweep (h : 1 ≤ s.settings.concurrency) :
    s.account listener = s.sweep listener := by
  rw [account_eq s listener h, sweep_eq]

end

/-- However many lookups may be in flight, at least one: the queries of a scan, the findings that it
hands to its listener, and the findings or the refused rule that it ends with are those of the plain
loop, which cannot begin either when asking the archive fails altogether. -/
theorem cap_unobservable (s : Scan) (listener : Option Listener) :
    (∀ c₁ c₂ : Int, 1 ≤ c₁ → 1 ≤ c₂ →
      (s.capped c₁).account listener = (s.capped c₂).account listener) ∧
    ∀ c : Int, 1 ≤ c → (s.capped c).account listener = s.sweep listener := by
  have same (c : Int) (hc : 1 ≤ c) : (s.capped c).account listener = s.sweep listener := by
    rw [account_eq_sweep (s.capped c) listener hc]
    rfl
  refine ⟨?_, same⟩
  intro c₁ c₂ h₁ h₂
  rw [same c₁ h₁, same c₂ h₂]

/-- A scan with two servers: the first query for `a` fails, that for `b` breaks down, and the second
rule is refused. -/
def fragile : Scan where
  domain := ['d']
  rules := ["%La,b%".toList, "%X%".toList, ['c']]
  settings := ⟨true, 2048, 1, .standard, [['s'], ['t']]⟩
  archive := some (.body (.list [.object [("selector".toList, .text ['k'])]]) : Archive.Reply)
  zone := ⟨[⟨"a._domainkey.d".toList, [.failure], false,
      ⟨.asked, Response.noError, [.texts [.ofText "p=MAYCAQ8CAQM=".toList]]⟩⟩,
    ⟨"b._domainkey.d".toList, [.breakdown "boom"], false, .noSuchName⟩], true⟩

theorem cap_unobservable_fragile :
    (fragile.capped 1).account (some fun _ => none) =
        (fragile.capped 3).account (some fun _ => none) ∧
      ∃ account, fragile.sweep (some fun _ => none) = .ok account ∧
        (fragile.capped 3).account (some fun _ => none) = .ok account ∧
        account.queries = [("k._domainkey.d".toList, ['s']), ("a._domainkey.d".toList, ['t']),
          ("a._domainkey.d".toList, ['s']), ("b._domainkey.d".toList, ['t'])] ∧
        account.announced.map Key.Finding.modulus = ["15".toList] ∧
        account.outcome = .error (.rule (.unknownDirective 'X' "%X%".toList)) := by
  obtain ⟨same, loop⟩ := cap_unobservable fragile (some fun _ => none)
  refine ⟨same 1 3 (by decide) (by decide), _, rfl, loop 3 (by decide), ?_, ?_, ?_⟩
  · decide +kernel
  · decide +kernel
  · decide +kernel

end Scan

end SelectorScan
