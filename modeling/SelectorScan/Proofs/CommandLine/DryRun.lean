import SelectorScan.CommandLine.Program
import SelectorScan.Proofs.Candidate.Characters
import SelectorScan.Proofs.Lookup.Zone
import SelectorScan.Proofs.Scan.Sweep
import SelectorScan.Proofs.Text.Terminated

/-!
# Lists tell what scans do

The program can list its candidates instead of scanning. The list and the scan take them from the
same rules, the list at once and the scan as slots come free; so the list tells which selectors the
scan submits, which names it queries, in which order, and how it ends (`Foretold`):

    1 ≤ s.concurrency → rules.1 = selectors.map Points.ofText →
      Foretold ⟨domain, lines, s, none, w.zone⟩ selectors refused
        (listCandidates domain lines) (scanCandidates w a s domain lines)     (list_foretells_scan)

The candidates have to be text, as one that holds a surrogate can be submitted but not be printed;
and the transport may write a name in a query otherwise than it was asked for.
-/

namespace SelectorScan.CommandLine

open Candidate Lookup Rule

/-- The list of selectors tells what a scan does; both end early if a rule is refused. -/
structure Foretold (s : Scan) (selectors : List Text) (refused : Bool) (listing scan : Outcome) :
    Prop where
  /-- Each selector is a line of the list. -/
  listed : '\n' ∉ s.domain → Text.split '\n' listing.output = selectors ++ [[]]
  /-- The scan submits each selector, whoever its findings are handed to. -/
  submitted : ∀ listener, (s.final listener).submissions =
    selectors.map fun selector : Text => ⟨selector, s.domain⟩
  /-- The names that are well formed are asked for. -/
  attempted : ∀ listener, (s.final listener).attempted =
    (selectors.map fun selector : Text => questionName selector s.domain).filter
      (wellFormed readName)
  /-- Queries are made for these names only, for each until an attempt does not fail. -/
  queried : ∃ blocks, List.Forall₂ (Repeated (s.settings.retries.toNat + 1))
      ((selectors.map fun selector : Text => questionName selector s.domain).filter
        (wellFormed readName)) blocks ∧
    scan.queries.map Prod.fst = blocks.flatten
  listing_ends : listing.ending = .exit (if refused then 1 else 0)
  scan_ends : scan.ending = .exit (if refused then 1 else 0)

/-! ## Lists -/

/-- Items can be printed up to the first candidate that is no text. -/
theorem selectors_takeWhile (items : List Item) :
    (items.takeWhile isPrintable).filterMap Item.selector? =
      (items.filterMap Item.selector?).takeWhile fun x => x.text?.isSome := by
  induction items with
  | nil => rfl
  | cons item items ih =>
    cases item with
    | note entry => exact ih
    | candidate selector =>
      show _ = (selector :: items.filterMap Item.selector?).takeWhile _
      rw [List.takeWhile_cons, List.takeWhile_cons, isPrintable]
      cases selector.text?.isSome with
      | false => rfl
      | true => exact congrArg (selector :: ·) ih

theorem all_isPrintable (items : List Item) :
    items.all isPrintable = (items.filterMap Item.selector?).all fun x => x.text?.isSome := by
  induction items with
  | nil => rfl
  | cons item items ih =>
    cases item with
    | note entry => exact ih
    | candidate selector => exact congrArg (selector.text?.isSome && ·) ih

theorem length_takeWhile_lt_iff {α : Type} {p : α → Bool} {l : List α} :
    (l.takeWhile p).length < l.length ↔ l.all p = false := by
  have part : l.takeWhile p <+: l := List.takeWhile_prefix p
  rw [← not_iff_not, Nat.not_lt, Bool.not_eq_false, List.all_eq_true, ← List.takeWhile_eq_self_iff]
  exact ⟨part.eq_of_length_le, fun h => by rw [h]⟩

/-- A list gives the candidates of the rules up to one that is no text, with which it fails, or to a
rule that is refused. -/
theorem listCandidates_eq (domain : Text) (lines : List Text) :
    let rules := ofRules ⟨domain⟩ (liveLines lines)
    (listCandidates domain lines).output = Report.candidates
        ((rules.1.takeWhile fun x => x.text?.isSome).filterMap Points.text?) ∧
      (listCandidates domain lines).ending =
        if rules.1.all fun x => x.text?.isSome then .exit (if rules.2.isSome then 1 else 0)
        else .failure .encoding := by
  intro rules
  obtain ⟨selectors, fault⟩ := Stream.items_ofLines ⟨domain⟩ lines
  simp only [listCandidates, selectors_takeWhile, length_takeWhile_lt_iff, all_isPrintable, fault]
  rw [Candidates.selectors] at selectors
  rw [selectors]
  cases rules.1.all fun x => x.text?.isSome with
  | false => exact ⟨rfl, rfl⟩
  | true => cases rules.2 <;> exact ⟨rfl, rfl⟩

/-- Candidates that are text are all listed. -/
theorem listCandidates_texts {domain : Text} {lines texts : List Text}
    (h : (ofRules ⟨domain⟩ (liveLines lines)).1 = texts.map Points.ofText) :
    (listCandidates domain lines).output = Report.candidates texts ∧
      (listCandidates domain lines).ending =
        .exit (if (ofRules ⟨domain⟩ (liveLines lines)).2.isSome then 1 else 0) := by
  obtain ⟨output, ending⟩ := listCandidates_eq domain lines
  have all : (texts.map Points.ofText).all (fun x => x.text?.isSome) = true := by
    simp [Points.text?_ofText]
  have whole : (texts.map Points.ofText).takeWhile (fun x => x.text?.isSome) =
      texts.map Points.ofText :=
    List.takeWhile_eq_self_iff.2 (List.all_eq_true.1 all)
  rw [output, ending, h, whole, all]
  simp [Points.text?_ofText]

/-! ## Scans -/

/-- A scan that does not ask the archive has the candidates of the rules. -/
theorem selectors_candidates {s : Scan} (unasked : s.archive = none) :
    s.candidates.selectors = (ofRules ⟨s.domain⟩ (liveLines s.rules)).1 := by
  have none : s.archived.1 = [] := by
    rw [Scan.archived, unasked]
  rw [s.candidates_eq.1, none]
  rfl

section
variable {s : Scan} (h : 1 ≤ s.settings.concurrency) (unasked : s.archive = none)
include h unasked

theorem submissions_final (listener : Option Session.Listener) :
    (s.final listener).submissions =
      targets s.domain (ofRules ⟨s.domain⟩ (liveLines s.rules)).1 := by
  obtain ⟨-, -, -, -, granted⟩ := Scan.final_eq listener h
  rw [selectors_candidates unasked] at granted
  exact granted

theorem attempted_final (listener : Option Session.Listener) :
    (s.final listener).attempted =
      ((targets s.domain (ofRules ⟨s.domain⟩ (liveLines s.rules)).1).map Target.name).filter
        (wellFormed readName) := by
  have begun : Scheduler.Reachable (Scan.portsOf Resolver.ask listener) s.scheduler s.scheduler :=
    .refl
  obtain ⟨reached, rest⟩ := begun.receive_toRest (.run s.candidates s.domain)
  rw [← submissions_final h unasked listener]
  exact reached.attempted_of_atRest rest

theorem exists_blocks_final :
    ∃ blocks, List.Forall₂ (Repeated (s.settings.retries.toNat + 1))
        (((targets s.domain (ofRules ⟨s.domain⟩ (liveLines s.rules)).1).map Target.name).filter
          (wellFormed readName)) blocks ∧
      (s.final none).transport.queries.reverse.map Prod.fst = blocks.flatten := by
  obtain ⟨transport, -, -, -, -⟩ := Scan.final_eq none h
  have resolves : (Scan.portsOf Resolver.ask none).ask = Resolver.ask := rfl
  obtain ⟨blocks, each, names⟩ := exists_blocks resolves (Nat.succ_pos s.settings.retries.toNat)
    ((targets s.domain s.candidates.selectors).map Target.name) s.resolver
  rw [selectors_candidates unasked] at each
  refine ⟨blocks, each, ?_⟩
  rw [List.map_reverse, transport]
  exact names

end

/-- A scan of a zone ends with the rules. -/
theorem scanCandidates_eq (w : World) (a : Arguments) {s : Settings} (domain : Text)
    (lines : List Text) (unasked : a.archive = false) (slots : 1 ≤ s.concurrency) :
    let sc : Scan := ⟨domain, lines, s, none, w.zone⟩
    (scanCandidates w a s domain lines).queries = (sc.final none).transport.queries.reverse ∧
      (scanCandidates w a s domain lines).ending =
        .exit (if (ofRules ⟨domain⟩ (liveLines lines)).2.isSome then 1 else 0) := by
  intro sc
  have run : sc.run = _ := Scan.runFor_eq none slots
  have fault : sc.candidates.fault = (ofRules ⟨domain⟩ (liveLines lines)).2.map .rule :=
    sc.candidates_eq.2
  have scanned {result : Scan.Result} (ended : sc.run = .ok result) :
      scanCandidates w a s domain lines = reportScan w a s.quiet domain result := by
    have asked : Scan.run ⟨domain, lines, s, if a.archive then some w.archive else none, w.zone⟩ =
        .ok result := by
      rw [unasked]
      exact ended
    rw [scanCandidates, asked]
  rw [scanned run, fault]
  cases (ofRules ⟨domain⟩ (liveLines lines)).2 with
  | none => exact ⟨rfl, rfl⟩
  | some e => exact ⟨rfl, rfl⟩

/-! ## The program -/

/-- Log entries tell nothing of this. -/
theorem Foretold.after {s : Scan} {selectors : List Text} {refused : Bool} {listing scan : Outcome}
    (h : Foretold s selectors refused listing scan) (entries entries' : List Log.Entry) :
    Foretold s selectors refused (listing.after entries) (scan.after entries') :=
  ⟨h.listed, h.submitted, h.attempted, h.queried, h.listing_ends, h.scan_ends⟩

theorem withArguments_eq {w : World} {a : Arguments} {lines : List Text}
    (slots : 1 ≤ (settings w a).1.concurrency) (loaded : (loadRules w a.rules).1 = .lines lines) :
    withArguments w a = (withRules w a (settings w a).1 lines).after
      ((settings w a).2 ++ [(loadRules w a.rules).2]) := by
  unfold withArguments
  rcases hl : loadRules w a.rules with ⟨rules, note⟩
  rw [hl] at loaded
  obtain rfl : rules = .lines lines := loaded
  exact if_neg (Int.not_lt.2 slots)

/-- For all rules, domains, zones and settings with a slot: the list that is printed instead of
scanning tells what the scan does, if the archive is not asked and all candidates are text. If a
rule is refused, both stop at it, with the candidates of the rules before it. This is so for the
program as a whole, too. -/
theorem list_foretells_scan (w : World) (a : Arguments) (s : Settings) (domain : Text)
    (lines selectors : List Text) (unasked : a.archive = false) (slots : 1 ≤ s.concurrency)
    (texts : (ofRules ⟨domain⟩ (liveLines lines)).1 = selectors.map Points.ofText) :
    let scan : Scan := ⟨domain, lines, s, none, w.zone⟩
    let rules := ofRules ⟨domain⟩ (liveLines lines)
    Foretold scan selectors rules.2.isSome (listCandidates domain lines)
      (scanCandidates w a s domain lines) ∧
    (∀ front bad back e, liveLines lines = front ++ bad :: back →
      (∀ line ∈ front, ∃ tokens, compile line = .ok tokens) → compile bad = .error e →
      rules = ((ofRules ⟨domain⟩ front).1, some e)) ∧
    ((settings w a).1 = s → (loadRules w a.rules).1 = .lines lines →
      targetDomain (a.domain.getD []) = domain →
      Foretold scan selectors rules.2.isSome (withArguments w { a with list := true })
        (withArguments w { a with list := false })) := by
  intro scan rules
  obtain ⟨output, listing⟩ := listCandidates_texts texts
  obtain ⟨queries, ending⟩ := scanCandidates_eq w a domain lines unasked slots
  have submitted := submissions_final (s := scan) slots rfl
  have attempted := attempted_final (s := scan) slots rfl
  obtain ⟨blocks, each, queried⟩ := exists_blocks_final (s := scan) slots rfl
  simp only [scan, texts, targets, List.map_map] at submitted attempted each
  have foretold : Foretold scan selectors rules.2.isSome (listCandidates domain lines)
      (scanCandidates w a s domain lines) := by
    refine ⟨?_, submitted, attempted, ⟨blocks, each, ?_⟩, listing, ending⟩
    · intro clean
      rw [output]
      refine Text.split_terminated fun x hx => ?_
      rw [← Points.mem_ofText]
      exact noFeed_of_mem_ofRules clean (texts ▸ List.mem_map_of_mem hx)
    · rw [queries]
      exact queried
  refine ⟨foretold, ?_, ?_⟩
  · intro front bad back e hl sound refused
    show ofRules ⟨domain⟩ (liveLines lines) = _
    rw [hl, ofRules_of_refused sound refused]
  · rintro rfl loaded rfl
    have listed := withArguments_eq (a := { a with list := true }) slots loaded
    have scanned := withArguments_eq (a := { a with list := false }) slots loaded
    rw [listed, scanned]
    exact foretold.after _ _

/-- A rule file whose first rule gives a selector twice, and between them one that makes no name; its
second rule is refused. -/
def refusing : World where
  environment := []
  openFile _ := .ok ("%La,,a%\n%X%\nc\n".toList.map fun c => c.toNat.toUInt8)
  archive := .failed []
  zone := ⟨[], true⟩
  sheet := none

theorem list_foretells_scan_refused :
    let a : Arguments := { Arguments.none with domain := some ['d'], rules := some ['r'] }
    let lines := ["%La,,a%".toList, "%X%".toList, ['c']]
    let scan : Scan := ⟨['d'], lines, (settings refusing a).1, none, refusing.zone⟩
    Foretold scan [['a'], [], ['a']] true (withArguments refusing { a with list := true })
        (withArguments refusing { a with list := false }) ∧
      Text.split '\n' (withArguments refusing { a with list := true }).output =
        [['a'], [], ['a'], []] ∧
      (scan.final none).attempted = ["a._domainkey.d".toList, "a._domainkey.d".toList] := by
  intro a lines scan
  have rules : ofRules ⟨['d']⟩ (liveLines lines) =
      ([['a'], [], ['a']].map Points.ofText, some (.unknownDirective 'X' "%X%".toList)) := by
    decide +kernel
  have loaded : (loadRules refusing a.rules).1 = .lines lines := by
    have read : linesOfBytes? ("%La,,a%\n%X%\nc\n".toList.map fun c => c.toNat.toUInt8) =
        some lines := by
      decide +kernel
    simp only [a, loadRules, refusing, read]
  obtain ⟨-, -, program⟩ :=
    list_foretells_scan refusing a (settings refusing a).1 ['d'] lines [['a'], [], ['a']] rfl
      (by decide +kernel) (congrArg Prod.fst rules)
  have foretold := program rfl loaded (by decide +kernel)
  rw [rules] at foretold
  refine ⟨foretold, foretold.listed (by decide), ?_⟩
  rw [foretold.attempted none]
  decide +kernel

/-- A list and a scan of one rule part where surrogates stand between two letters: the list breaks
off in front of the first of them, and the scan submits it. And the query for a name with an escape
is for the name that the escape writes. -/
theorem list_parts_from_scan :
    let rule : Text := ['%', 'N', '\ud7fb', ',', '\uf900', '%']
    let scan : Scan := ⟨['d'], [rule], .standard, none, refusing.zone⟩
    ((listCandidates ['d'] [rule]).ending = .failure .encoding ∧
      (Text.split '\n' (listCandidates ['d'] [rule]).output).length = 6 ∧
      ∀ listener, (scan.final listener).submissions[5]? = some ⟨[.surrogate 0], ['d']⟩) ∧
    Text.split '\n' (listCandidates ['d'] ["\\097".toList]).output = ["\\097".toList, []] ∧
    (scanCandidates refusing Arguments.none .standard ['d'] ["\\097".toList]).queries.map Prod.fst =
      ["a._domainkey.d".toList] := by
  intro rule scan
  refine ⟨⟨?_, ?_, ?_⟩, ?_, ?_⟩
  · rw [(listCandidates_eq _ _).2]
    decide +kernel
  · rw [(listCandidates_eq _ _).1]
    decide +kernel
  · intro listener
    rw [submissions_final (by decide) rfl]
    decide +kernel
  · rw [(listCandidates_eq _ _).1]
    decide +kernel
  · have slots : (1 : Int) ≤ Settings.standard.concurrency := by decide
    rw [(scanCandidates_eq refusing Arguments.none _ _ rfl slots).1,
      (Scan.final_eq none slots).1, Scan.lastOf, selectors_candidates rfl]
    decide +kernel

end SelectorScan.CommandLine
