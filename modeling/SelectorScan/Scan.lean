import SelectorScan.Archive
import SelectorScan.Lookup.Zone
import SelectorScan.Session
import SelectorScan.Settings

/-!
# Scans

A scan looks up the key record of every candidate selector of a domain and gathers the findings.
Candidates are those of the rules, behind the selectors that the archive knows if it is asked.
A rule that is refused ends the scan once the lookups made so far are through. An error that nobody
has expected of the archive ends it before the first lookup.
-/

namespace SelectorScan

open Candidate Lookup Dns

/-- What is to be scanned, and what the net answers. -/
structure Scan where
  domain : Text
  rules : List Text
  settings : Settings
  /-- The archive's reply, if the archive is to be asked. -/
  archive : Option (Archive.Reply Point)
  zone : Zone

namespace Scan

structure Result where
  session : Session
  /-- The queries made, as the text of the name and the server. -/
  queries : List (Text × Text)
  entries : List Log.Entry
  /-- What ended the scan before its time. -/
  fault : Option Fault

/-- A transport, and a handler that keeps a session. -/
def portsOf {σ : Type} (ask : σ → Text → Asked σ Response) (listener : Option Session.Listener) :
    Ports σ Session Response where
  ask
  handle := fun session response =>
    let outcome := session.handle listener response
    ⟨outcome.session, outcome.notes, outcome.failure.map Session.Failure.message⟩

/-- The candidates that the archive's reply gives, and the entries about it. -/
def archived (s : Scan) : List Points × List Log.Entry :=
  match s.archive with
  | none => ([], [])
  | some reply =>
    let result := Archive.fetch s.domain reply
    (result.selectors.map fun v => v.display, result.notes)

def candidates (s : Scan) : Candidates :=
  let generated := (Stream.ofLines s.rules).items ⟨s.domain⟩
  ⟨s.archived.1.map Item.candidate ++ generated.items, generated.fault⟩

/-- The transport of a scan before the first query. -/
def resolver (s : Scan) : Resolver :=
  ⟨s.zone, .ofServers s.settings.nameservers, []⟩

def scheduler (s : Scan) : Scheduler Resolver Session Response :=
  .idle s.settings.concurrency.toNat s.settings.retries s.resolver .empty

/-- What ended a call before its time. -/
def callFault : Call → Option Fault
  | .failed fault => some fault
  | _ => none

/-- Why a scan cannot begin. -/
inductive Obstacle where
  /-- No lookup may be in flight. -/
  | noSlots
  /-- Asking the archive has failed with an error that nobody has expected. -/
  | archive (error : String)
deriving DecidableEq, Repr

/-- What is said about a scan that cannot begin. -/
def Obstacle.message : Obstacle → String
  | .noSlots => "max_in_flight must be at least 1"
  | .archive error => error

/-- Whether so many lookups may be in flight. -/
def checkSlots (concurrency : Int) : Except Obstacle Unit :=
  if concurrency < 1 then .error .noSlots else .ok ()

/-- Whether nothing unexpected comes of asking the archive. -/
def checkArchive (s : Scan) : Except Obstacle Unit :=
  match s.archive.bind fun reply => (Archive.fetch s.domain reply).uncaught with
  | some error => .error (.archive error)
  | none => .ok ()

/-- The scheduler at the end of a scan whose findings are handed to a listener. -/
def final (s : Scan) (listener : Option Session.Listener) : Scheduler Resolver Session Response :=
  s.scheduler.run (portsOf Resolver.ask listener) s.candidates s.domain

/-- The findings that a scan hands to its listener, in order. -/
def announced (s : Scan) (listener : Option Session.Listener) : List Key.Finding :=
  Session.announcements listener .empty (s.final listener).responses

/-- Scans whose findings are handed to a listener. -/
def runFor (listener : Option Session.Listener) (s : Scan) : Except Obstacle Result := do
  checkSlots s.settings.concurrency
  s.checkArchive
  let final := s.final listener
  return {
    session := final.handler
    queries := final.transport.queries.reverse
    entries := s.archived.2 ++ final.entries
    fault := (final.calls.head?).bind callFault }

def run (s : Scan) : Except Obstacle Result :=
  s.runFor none

end Scan

end SelectorScan
