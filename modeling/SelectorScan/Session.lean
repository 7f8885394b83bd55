import SelectorScan.Dns.Response
import SelectorScan.Key.Finding

/-!
# Scan sessions

A session takes the responses of a scan one after the other. The first response about a selector
that exists settles the selector: of its text records the first that holds a usable key becomes a
finding, and later responses about the selector are passed over, however they turn out. Responses
that say nothing about a selector change nothing. A finding is handed on as soon as it is made, to a
listener if there is one; that the listener fails does not undo the finding.
-/

namespace SelectorScan

open KeyRecord Key Dns

structure Session where
  /-- The selectors that have been settled, the latest first. -/
  found : List Text
  /-- The findings in order. -/
  findings : List Finding
deriving DecidableEq, Repr

namespace Session

def empty : Session := ⟨[], []⟩

/-- What findings are handed to: it may fail with a message. -/
abbrev Listener := Finding → Option String

/-- Why handling a response is cut short. -/
inductive Failure where
  | inspection (error : InspectionError)
  | listener (message : String)
deriving DecidableEq, Repr

/-- What is said about handling that is cut short. -/
def Failure.message : Failure → String
  | .inspection e => e.message
  | .listener message => message

/-- A session after a response, the entries about it, the finding handed to the listener, and what
cut the handling short. -/
structure Outcome where
  session : Session
  notes : List Log.Entry
  announced : Option Finding
  failure : Option Failure
deriving DecidableEq, Repr

/-- Nothing happens besides the entries. -/
def unchanged (s : Session) (notes : List Log.Entry) : Outcome :=
  ⟨s, notes, none, none⟩

def add (listener : Option Listener) (s : Session) (f : Finding) (notes : List Log.Entry) :
    Outcome :=
  let s := { s with findings := s.findings ++ [f] }
  match listener with
  | none => ⟨s, notes, none, none⟩
  | some l => ⟨s, notes, some f, (l f).map .listener⟩

/-- The topic of entries about responses. -/
def topic : String := "dkimscan.dkim"

/-- What becomes of a record: a finding if it holds a usable key. -/
def examine (name domain selector : Text) (record : TextRecord) :
    Except InspectionError (Option Finding × List Log.Entry) :=
  let tags := parseTags record.value
  let key := (tags.get? keyName).getD []
  if key.isEmpty then
    .ok (none, [.plain topic .debug
      (String.ofList name ++ " has no usable public key (revoked or not DKIM)")])
  else
    (judge ⟨name, record.shown, domain, selector, (mode tags).name⟩ key).map fun verdict =>
      (verdict.finding?, verdict.notes name)

/-- The finding in the first record that holds a usable key. -/
def firstFinding (name domain selector : Text) :
    List TextRecord → Except InspectionError (Option Finding) × List Log.Entry
  | [] => (.ok none, [])
  | record :: rest =>
    match examine name domain selector record with
    | .error e => (.error e, [])
    | .ok (some f, notes) => (.ok (some f), notes)
    | .ok (none, notes) =>
      let more := firstFinding name domain selector rest
      (more.1, notes ++ more.2)

def settle (listener : Option Listener) (s : Session) (name selector domain : Text)
    (records : List TextRecord) : Outcome :=
  let s := { s with found := selector :: s.found }
  match firstFinding name domain selector records with
  | (.error e, notes) => ⟨s, notes, none, some (.inspection e)⟩
  | (.ok none, notes) => s.unchanged notes
  | (.ok (some f), notes) => s.add listener f notes

/-- Takes a response; `none` is a lookup that was given up. -/
def handle (listener : Option Listener) (s : Session) (response : Option Response) : Outcome :=
  match response with
  | none => s.unchanged []
  | some r =>
    if r.code = Response.noSuchName then s.unchanged []
    else
      match r.question with
      | none =>
        s.unchanged [.plain topic .warning "Response without a question section, skipping"]
      | some question =>
        let name := question.toText
        match splitName name with
        | none =>
          s.unchanged [.plain topic .warning
            ("Unexpected question name " ++ String.ofList name ++ ", skipping")]
        | some (selector, domain) =>
          if s.found.contains selector then s.unchanged []
          else s.settle listener name selector domain r.textRecords

def handleAll (listener : Option Listener) (s : Session) (responses : List (Option Response)) :
    Session :=
  responses.foldl (fun s r => (s.handle listener r).session) s

/-- The findings handed to the listener during a sequence of responses, in order. -/
def announcements (listener : Option Listener) (s : Session) :
    List (Option Response) → List Finding
  | [] => []
  | r :: rest =>
    let outcome := s.handle listener r
    outcome.announced.toList ++ announcements listener outcome.session rest

end Session

end SelectorScan
