import SelectorScan.Dns.Response
import SelectorScan.Lookup.Rotation
import SelectorScan.Lookup.Scheduler

/-!
# Zones

A zone says how queries for names end: some names first give trouble a number of times, and then
all give their response. A name the zone does not know does not exist; where no zone can be reached
every query fails. A `Resolver` is a transport that answers every query from a zone at once.
-/

namespace SelectorScan.Lookup

open Dns

/-- The name that a response says was asked for. -/
inductive Question where
  /-- The one that was asked for. -/
  | asked
  /-- Another one, or none. -/
  | fixed (name : Option Name)
deriving DecidableEq, Repr

/-- A response that is still to be given its question. -/
structure Answer where
  question : Question
  code : String
  records : List RecordSet
deriving DecidableEq, Repr

def Answer.response (a : Answer) (name : Name) : Response where
  question :=
    match a.question with
    | .asked => some name
    | .fixed name => name
  code := a.code
  answer := a.records

def Answer.noSuchName : Answer :=
  ⟨.asked, Response.noSuchName, []⟩

/-- What keeps a query from being answered. -/
inductive Trouble where
  | failure
  | breakdown (message : String)
deriving DecidableEq, Repr

def Trouble.reply {α : Type} : Trouble → Reply α
  | .failure => .failure
  | .breakdown message => .breakdown message

/-- What a zone says about a name. -/
structure ZoneEntry where
  /-- The name in text, without the dot of the root. -/
  name : Text
  /-- The troubles still to come, one for each query. -/
  troubles : List Trouble
  /-- Whether the response takes a second query over a stream connection. -/
  overStream : Bool
  answer : Answer
deriving DecidableEq, Repr

structure Zone where
  entries : List ZoneEntry
  /-- Whether it can be reached at all. -/
  reachable : Bool
deriving DecidableEq, Repr

/-- What a query for a name, given as text, comes to among the entries: its trouble or its answer,
whether the answer takes a second query, and the entries after it. -/
def queryEntries (name : Text) :
    List ZoneEntry → (Except Trouble (Answer × Bool)) × List ZoneEntry
  | [] => (.ok (.noSuchName, false), [])
  | entry :: rest =>
    if entry.name = name then
      match entry.troubles with
      | [] => (.ok (entry.answer, entry.overStream), entry :: rest)
      | trouble :: more => (.error trouble, { entry with troubles := more } :: rest)
    else
      let result := queryEntries name rest
      (result.1, entry :: result.2)

def Zone.query (name : Text) (z : Zone) : (Except Trouble (Answer × Bool)) × Zone :=
  if z.reachable then
    let result := queryEntries name z.entries
    (result.1, { z with entries := result.2 })
  else (.error .failure, z)

/-- A transport that answers from a zone. -/
structure Resolver where
  zone : Zone
  rotation : Rotation
  /-- The queries made, as the text of the name and the server, the latest first. -/
  queries : List (Text × Text)
deriving DecidableEq, Repr

def Resolver.ask (r : Resolver) (name : Text) : Asked Resolver Response :=
  match r.rotation.query name with
  | .error _ => ⟨r, [], some .failure⟩
  | .ok (query, rotation) =>
    let text := query.name.toText
    let (result, zone) := r.zone.query text
    let r : Resolver := ⟨zone, rotation, (text, query.server) :: r.queries⟩
    match result with
    | .error trouble => ⟨r, [], some trouble.reply⟩
    | .ok (answer, overStream) =>
      let notes := if overStream then
          [.plain "dkimscan.transport" .debug
            (String.ofList name ++ " retried over TCP via " ++ String.ofList query.server)]
        else []
      ⟨r, notes, some (.answer (answer.response query.name))⟩

end SelectorScan.Lookup
