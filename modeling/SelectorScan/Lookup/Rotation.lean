import SelectorScan.Dns.Name
import SelectorScan.Number.Binary64

/-!
# Queries to rotating name servers

A transport sends each query to the next of its name servers, from the first to the last and over
again. A malformed name makes no query and does not use up a server.
-/

namespace SelectorScan.Lookup

/-- How long a query may take. -/
inductive Timeout where
  | unlimited
  | whole (seconds : Int)
  | seconds (value : Number.Binary64)
deriving DecidableEq, Repr

namespace Timeout

def write : Timeout → Text
  | unlimited => "None".toList
  | whole i => Text.ofInt i
  | seconds x => x.write

/-- The timeout of a query when nothing else is asked for: five seconds. -/
def standard : Timeout :=
  seconds (Number.Binary64.ofDecimal false 5 0)

end Timeout

/-- The name servers used when none are given. -/
def standardServers : List Text :=
  ["1.1.1.1".toList, "1.0.0.1".toList]

/-- Name servers and how many queries have been made. -/
structure Rotation where
  servers : List Text
  made : Nat
deriving DecidableEq, Repr

namespace Rotation

/-- The rotation through the given servers, or through the usual ones if none are given. -/
def ofServers (servers : List Text) : Rotation where
  servers := if servers.isEmpty then standardServers else servers
  made := 0

def server (r : Rotation) : Text :=
  r.servers.getD (r.made % r.servers.length) []

/-- The rotation after one more query. -/
def next (r : Rotation) : Rotation :=
  { r with made := r.made + 1 }

end Rotation

/-- A query for the text records of a name. -/
structure Query where
  name : Dns.Name
  server : Text
deriving DecidableEq, Repr

def Query.recordType : String := "TXT"

/-- The version of the extension mechanism that queries announce. -/
def Query.extensionVersion : Nat := 0

/-- The size of the responses that queries ask for. -/
def Query.payload : Nat := 1232

def Rotation.query (r : Rotation) (name : Text) : Except Dns.NameError (Query × Rotation) :=
  match Dns.Name.ofText name with
  | .error e => .error e
  | .ok name => .ok (⟨name, r.server⟩, r.next)

end SelectorScan.Lookup
