import SelectorScan.Lookup.Scheduler

/-!
# Lookups one after the other

The plain loop that says what a scheduler is for: each name is queried until it is answered, breaks
down or is given up, and its response is handled, before the next name is looked at. There is no
cap, no slot and no waiting, so the loop needs no states but those of the transport and the handler.
A query that a transport leaves waiting ends its lookup here, unhandled.
-/

namespace SelectorScan.Lookup

namespace Ports

variable {σ η α : Type}

/-! ## Algorithm -/

/-- Queries a name up to the given number of times. The result is what the handler is to be given:
an answer, or none when the name is given up; there is nothing to give it after a breakdown. -/
def query (ports : Ports σ η α) (name : Text) : Nat → σ → σ × Option (Option α)
  | 0, transport => (transport, some none)
  | left + 1, transport =>
    let asked := ports.ask transport name
    match asked.reply with
    | some (.answer value) => (asked.state, some (some value))
    | some .failure => query ports name left asked.state
    | some (.breakdown _) => (asked.state, none)
    | none => (asked.state, none)

/-- Looks a name up; a malformed one is given up without a query, and with one that cannot be read
at all nothing is done. -/
def lookUp (ports : Ports σ η α) (read : Text → Reading) (attempts : Nat) (name : Text)
    (s : σ × η) : σ × η :=
  match read name with
  | .malformed _ => (s.1, (ports.handle s.2 none).state)
  | .breakdown _ => s
  | .wellFormed =>
    match ports.query name attempts s.1 with
    | (transport, none) => (transport, s.2)
    | (transport, some response) => (transport, (ports.handle s.2 response).state)

def lookUpAll (ports : Ports σ η α) (read : Text → Reading) (attempts : Nat) (domain : Text)
    (selectors : List Points) (s : σ × η) : σ × η :=
  selectors.foldl (fun s x => ports.lookUp read attempts (questionName x domain) s) s

/-! ## Lemmas -/

variable {ports : Ports σ η α} {read : Text → Reading} {attempts : Nat} {domain : Text}

@[simp] theorem lookUpAll_nil (s : σ × η) : ports.lookUpAll read attempts domain [] s = s := rfl

@[simp] theorem lookUpAll_cons (selector : Points) (selectors : List Points) (s : σ × η) :
    ports.lookUpAll read attempts domain (selector :: selectors) s =
      ports.lookUpAll read attempts domain selectors
        (ports.lookUp read attempts (questionName selector domain) s) := rfl

end Ports

end SelectorScan.Lookup
