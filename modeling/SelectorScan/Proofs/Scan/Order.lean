import SelectorScan.Proofs.Lookup.Run
import SelectorScan.Proofs.Session.Order
import SelectorScan.Scan

/-!
# Scans do not depend on the order of replies

However many lookups are in flight, and in whatever order their queries are replied to: when lookups
are decided by their names, and answers about one selector are equal, a run leaves the session that
looking the candidates up one after the other leaves, but for the order of what was found. It may be
another transport that is asked one after the other, as long as the names decide the same there.
-/

namespace SelectorScan

open Candidate Lookup Dns Session

variable {σ τ : Type}

namespace Scan

/-- The session of a scan after the handler was given some responses, the latest first. -/
theorem foldr_handle_eq_handleAll (ask : σ → Text → Asked σ Response)
    (listener : Option Listener) (given : List (Nat × Option Response)) (s : Session) :
    given.foldr (fun r s => ((portsOf ask listener).handle s r.2).state) s =
      handleAll listener s (given.map Prod.snd).reverse := by
  rw [handleAll, List.foldl_reverse, List.foldr_map]
  rfl

/-- A run leaves what looking up one candidate after the other leaves, in some order. -/
theorem session_of_run {cap : Nat} {retries : Int} {ask : σ → Text → Asked σ Response}
    {listener : Option Listener} {transport : σ} {c : Candidates} {domain : Text}
    {final : Text → Option Response} {s : Scheduler σ Session Response}
    {ask' : τ → Text → Asked τ Response} (transport' : τ)
    (h : Scheduler.Reachable (portsOf ask listener) (.idle cap retries transport .empty) s)
    (only : s.requests = [.run c domain]) (done : s.calls = [.done])
    (decided : Decided (retries.toNat + 1) final s.trace)
    (settles : (portsOf ask' listener).Settles readName (retries.toNat + 1) final)
    (agree : ∀ a ∈ answers s.trace, ∀ b ∈ answers s.trace, a.2.selector? ≠ none →
      a.2.selector? = b.2.selector? → a.2 = b.2) :
    Similar s.handler ((portsOf ask' listener).lookUpAll readName (retries.toNat + 1) domain
      c.selectors (transport', .empty)).2 := by
  have attempts : s.terms.attempts = retries.toNat + 1 := by rw [h.terms_eq]
  obtain ⟨stories, tally⟩ := h.stories
  have perm := h.responses_perm only done (attempts ▸ decided)
  rw [lookUpAll_of_settles settles, tally.handler, foldr_handle_eq_handleAll]
  have answer {r : Response} (hr : some r ∈ ((handled s.trace).map Prod.snd).reverse) :
      ∃ n, (n, r) ∈ answers s.trace := by
    obtain ⟨⟨n, r⟩, hm, rfl⟩ := List.mem_map.1 (List.mem_reverse.1 hr)
    exact ⟨n, (stories.answered_iff n _).1 hm⟩
  apply handleAll_perm ((List.reverse_perm _).trans perm)
  intro r r' selector hr hr' hs hs'
  obtain ⟨n, hn⟩ := answer hr
  obtain ⟨m, hm⟩ := answer hr'
  refine agree _ hn _ hm ?_ (hs.trans hs'.symm)
  rw [hs]
  exact nofun

/-- Every name exists, and its response holds no record. -/
def bare (name : Text) : Option Response :=
  some ⟨(Dns.Name.ofText name).toOption, Response.noError, []⟩

/-- A transport that makes every query wait. -/
def waitingPorts : Ports Unit Session Response :=
  portsOf (fun _ _ => ⟨(), [], none⟩) none

/-- A query for a name that stands in front of the domain is answered. -/
def answered (x : String) (s : Scheduler Unit Session Response) : Scheduler Unit Session Response :=
  let name := questionName x.toList "d".toList
  ((s.delivered name (((bare name).map Reply.answer).getD .failure))).advance waitingPorts 20

theorem reachable_answered {s₀ s : Scheduler Unit Session Response}
    (h : Scheduler.Reachable waitingPorts s₀ s) (x : String) :
    Scheduler.Reachable waitingPorts s₀ (answered x s) :=
  (h.delivered _ _).advance 20

/-- A run of three candidates with two slots, whose queries are answered out of order. -/
def backwards : Scheduler Unit Session Response :=
  answered "a" (answered "c" (answered "b" (((Scheduler.idle 2 1 () .empty).receive
    (.run ⟨["a", "b", "c"].map fun x => .candidate x.toList, none⟩ "d".toList)).advance
      waitingPorts 20)))

theorem session_of_run_backwards :
    backwards.calls = [.done] ∧ backwards.handler.found = ["a", "c", "b"].map String.toList ∧
      Similar backwards.handler ((portsOf (answering bare) none).lookUpAll readName
        ((1 : Int).toNat + 1) "d".toList (["a", "b", "c"].map fun x => (x.toList : Points))
        ((), .empty)).2 := by
  have idle : Scheduler.Reachable waitingPorts (.idle 2 1 () .empty) (.idle 2 1 () .empty) := .refl
  have called := (idle.call
    (.run ⟨["a", "b", "c"].map fun x => .candidate x.toList, none⟩ "d".toList)).advance 20
  have h : Scheduler.Reachable waitingPorts (.idle 2 1 () .empty) backwards :=
    reachable_answered (reachable_answered (reachable_answered called "b") "c") "a"
  have decided : Decided ((1 : Int).toNat + 1) bare backwards.trace :=
    ⟨by decide, by decide, rfl⟩
  have settles : (portsOf (answering bare) none).Settles readName ((1 : Int).toNat + 1) bare :=
    settles_answering rfl _
  exact ⟨rfl, rfl, session_of_run () h rfl rfl decided settles (by decide)⟩

end Scan

end SelectorScan
