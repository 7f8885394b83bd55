import SelectorScan.Proofs.Json
import SelectorScan.Proofs.Scan.Sweep

/-!
# Scans that ask the archive

What the records of the archive offer are the selectors of its objects that are more than nothing
(`offered`), and each is used where it first occurs (`firsts`). The loop that gathers them compares
a value with those that it has kept; as equality is transitive, that is as good as comparing it with
all that came before (`selectorsOf_eq`). A reply that is no list of records gives nothing but log
entries, so that the scan is the one without the archive, unless it breaks the scan:

    (s.asking (some reply)).account listener = (s.asking none).account listener
    (s.asking (some (.broken error))).account listener = .error (.archive error)
    (s.asking (some (.body (.list records)))).candidates = firsts (offered records), then the others
                                                                           (archive_only_in_front)
-/

namespace SelectorScan

open Candidate Json

/-! ## Selectors of the archive -/

namespace Archive

variable {γ : Type} [DecidableEq γ]

/-- Each value where it first occurs: what is the same as a value before it is left out. -/
def firsts : List (Json γ) → List (Json γ)
  | [] => []
  | v :: rest => v :: (firsts rest).filter fun w => !same w v

theorem firsts_sublist (values : List (Json γ)) : (firsts values).Sublist values := by
  induction values with
  | nil => exact .slnil
  | cons v rest ih => exact (List.filter_sublist.trans ih).cons_cons v

/-- No value is the same as one before it. -/
theorem pairwise_firsts (values : List (Json γ)) :
    (firsts values).Pairwise fun v w => same w v = false := by
  induction values with
  | nil => exact .nil
  | cons v rest ih =>
    refine List.pairwise_cons.2 ⟨?_, ih.sublist List.filter_sublist⟩
    intro w hw
    simpa using (List.mem_filter.1 hw).2

/-- No value is lost but for one that is the same. -/
theorem exists_mem_firsts {values : List (Json γ)} {v : Json γ} (h : v ∈ values) :
    ∃ w ∈ firsts values, v = w ∨ same v w = true := by
  induction values with
  | nil => cases h
  | cons u rest ih =>
    rcases List.mem_cons.1 h with rfl | h
    · exact ⟨v, List.mem_cons_self, .inl rfl⟩
    · obtain ⟨w, hw, equal⟩ := ih h
      cases first : same w u with
      | false =>
        have kept : w ∈ (firsts rest).filter fun w => !same w u :=
          List.mem_filter.2 ⟨hw, by rw [first]; rfl⟩
        exact ⟨w, List.mem_cons_of_mem _ kept, equal⟩
      | true =>
        refine ⟨u, List.mem_cons_self, .inr ?_⟩
        rcases equal with rfl | equal
        · exact first
        · exact same_trans equal first

variable [CoeHTCT Text (List γ)]

/-- The selector that a record offers: an object has one if its member of that name is more than
nothing. -/
def offer : Json γ → Option (Json γ)
  | .object members => (members.lookup selectorName).filter isTruthy
  | _ => none

def offered (records : List (Json γ)) : List (Json γ) :=
  records.filterMap offer

theorem offered_cons (record : Json γ) (records : List (Json γ)) :
    offered (record :: records) = (offer record).toList ++ offered records := by
  unfold offered
  rw [List.filterMap_cons]
  cases offer record <;> rfl

/-- A record that offers nothing is passed over, and so is a selector that is the same as one that
has been kept. -/
theorem addSelector_eq (kept : List (Json γ)) (record : Json γ) : addSelector kept record =
    match offer record with
    | none => kept
    | some v => if kept.any (same v) then kept else kept ++ [v] := by
  unfold addSelector offer
  cases record with
  | object members =>
    simp only [member?]
    cases members.lookup selectorName with
    | none => rfl
    | some v => cases truthy : v.isTruthy <;> cases known : kept.any (same v) <;>
        simp [Option.filter, truthy, known]
  | _ => rfl

/-- What has been kept is followed by the first occurrences of what is not the same as any of it. -/
theorem foldl_addSelector (records kept : List (Json γ)) :
    records.foldl addSelector kept =
      kept ++ (firsts (offered records)).filter fun w => !kept.any (same w) := by
  induction records generalizing kept with
  | nil => exact (List.append_nil kept).symm
  | cons record records ih =>
    rw [List.foldl_cons, ih, addSelector_eq, offered_cons]
    cases offer record with
    | none => rfl
    | some v =>
      simp only [Option.toList_some, List.singleton_append, firsts]
      cases known : kept.any (same v) with
      | true =>
        rw [if_pos rfl, List.filter_cons_of_neg (by simp [known]), List.filter_filter]
        congr 1
        apply List.filter_congr
        intro w _
        -- what is the same as the value is the same as the one that was kept
        cases equal : same w v with
        | false => simp
        | true =>
          obtain ⟨k, hk, old⟩ := List.any_eq_true.1 known
          have old' : kept.any (same w) = true := List.any_eq_true.2 ⟨k, hk, same_trans equal old⟩
          simp [old']
      | false =>
        rw [if_neg (by decide), List.filter_cons_of_pos (by simp [known]), List.filter_filter,
          List.append_assoc, List.singleton_append]
        congr 2
        apply List.filter_congr
        intro w _
        simp

theorem selectorsOf_eq (records : List (Json γ)) :
    selectorsOf records = firsts (offered records) := by
  rw [selectorsOf, foldl_addSelector]
  simp

end Archive

/-! ## The scan -/

namespace Scan

/-- A scan that asks the archive, which replies so, or that does not ask it. -/
def asking (reply : Option (Archive.Reply Point)) (s : Scan) : Scan :=
  { s with archive := reply }

variable {s : Scan} {reply : Archive.Reply Point}

/-- Only a reply that breaks the scan keeps it from beginning. -/
theorem checkArchive_asking : (s.asking (some reply)).checkArchive =
    match reply with
    | .broken error => .error (.archive error)
    | _ => .ok () := by
  unfold checkArchive asking Archive.fetch
  cases reply with
  | body json => cases json <;> rfl
  | _ => rfl

theorem checkArchive_of_ne_broken (sound : ∀ error, reply ≠ .broken error) :
    (s.asking (some reply)).checkArchive = .ok () := by
  rw [checkArchive_asking]
  split
  · next error => exact absurd rfl (sound error)
  · rfl

section
variable (same : (s.asking (some reply)).candidates = (s.asking none).candidates)
  (listener : Option Session.Listener)
include same

/-- Lookups only depend on the candidates. -/
theorem final_asking :
    (s.asking (some reply)).final listener = (s.asking none).final listener := by
  unfold final
  rw [same]
  rfl

variable (sound : ∀ error, reply ≠ .broken error)
include sound

/-- A scan with the same candidates runs in the same way, and differs in its log entries only. -/
theorem runFor_asking :
    (s.asking (some reply)).runFor listener = ((s.asking none).runFor listener).map fun r =>
      { r with entries := (Archive.fetch s.domain reply).notes ++ r.entries } := by
  unfold runFor
  rw [final_asking same, checkArchive_of_ne_broken sound]
  show (checkSlots s.settings.concurrency).bind _ =
    ((checkSlots s.settings.concurrency).bind _).map _
  cases checkSlots s.settings.concurrency with
  | error obstacle => rfl
  | ok _ => rfl

/-- Nothing can be told of a scan with the same candidates that is not told of the other. -/
theorem account_asking :
    (s.asking (some reply)).account listener = (s.asking none).account listener := by
  unfold account announced
  rw [runFor_asking same listener sound, final_asking same]
  cases (s.asking none).runFor listener with
  | error obstacle => rfl
  | ok r => rfl

end

/-- A scan does not begin when asking the archive fails with an error that nobody has expected. -/
theorem runFor_broken (slots : 1 ≤ s.settings.concurrency) (error : String)
    (listener : Option Session.Listener) :
    (s.asking (some (.broken error))).runFor listener = .error (.archive error) := by
  have slots : 1 ≤ (s.asking (some (.broken error))).settings.concurrency := slots
  rw [runFor_eq listener slots, checkArchive_asking]
  rfl

/-- The archive only adds candidates in front, or breaks the scan. A reply that is no list of
records, whatever went wrong, leaves a scan with the queries, the announced findings and the outcome
that it has without the archive, so that it can be told from the log only, unless it is one that
nobody has expected; such a reply ends a scan that would go through without the archive. Otherwise
the selectors that the records offer stand in front of the generated candidates, each where it first
occurs, none the same as one before it, and none lost but for one that is the same. -/
theorem archive_only_in_front (s : Scan) (reply : Archive.Reply Point) :
    let generated := (Stream.ofLines s.rules).items ⟨s.domain⟩
    (s.asking none).candidates = generated ∧
    ((∀ records, reply ≠ .body (.list records)) → (∀ error, reply ≠ .broken error) →
      (s.asking (some reply)).candidates = generated ∧
      ∀ listener,
        (s.asking (some reply)).account listener = (s.asking none).account listener ∧
        (s.asking (some reply)).runFor listener = ((s.asking none).runFor listener).map fun r =>
          { r with entries := (Archive.fetch s.domain reply).notes ++ r.entries }) ∧
    (∀ error, reply = .broken error → 1 ≤ s.settings.concurrency → ∀ listener,
      (s.asking (some reply)).account listener = .error (.archive error) ∧
      (s.asking (some reply)).runFor listener = .error (.archive error) ∧
      ∃ result, (s.asking none).runFor listener = .ok result) ∧
    ∀ records, reply = .body (.list records) →
      let known := Archive.firsts (Archive.offered records)
      (Archive.fetch s.domain reply).selectors = known ∧
      (s.asking (some reply)).candidates =
        ⟨(known.map display).map Item.candidate ++ generated.items, generated.fault⟩ ∧
      known.Sublist (Archive.offered records) ∧
      known.Pairwise (fun v w => same w v = false) ∧
      ∀ v ∈ Archive.offered records, ∃ w ∈ known, v = w ∨ same v w = true := by
  intro generated
  refine ⟨rfl, ?_, ?_, ?_⟩
  · intro other sound
    have nothing : (Archive.fetch s.domain reply).selectors = [] := by
      cases reply with
      | body json =>
        cases json with
        | list records => exact absurd rfl (other records)
        | _ => rfl
      | _ => rfl
    have candidates : (s.asking (some reply)).candidates = generated := by
      show Candidates.mk (((Archive.fetch s.domain reply).selectors.map _).map _ ++ _) _ = _
      rw [nothing]
      rfl
    refine ⟨candidates, ?_⟩
    intro listener
    exact ⟨account_asking candidates listener sound, runFor_asking candidates listener sound⟩
  · rintro error rfl slots listener
    refine ⟨?_, runFor_broken slots error listener, _, runFor_eq listener slots⟩
    rw [account, runFor_broken slots error listener]
    rfl
  · rintro records rfl known
    have selectors : (Archive.fetch s.domain (.body (.list records))).selectors = known :=
      Archive.selectorsOf_eq records
    refine ⟨selectors, ?_, Archive.firsts_sublist _, Archive.pairwise_firsts _, ?_⟩
    · rw [← selectors]
      rfl
    · intro v hv
      exact Archive.exists_mem_firsts hv

/-- An archive that cannot answer, one whose answer is nested too deeply, and one whose records offer
the number 1 in three ways, the empty text, a surrogate, and one selector twice, between records that
offer none. -/
theorem archive_only_in_front_mixed :
    let record (v : Json Point) : Json Point := .object [(Archive.selectorName, v)]
    let reply : Archive.Reply Point := .body (.list [record (.text [.char 'k']),
      .text [.char 'j'], record (.int 1), .object [], record (.bool true), record (.text []),
      record (.text [.surrogate 0]), record (.real (.finite false 1 0)), record (.text [.char 'k'])])
    (∀ listener, (fragile.asking (some (.refused 503))).account listener =
      (fragile.asking none).account listener) ∧
    (∀ listener, (fragile.asking (some (.broken "RecursionError"))).runFor listener =
      .error (.archive "RecursionError")) ∧
    (Archive.fetch fragile.domain reply).selectors.map display =
      [[.char 'k'], [.char '1'], [.surrogate 0]] ∧
    (fragile.asking (some reply)).candidates.selectors =
      [[.char 'k'], [.char '1'], [.surrogate 0], [.char 'a'], [.char 'b']] := by
  intro record reply
  obtain ⟨-, failed, -⟩ := archive_only_in_front fragile (.refused 503)
  obtain ⟨-, -, broken, -⟩ := archive_only_in_front fragile (.broken "RecursionError")
  obtain ⟨-, -, -, answered⟩ := archive_only_in_front fragile reply
  obtain ⟨selectors, -⟩ := answered _ rfl
  refine ⟨?_, ?_, ?_, ?_⟩
  · intro listener
    exact ((failed (fun _ => nofun) fun _ => nofun).2 listener).1
  · intro listener
    exact (broken _ rfl (by decide) listener).2.1
  · rw [selectors]
    decide +kernel
  · rw [(candidates_eq _).1]
    decide +kernel

/-- An answer that is nested too deeply ends the scan before its first query. Without the archive the
scan makes three queries and ends with the refused rule. -/
theorem broken_archive_tells :
    (fragile.asking (some (.broken "RecursionError"))).account none =
      .error (.archive "RecursionError") ∧
    ∃ account, (fragile.asking none).account none = .ok account ∧
      account.queries.map Prod.fst =
        ["a._domainkey.d", "a._domainkey.d", "b._domainkey.d"].map String.toList ∧
      account.outcome = .error (.rule (.unknownDirective 'X' "%X%".toList)) := by
  refine ⟨?_, _, account_eq_sweep (fragile.asking none) none (by decide), ?_, ?_⟩
  · rw [account, runFor_broken (by decide)]
    rfl
  · decide +kernel
  · decide +kernel

end Scan

end SelectorScan
