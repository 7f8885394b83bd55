import Mathlib.Data.List.Forall2
import SelectorScan.Lookup.Zone
import SelectorScan.Proofs.Dns.Name
import SelectorScan.Proofs.Lookup.Attempts
import SelectorScan.Proofs.Lookup.Prompt

/-!
# The queries for names

Looked up one after the other, names that are well formed are queried in their order, each as often
as its attempts fail and at least once, with nothing in between; other names are not queried:

    ∃ blocks, List.Forall₂ (Repeated attempts) (names.filter (wellFormed readName)) blocks ∧
      (ports.respondAll ⟨attempts, readName⟩ names r).1.names = r.names ++ blocks.flatten
                                                                                (exists_blocks)
-/

namespace SelectorScan.Lookup

open Dns

/-- A name as it is written in queries. -/
def written (name : Text) : Text :=
  match Name.ofText name with
  | .ok labels => labels.toText
  | .error _ => []

/-- The queries for one name: at least one, and at most as many as there are attempts. -/
def Repeated (attempts : Nat) (name : Text) (queries : List Text) : Prop :=
  ∃ count, 1 ≤ count ∧ count ≤ attempts ∧ queries = List.replicate count (written name)

/-- The names that a resolver has been queried for, in order. -/
def Resolver.names (r : Resolver) : List Text :=
  (r.queries.map Prod.fst).reverse

/-- A name that is well formed is queried, and any other leaves the transport as it is. -/
theorem Ports.respond_fst {σ η α : Type} (ports : Ports σ η α) (terms : Terms) (name : Text)
    (transport : σ) : (ports.respond terms name transport).1 =
      if wellFormed terms.read name then (ports.query name terms.attempts transport).1
      else transport := by
  unfold Ports.respond wellFormed
  cases terms.read name with
  | wellFormed => rfl
  | malformed message => rfl
  | breakdown message => rfl

theorem exists_ofText_of_wellFormed {name : Text} (h : wellFormed readName name = true) :
    ∃ labels, Name.ofText name = .ok labels := by
  unfold wellFormed readName at h
  split at h
  · next labels hn => exact ⟨labels, Name.ofText_eq_ok_iff.2 hn⟩
  · cases h
  · cases h

theorem names_ask {name : Text} (h : wellFormed readName name = true) (r : Resolver) :
    (r.ask name).state.names = r.names ++ [written name] := by
  obtain ⟨labels, hn⟩ := exists_ofText_of_wellFormed h
  unfold written Resolver.ask Rotation.query
  simp only [hn]
  rcases r.zone.query labels.toText with ⟨trouble | answer, zone⟩
  · exact List.reverse_cons
  · exact List.reverse_cons

section
variable {η : Type} {ports : Ports Resolver η Response} (resolves : ports.ask = Resolver.ask)
include resolves

/-- A name is queried until an attempt does not fail. -/
theorem names_query {name : Text} (h : wellFormed readName name = true) (left : Nat) (r : Resolver) :
    ∃ count ≤ left, (0 < left → 0 < count) ∧
      (ports.query name left r).1.names = r.names ++ List.replicate count (written name) := by
  induction left generalizing r with
  | zero => exact ⟨0, Nat.le_refl 0, id, (List.append_nil _).symm⟩
  | succ left ih =>
    have once := names_ask h r
    simp only [Ports.query, resolves]
    have stop : ∃ count ≤ left + 1, (0 < left + 1 → 0 < count) ∧
        (r.ask name).state.names = r.names ++ List.replicate count (written name) :=
      ⟨1, Nat.succ_le_succ (Nat.zero_le _), fun _ => Nat.one_pos, once⟩
    cases (r.ask name).reply with
    | none => exact stop
    | some reply =>
      cases reply with
      | answer response => exact stop
      | breakdown message => exact stop
      | failure =>
        obtain ⟨count, few, -, more⟩ := ih (r.ask name).state
        refine ⟨count + 1, Nat.succ_le_succ few, fun _ => Nat.succ_pos _, ?_⟩
        rw [more, once, List.append_assoc]
        rfl

theorem exists_blocks {attempts : Nat} (some : 0 < attempts) (names : List Text) (r : Resolver) :
    ∃ blocks, List.Forall₂ (Repeated attempts) (names.filter (wellFormed readName)) blocks ∧
      (ports.respondAll ⟨attempts, readName⟩ names r).1.names = r.names ++ blocks.flatten := by
  induction names generalizing r with
  | nil => exact ⟨[], .nil, (List.append_nil _).symm⟩
  | cons name names ih =>
    obtain ⟨blocks, each, later⟩ := ih (ports.respond ⟨attempts, readName⟩ name r).1
    simp only [Ports.respondAll, later]
    rw [Ports.respond_fst]
    cases h : wellFormed readName name with
    | true =>
      obtain ⟨count, few, pos, first⟩ := names_query resolves h attempts r
      refine ⟨List.replicate count (written name) :: blocks, ?_, ?_⟩
      · rw [List.filter_cons_of_pos h]
        exact .cons ⟨count, pos some, few, rfl⟩ each
      · rw [if_pos rfl, first, List.append_assoc]
        rfl
    | false =>
      refine ⟨blocks, ?_, by rw [if_neg Bool.false_ne_true]⟩
      rw [List.filter_cons_of_neg (by simp [h])]
      exact each

end

end SelectorScan.Lookup
