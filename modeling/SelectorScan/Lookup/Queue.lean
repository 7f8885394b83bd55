/-!
# Queues

A queue gives its elements back in the order in which they were put in. It is kept in two parts, so
that neither putting in nor taking out goes through all of it; `toList` is what it stands for.

    (q.push a).toList = q.toList ++ [a]                        (toList_push)
    q.pop? = some (a, rest) → q.toList = a :: rest.toList      (toList_of_pop?)
-/

namespace SelectorScan.Lookup

structure Queue (α : Type) where
  /-- What comes out next, in order. -/
  front : List α
  /-- What was put in behind it, the latest first. -/
  back : List α
deriving DecidableEq, Repr

namespace Queue

variable {α : Type}

/-! ## Algorithm -/

def empty : Queue α := ⟨[], []⟩

/-- The elements, the next one first. -/
def toList (q : Queue α) : List α :=
  q.front ++ q.back.reverse

def push (a : α) (q : Queue α) : Queue α :=
  { q with back := a :: q.back }

/-- Puts elements in, one after the other. -/
def pushAll (as : List α) (q : Queue α) : Queue α :=
  { q with back := as.reverse ++ q.back }

def isEmpty (q : Queue α) : Bool :=
  q.front.isEmpty && q.back.isEmpty

/-- Takes an element out wherever it stands. -/
def erase [BEq α] (a : α) (q : Queue α) : Queue α :=
  if q.front.elem a then { q with front := q.front.erase a }
  else ⟨q.front ++ q.back.reverse.erase a, []⟩

/-- The next element and the queue without it. -/
def pop? (q : Queue α) : Option (α × Queue α) :=
  match q.front with
  | a :: rest => some (a, { q with front := rest })
  | [] =>
    match q.back.reverse with
    | [] => none
    | a :: rest => some (a, ⟨rest, []⟩)

/-! ## Lemmas -/

@[simp] theorem toList_empty : (empty : Queue α).toList = [] := rfl

@[simp] theorem toList_push (a : α) (q : Queue α) : (q.push a).toList = q.toList ++ [a] := by
  simp [toList, push]

@[simp] theorem toList_pushAll (as : List α) (q : Queue α) :
    (q.pushAll as).toList = q.toList ++ as := by
  simp [toList, pushAll]

@[simp] theorem isEmpty_iff {q : Queue α} : q.isEmpty = true ↔ q.toList = [] := by
  simp [isEmpty, toList]

@[simp] theorem toList_erase [BEq α] [LawfulBEq α] (a : α) (q : Queue α) :
    (q.erase a).toList = q.toList.erase a := by
  unfold erase toList
  rw [List.erase_append]
  split
  · next h => rw [if_pos (List.elem_iff.1 h)]
  · next h => simp [mt List.elem_iff.2 h]

/-- What comes out was in front. -/
theorem toList_of_pop? {q rest : Queue α} {a : α} (h : q.pop? = some (a, rest)) :
    q.toList = a :: rest.toList := by
  unfold pop? at h
  split at h
  · next hf =>
    obtain ⟨rfl, rfl⟩ := Prod.mk.inj (Option.some.inj h)
    simp [toList, hf]
  · next hf =>
    split at h
    · simp at h
    · next hb =>
      obtain ⟨rfl, rfl⟩ := Prod.mk.inj (Option.some.inj h)
      simp [toList, hf, hb]

/-- Nothing comes out only of the queue without elements. -/
theorem pop?_eq_none_iff {q : Queue α} : q.pop? = none ↔ q.toList = [] := by
  unfold pop? toList
  split
  · next hf => simp [hf]
  · next hf =>
    split
    · next hb => simp [hf, hb]
    · next hb => simp [hf, hb]

end Queue

end SelectorScan.Lookup
