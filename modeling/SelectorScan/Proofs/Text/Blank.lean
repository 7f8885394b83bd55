import Mathlib.Data.List.DropRight
import SelectorScan.Text.Blank

/-!
# Trimming

What trimming takes away consists of the characters in question, so such characters can be put at
the ends of a text without changing what is left of it (`trim_append`, `trim_append_left`), and a
text that has none of them at its ends stays as it is (`trim_eq_self`).
-/

namespace SelectorScan.Text

variable {p : Char → Bool}

theorem trimEnd_append {b : Text} (h : ∀ c ∈ b, p c = true) (t : Text) :
    trimEnd p (t ++ b) = trimEnd p t := by
  have h' : ∀ c ∈ b.reverse, p c = true := fun c hc => h c (List.mem_reverse.1 hc)
  rw [trimEnd, List.reverse_append, List.dropWhile_append_of_pos h']
  rfl

theorem trim_append_left {b : Text} (h : ∀ c ∈ b, p c = true) (t : Text) :
    trim p (b ++ t) = trim p t := by
  rw [trim, List.dropWhile_append_of_pos h]
  rfl

theorem trim_append {b : Text} (h : ∀ c ∈ b, p c = true) (t : Text) :
    trim p (t ++ b) = trim p t := by
  by_cases ht : t.dropWhile p = []
  · rw [trim_append_left (List.dropWhile_eq_nil_iff.1 ht), trim, trim,
      List.dropWhile_eq_nil_iff.2 h, ht]
  · have filled : (t.dropWhile p).isEmpty = false := by
      cases hd : t.dropWhile p with
      | nil => exact absurd hd ht
      | cons c rest => rfl
    rw [trim, List.dropWhile_append, filled, if_neg Bool.false_ne_true, trimEnd_append h]
    rfl

theorem trim_dropWhile (t : Text) : trim p (t.dropWhile p) = trim p t := by
  rw [trim, List.dropWhile_idempotent]
  rfl

/-- A text is its own trimming when neither its first nor its last character is taken away. -/
theorem trim_eq_self {t : Text} (first : ∀ c, t.head? = some c → p c = false)
    (last : ∀ c, t.getLast? = some c → p c = false) : trim p t = t := by
  have keep : ∀ {s : Text}, (∀ c, s.head? = some c → p c = false) → s.dropWhile p = s := by
    intro s hs
    cases s with
    | nil => rfl
    | cons c s =>
      rw [List.dropWhile_cons, if_neg]
      rw [hs c rfl]
      exact Bool.false_ne_true
  rw [trim, trimEnd, keep first, keep, List.reverse_reverse]
  intro c hc
  apply last
  rw [← hc, List.head?_reverse]

/-- Characters that are dropped anyway need not be dropped at the front first. -/
theorem filter_dropWhile (t : Text) :
    (t.dropWhile p).filter (fun c => !p c) = t.filter fun c => !p c := by
  induction t with
  | nil => rfl
  | cons c t ih =>
    by_cases hc : p c = true
    · rw [List.dropWhile_cons, if_pos hc, ih, List.filter_cons, hc]
      rfl
    · rw [List.dropWhile_cons, if_neg hc]

theorem squeeze_strip (t : Text) : squeeze (strip t) = squeeze t := by
  rw [strip, trim, trimEnd, squeeze, List.filter_reverse, filter_dropWhile, List.filter_reverse,
    List.reverse_reverse, filter_dropWhile]
  rfl

/-- Only blanks are stripped. -/
theorem mem_strip_iff {c : Char} (visible : isBlank c = false) {t : Text} : c ∈ strip t ↔ c ∈ t := by
  have squeezed (t : Text) : c ∈ squeeze t ↔ c ∈ t := by simp [squeeze, visible]
  rw [← squeezed, squeeze_strip, squeezed]

end SelectorScan.Text
