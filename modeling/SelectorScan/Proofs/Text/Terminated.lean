import SelectorScan.Text

/-!
# Lines that are read back

Lines that hold no separator, with one behind each, are the pieces of the text that they make up,
and an empty piece stands behind the last one:

    split sep (lines.flatMap (· ++ [sep])) = lines ++ [[]]                    (split_terminated)
-/

namespace SelectorScan.Text

theorem split_terminated {sep : Char} {lines : List Text} (h : ∀ line ∈ lines, sep ∉ line) :
    split sep (lines.flatMap (· ++ [sep])) = lines ++ [[]] := by
  induction lines with
  | nil => rfl
  | cons line lines ih =>
    rw [List.flatMap_cons, List.append_assoc, List.singleton_append,
      split_append_sep (h line List.mem_cons_self),
      ih fun l hl => h l (List.mem_cons_of_mem _ hl)]
    rfl

/-- Joined lines with a separator behind them have one behind each. -/
theorem join_append_sep {lines : List Text} (h : lines ≠ []) (sep : Char) :
    join [sep] lines ++ [sep] = lines.flatMap (· ++ [sep]) := by
  induction lines with
  | nil => exact absurd rfl h
  | cons line lines ih =>
    by_cases last : lines = []
    · rw [last]
      exact (List.append_nil _).symm
    · rw [join_cons last, List.append_assoc, ih last, List.flatMap_cons]

end SelectorScan.Text
