import SelectorScan.Text

/-!
# Blank characters

The white space of all scripts. It is dropped at the ends of a text (`strip`), everywhere
(`squeeze`), or taken as the separator of words (`words`).
-/

namespace SelectorScan.Text

/-! ## Algorithm -/

/-- White space: tabs, line and page ends, the four separators U+001C to U+001F, and the spaces
of every width except the zero width one. -/
def isBlank (c : Char) : Bool :=
  let n := c.toNat
  (9 ≤ n && n ≤ 13) || (0x1C ≤ n && n ≤ 0x20) || n == 0x85 || n == 0xA0 || n == 0x1680 ||
    (0x2000 ≤ n && n ≤ 0x200A) || n == 0x2028 || n == 0x2029 || n == 0x202F || n == 0x205F ||
    n == 0x3000

/-- The text without blanks at its ends. -/
def strip (t : Text) : Text :=
  trim isBlank t

def squeeze (t : Text) : Text :=
  t.filter fun c => !isBlank c

/-- The words of a text: its longest runs without blanks, none of them empty. -/
def words : Text → List Text
  | [] => []
  | c :: rest =>
    if isBlank c then words rest
    else
      match rest with
      | [] => [[c]]
      | next :: _ =>
        if isBlank next then [c] :: words rest
        else
          match words rest with
          | [] => [[c]]
          | word :: more => (c :: word) :: more

/-! ## Lemmas -/

theorem squeeze_append (s t : Text) : squeeze (s ++ t) = squeeze s ++ squeeze t := by
  simp [squeeze]

/-- Squeezing a squeezed text changes nothing. -/
theorem squeeze_squeeze (t : Text) : squeeze (squeeze t) = squeeze t := by
  simp [squeeze, List.filter_filter]

theorem not_isBlank_of_mem_squeeze {c : Char} {t : Text} (h : c ∈ squeeze t) :
    isBlank c = false := by
  simpa using (List.mem_filter.1 h).2

end SelectorScan.Text
