import Mathlib.Tactic.IntervalCases
import SelectorScan.Proofs.Report.Column

/-!
# Adding to a sheet that exists

A sheet that findings are added to is read column by column and written anew, so the rows that were
there stay the same exactly when each of their columns is read as it was written. Their sizes in
bits are numbers and always are; of the other fields that depends on the texts of all rows:

    write (some (write none A)) B = write none (A ++ B) ↔
      each column of texts of A is Kept                                    (write_append_eq_iff)

The exponents of keys in use are numbers of 64 bits at most, and a column of these never is kept
(`append_changes`).
-/

namespace SelectorScan.Report.Sheet

open Key Number

/-! ## Rows -/

def cellAt (rows : Rows) (k i : Nat) : Option Cell :=
  rows[k]?.bind fun r => r[i]?

theorem length_readRows (rows : Rows) : (readRows rows).length = rows.length := by
  simp [readRows]

theorem cellAt_readRows {rows : Rows} {k i : Nat} (hi : i < fieldNames.length) :
    cellAt (readRows rows) k i = (readColumn (columnAt rows i))[k]? := by
  have length : (readColumn (columnAt rows i)).length = rows.length := by
    rw [length_readColumn, columnAt, List.length_map]
  by_cases hk : k < rows.length
  · simp [cellAt, readRows, hk, hi, length]
  · simp [cellAt, readRows, hk, length]

section
variable {rows : Rows} (full : ∀ r ∈ rows, r.length = fieldNames.length)
include full

theorem getElem?_columnAt {k i : Nat} (hi : i < fieldNames.length) :
    (columnAt rows i)[k]? = cellAt rows k i := by
  rw [columnAt, List.getElem?_map, cellAt]
  cases hk : rows[k]? with
  | none => rfl
  | some r =>
    have inside : i < r.length := by
      rw [full r (List.mem_of_getElem? hk)]
      exact hi
    rw [Option.map_some, Option.bind_some, List.getD_eq_getElem?_getD,
      List.getElem?_eq_getElem inside]
    rfl

/-- Rows are read as they were written when their columns are. -/
theorem readRows_eq_self_iff : readRows rows = rows ↔
    ∀ i < fieldNames.length, readColumn (columnAt rows i) = columnAt rows i := by
  constructor
  · intro h i hi
    apply List.ext_getElem?
    intro k
    rw [← cellAt_readRows hi, h, getElem?_columnAt full hi]
  · intro h
    refine List.ext_getElem (length_readRows rows) fun k hk hk' => ?_
    have lengths : (readRows rows)[k].length = rows[k].length := by
      rw [full _ (List.getElem_mem hk')]
      simp [readRows]
    refine List.ext_getElem lengths fun i hi hi' => ?_
    have inside : i < fieldNames.length := by
      rwa [full _ (List.getElem_mem hk')] at hi'
    have same : cellAt (readRows rows) k i = cellAt rows k i := by
      rw [cellAt_readRows inside, h i inside, getElem?_columnAt full inside]
    simpa [cellAt, hk, hk', hi, hi'] using same

end

/-! ## Findings -/

def textOf (name : String) (f : Finding) : Text :=
  (((fields f).lookup name).map Value.toText).getD []

theorem getD_row {i : Nat} {name : String} (h : fieldNames[i]? = some name) (other : name ≠ "bits")
    (f : Finding) : (row f).getD i .empty = .ofText (textOf name f) := by
  have inside : i < 11 := (List.getElem?_eq_some_iff.1 h).1
  interval_cases i
  all_goals
    cases h
    first
    | rfl
    | exact absurd rfl other

theorem getD_row_bits {i : Nat} (h : fieldNames[i]? = some "bits") (f : Finding) :
    (row f).getD i .empty = .ofReal (realOfInt f.bits) := by
  have inside : i < 11 := (List.getElem?_eq_some_iff.1 h).1
  interval_cases i
  all_goals
    first
    | rfl
    | exact absurd h (by decide)

variable {A : List Finding}

theorem columnAt_texts {i : Nat} {name : String} (h : fieldNames[i]? = some name)
    (other : name ≠ "bits") : columnAt (A.map row) i = (A.map (textOf name)).map .ofText := by
  rw [columnAt, List.map_map, List.map_map]
  exact List.map_congr_left fun f _ => getD_row h other f

theorem columnAt_bits {i : Nat} (h : fieldNames[i]? = some "bits")
    (small : ∀ f ∈ A, f.bits < 2 ^ 53) :
    columnAt (A.map row) i = (A.map Finding.bits).map fun n => .number (Text.ofNat n) := by
  rw [columnAt, List.map_map, List.map_map]
  refine List.map_congr_left fun f hf => ?_
  rw [Function.comp_apply, getD_row_bits h, ofReal_realOfInt (small f hf)]
  rfl

theorem full_rows : ∀ r ∈ A.map row, r.length = fieldNames.length := by
  intro r hr
  obtain ⟨f, -, rfl⟩ := List.mem_map.1 hr
  rfl

theorem readColumn_bits {i : Nat} (h : fieldNames[i]? = some "bits")
    (small : ∀ f ∈ A, f.bits < 2 ^ 53) :
    readColumn (columnAt (A.map row) i) = columnAt (A.map row) i := by
  rw [columnAt_bits h small]
  refine readColumn_wholes fun n hn => ?_
  obtain ⟨f, hf, rfl⟩ := List.mem_map.1 hn
  exact small f hf

/-- The rows of findings are read as they were written exactly when each of their columns of texts
is one that is kept. -/
theorem readRows_row_iff (small : ∀ f ∈ A, f.bits < 2 ^ 53) :
    readRows (A.map row) = A.map row ↔
      ∀ name ∈ fieldNames, name ≠ "bits" → Kept (A.map (textOf name)) := by
  rw [readRows_eq_self_iff full_rows]
  constructor
  · intro h name hn other
    obtain ⟨i, hi, at_i⟩ := List.mem_iff_getElem.1 hn
    have column := h i hi
    rw [columnAt_texts (List.getElem?_eq_some_iff.2 ⟨hi, at_i⟩) other] at column
    exact readColumn_texts_iff.1 column
  · intro h i hi
    have at_i := List.getElem?_eq_getElem hi
    by_cases bits : fieldNames[i] = "bits"
    · rw [bits] at at_i
      exact readColumn_bits at_i small
    · rw [columnAt_texts at_i bits]
      exact readColumn_texts_iff.2 (h _ (List.getElem_mem hi) bits)

theorem write_none (filled : A ≠ []) : write none A = header :: A.map row := by
  rw [write, ofFindings, if_neg (mt List.isEmpty_iff.1 filled)]

theorem write_append (filled : A ≠ []) (B : List Finding) :
    write (some (write none A)) B = header :: readRows (A.map row) ++ B.map row := by
  rw [write_none filled, write, append]

/-- Two runs leave the same sheet as one exactly when the rows of the first are read as they were
written. -/
theorem write_append_eq_iff (filled : A ≠ []) (small : ∀ f ∈ A, f.bits < 2 ^ 53)
    (B : List Finding) : write (some (write none A)) B = write none (A ++ B) ↔
      ∀ name ∈ fieldNames, name ≠ "bits" → Kept (A.map (textOf name)) := by
  rw [← readRows_row_iff small, write_append filled, write_none (by simp [filled]), List.map_append,
    ← List.cons_append, List.append_left_inj, List.cons_inj_right]

/-- A second run always changes the rows of the first when their exponents fit into 64 bits, as
those of keys in use do. -/
theorem append_changes (filled : A ≠ []) (small : ∀ f ∈ A, f.bits < 2 ^ 53)
    (exponents : ∀ f ∈ A, ∃ e < 2 ^ 64, f.exponent = Text.ofNat e) (B : List Finding) :
    write (some (write none A)) B ≠ write none (A ++ B) := by
  intro same
  have kept := (write_append_eq_iff filled small B).1 same "exponent" (by decide) (by decide)
  refine not_kept_of_decimals (by simp [filled]) ?_ kept
  intro t ht
  obtain ⟨f, hf, rfl⟩ := List.mem_map.1 ht
  exact exponents f hf

/-- Adding findings to the sheet of others keeps the header, the number of rows and the sizes in
bits; it leaves what one run for all of them leaves exactly when each column of texts is one that
is kept, and it empties the cells whose texts have no value. -/
theorem append_keeps_iff (filled : A ≠ []) (small : ∀ f ∈ A, f.bits < 2 ^ 53)
    (B : List Finding) :
    (write (some (write none A)) B = write none (A ++ B) ↔
      ∀ name ∈ fieldNames, name ≠ "bits" → Kept (A.map (textOf name))) ∧
    ∃ rows : Rows, rows.length = A.length ∧
      write (some (write none A)) B = header :: rows ++ B.map row ∧
      (∀ k i, fieldNames[i]? = some "bits" → cellAt rows k i = cellAt (A.map row) k i) ∧
      ∀ k f i name, A[k]? = some f → fieldNames[i]? = some name → name ≠ "bits" →
        (cellAt rows k i = some .empty ↔ (Cell.ofText (textOf name f)).isMissing = true) := by
  refine ⟨write_append_eq_iff filled small B, readRows (A.map row), ?_, write_append filled B, ?_,
    ?_⟩
  · rw [length_readRows, List.length_map]
  · intro k i hi
    have inside := (List.getElem?_eq_some_iff.1 hi).1
    rw [cellAt_readRows inside, readColumn_bits hi small, getElem?_columnAt full_rows inside]
  · intro k f i name hk hi other
    rw [cellAt_readRows (List.getElem?_eq_some_iff.1 hi).1, columnAt_texts hi other]
    apply readColumn_empty_iff
    rw [List.getElem?_map, hk]
    rfl

theorem append_keeps_iff_missing :
    let f : Finding :=
      { source := ⟨"NA._domainkey.d".toList, "\"p=QUJD\"".toList, "d".toList, "NA".toList,
          "PROD".toList⟩
        key := "QUJD".toList, modulus := "12345".toList, exponent := "65537".toList, bits := 512
        fingerprint := "aaaa".toList, pem := "-\n".toList }
    write (some (write none [f])) [f] ≠ write none [f, f] ∧
      ∃ rows : Rows, write (some (write none [f])) [f] = header :: rows ++ [row f] ∧
        cellAt rows 0 3 = some .empty := by
  intro f
  obtain ⟨same, rows, -, written, -, emptied⟩ :=
    append_keeps_iff (List.cons_ne_nil f []) (by decide) [f]
  have selector : textOf "selector" f = "NA".toList := rfl
  refine ⟨?_, rows, written, (emptied 0 f 3 "selector" rfl rfl (by decide)).2 (by decide)⟩
  intro equal
  have kept := (same.1 equal "selector" (by decide) (by decide)).present _ List.mem_cons_self
  rw [selector] at kept
  exact absurd (kept (by decide)) (by decide)

/-- A selector that reads like a missing value is lost when another finding is added, and the
exponent beside it becomes a number. -/
theorem earlier_selector_emptied :
    let f (selector : String) : Finding :=
      { source := ⟨"default._domainkey.example.com".toList, "\"v=DKIM1; p=MFwwDQYJ\"".toList,
          "example.com".toList, selector.toList, "PROD".toList⟩
        key := "MFwwDQYJ".toList, modulus := "12345".toList, exponent := "65537".toList
        bits := 512, fingerprint := List.replicate 40 'a', pem := "-\n".toList }
    let once := write none [f "NA", f "s1"]
    let twice := write (some (write none [f "NA"])) [f "s1"]
    cellAt once 1 3 = some (.text "NA".toList) ∧ cellAt twice 1 3 = some .empty ∧
      cellAt once 1 7 = some (.text "65537".toList) ∧
      cellAt twice 1 7 = some (.number "65537".toList) := by
  decide +kernel

end SelectorScan.Report.Sheet
