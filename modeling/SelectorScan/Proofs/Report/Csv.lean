import SelectorScan.Proofs.Text.Utf8
import SelectorScan.Report.Csv

/-!
# Reading back comma separated values

Whatever a cell holds, a reader that stands in front of it stands behind it afterwards, with the
text of the cell and nothing else, and not between quotation marks (`readFrom_cell`). So a comma or
a line end behind a cell is never taken for a part of it, and what was written row by row is read
row by row:

    (∀ row ∈ rows, row ≠ []) → read (write rows) = rows                             (read_write)
-/

namespace SelectorScan.Report.Csv

open Key

/-! ## Cells -/

@[simp] theorem double_nil : double [] = [] := rfl

theorem double_mark (t : Text) : double (mark :: t) = mark :: mark :: double t := rfl

theorem double_cons {c : Char} (h : c ≠ mark) (t : Text) : double (c :: t) = c :: double t := by
  rw [double, List.flatMap_cons, if_neg h]
  rfl

/-- Between quotation marks every character is read, two marks as one, up to a mark that stands
alone. -/
theorem readFrom_double (t cell : Text) (cells : List Text) {rest : Text} :
    readFrom .quoted cell cells (double t ++ mark :: rest) =
      readFrom .closed (t.reverse ++ cell) cells rest := by
  induction t generalizing cell with
  | nil => rw [double_nil, List.nil_append, readFrom, if_pos rfl, if_pos rfl]; rfl
  | cons c t ih =>
    rw [List.reverse_cons, List.append_assoc, List.singleton_append]
    by_cases h : c = mark
    · subst h
      rw [double_mark, List.cons_append, List.cons_append, readFrom, if_pos rfl, if_pos rfl,
        readFrom, if_neg nofun, if_neg nofun, if_pos ⟨rfl, rfl⟩, ih]
    · rw [double_cons h, List.cons_append, readFrom, if_pos rfl, if_neg h, ih]

theorem ne_of_not_needsMarks {c : Char} (h : needsMarks c = false) :
    c ≠ ',' ∧ c ≠ mark ∧ c ≠ '\r' ∧ c ≠ '\n' := by
  simp only [needsMarks, Bool.or_eq_false_iff, decide_eq_false_iff_not] at h
  exact ⟨h.1.1.1, h.1.1.2, h.1.2, h.2⟩

/-- A character that needs no quotation marks is read as it is. -/
theorem readFrom_cons {place : Place} (outside : place ≠ .quoted) {c : Char}
    (h : needsMarks c = false) (cell : Text) (cells : List Text) (rest : Text) :
    readFrom place cell cells (c :: rest) = readFrom .plain (c :: cell) cells rest := by
  obtain ⟨comma, notMark, turn, feed⟩ := ne_of_not_needsMarks h
  rw [readFrom, if_neg outside, if_neg (fun e => notMark e.1), if_neg (fun e => notMark e.1),
    if_neg comma, if_neg feed, if_neg (fun e => turn e.1)]

theorem readFrom_plain {t : Text} (h : ∀ c ∈ t, needsMarks c = false) (cell : Text)
    (cells : List Text) (rest : Text) :
    readFrom .plain cell cells (t ++ rest) = readFrom .plain (t.reverse ++ cell) cells rest := by
  have outside : Place.plain ≠ .quoted := nofun
  induction t generalizing cell with
  | nil => rfl
  | cons c t ih =>
    obtain ⟨hc, ht⟩ := List.forall_mem_cons.1 h
    rw [List.cons_append, readFrom_cons outside hc, ih ht, List.reverse_cons, List.append_assoc]
    rfl

/-- A reader in front of a cell reads its text and stands behind it, not between quotation marks. -/
theorem readFrom_cell (t : Text) : ∃ place, place ≠ .quoted ∧ ∀ (cells : List Text) (rest : Text),
    readFrom .front [] cells (cell t ++ rest) = readFrom place t.reverse cells rest := by
  unfold cell
  by_cases h : t.any needsMarks = true
  · refine ⟨.closed, nofun, ?_⟩
    intro cells rest
    rw [if_pos h, List.cons_append, List.cons_append, List.append_assoc, List.singleton_append,
      readFrom, if_neg nofun, if_pos ⟨rfl, rfl⟩, readFrom_double, List.append_nil]
  · rw [if_neg h]
    have plain : ∀ c ∈ t, needsMarks c = false := by
      intro c hc
      rw [← Bool.not_eq_true]
      exact fun e => h (List.any_eq_true.2 ⟨c, hc, e⟩)
    cases t with
    | nil => exact ⟨.front, nofun, fun _ _ => rfl⟩
    | cons c t =>
      refine ⟨.plain, nofun, ?_⟩
      intro cells rest
      have outside : Place.front ≠ .quoted := nofun
      obtain ⟨hc, ht⟩ := List.forall_mem_cons.1 plain
      rw [List.cons_append, readFrom_cons outside hc, readFrom_plain ht, List.reverse_cons]

/-! ## Rows -/

section Outside

variable {place : Place} (outside : place ≠ .quoted) (cell : Text) (cells : List Text) (rest : Text)
include outside

/-- Outside quotation marks a comma ends the cell. -/
theorem readFrom_comma :
    readFrom place cell cells (',' :: rest) = readFrom .front [] (cell.reverse :: cells) rest := by
  have other : ',' ≠ mark := by decide
  rw [readFrom, if_neg outside, if_neg (fun e => other e.1), if_neg (fun e => other e.1),
    if_pos rfl]

/-- Outside quotation marks a line end ends the row. -/
theorem readFrom_lineEnd :
    readFrom place cell cells ('\r' :: '\n' :: rest) =
      finishRow cell cells :: readFrom .front [] [] rest := by
  have turn : '\r' ≠ mark ∧ '\r' ≠ ',' ∧ '\r' ≠ '\n' := by decide
  have feed : '\n' ≠ mark ∧ '\n' ≠ ',' := by decide
  rw [readFrom, if_neg outside, if_neg (fun e => turn.1 e.1), if_neg (fun e => turn.1 e.1),
    if_neg turn.2.1, if_neg turn.2.2, if_pos ⟨rfl, rfl⟩, readFrom, if_neg nofun,
    if_neg (fun e => feed.1 e.1), if_neg (fun e => feed.1 e.1), if_neg feed.2, if_pos rfl]

end Outside

/-- A line of cells is read as a row, behind the cells that were read before it. -/
theorem readFrom_line {row : List Text} (filled : row ≠ []) (cells : List Text) (rest : Text) :
    readFrom .front [] cells (line row ++ rest) =
      (cells.reverse ++ row) :: readFrom .front [] [] rest := by
  induction row generalizing cells with
  | nil => exact absurd rfl filled
  | cons t row ih =>
    obtain ⟨place, outside, read⟩ := readFrom_cell t
    cases row with
    | nil =>
      rw [line, List.append_assoc]
      show readFrom .front [] cells (cell t ++ '\r' :: '\n' :: rest) = _
      rw [read, readFrom_lineEnd outside, finishRow, List.reverse_reverse, List.reverse_cons]
    | cons next more =>
      have text : line (t :: next :: more) ++ rest =
          cell t ++ ',' :: (line (next :: more) ++ rest) := by
        simp [line, Text.join]
      rw [text, read, readFrom_comma outside, List.reverse_reverse, ih (List.cons_ne_nil _ _),
        List.reverse_cons, List.append_assoc]
      rfl

/-- Reading undoes writing. -/
theorem read_write {rows : List (List Text)} (filled : ∀ row ∈ rows, row ≠ []) :
    read (write rows) = rows := by
  induction rows with
  | nil => rfl
  | cons row rows ih =>
    obtain ⟨hr, filled⟩ := List.forall_mem_cons.1 filled
    rw [read, write, List.flatMap_cons, readFrom_line hr]
    exact congrArg (row :: ·) (ih filled)

/-! ## Findings -/

/-- The fields of a finding in text, each in its place. -/
def cellsOf (f : Finding) : List Text :=
  [f.source.name, f.source.record, f.source.domain, f.source.selector, f.source.mode, f.key,
    f.modulus, f.exponent, Text.ofNat f.bits, f.fingerprint, f.pem]

/-- The names over them. -/
def titles : List Text :=
  ["fqdn", "raw_txt", "domain", "selector", "mode", "key", "modulus", "exponent", "bits",
    "fingerprint", "pem"].map String.toList

theorem rows_eq (findings : List Finding) : rows findings = titles :: findings.map cellsOf := rfl

/-- A file of findings is read back from its bytes: the names of the eleven fields, and a row for
each finding in order that holds its fields, whatever characters stand in them. -/
theorem file_read_back {findings : List Finding} (filled : findings ≠ []) :
    ∃ t, file? findings = some t ∧
      (Text.Utf8.decode? (Text.Utf8.encode t)).map read = some (titles :: findings.map cellsOf) ∧
      titles.length = 11 ∧ ∀ f : Finding, (cellsOf f).length = 11 := by
  have rowsFilled : ∀ row ∈ rows findings, row ≠ [] := by
    intro row hr
    rw [rows_eq] at hr
    rcases List.mem_cons.1 hr with rfl | hr
    · exact List.cons_ne_nil _ _
    · obtain ⟨f, -, rfl⟩ := List.mem_map.1 hr
      exact List.cons_ne_nil _ _
  refine ⟨write (rows findings), ?_, ?_, rfl, fun _ => rfl⟩
  · rw [file?, if_neg (by simpa using filled)]
  · rw [Text.Utf8.decode?_encode, Option.map_some, read_write rowsFilled, rows_eq]

/-- Fields that look like the end of a cell or of a row, empty ones, and letters of two bytes. -/
theorem file_read_back_hostile :
    let f : Finding :=
      { source := ⟨"a,b".toList, "\"v=1\" \"p=\"".toList, [], "\r\n".toList, "\"".toList⟩
        key := "é,\"".toList, modulus := [], exponent := "\n".toList, bits := 512
        fingerprint := "\",\"\r".toList, pem := "-\r-\n".toList }
    (file? [f, f]).bind (fun t => (Text.Utf8.decode? (Text.Utf8.encode t)).map read) =
      some [titles, cellsOf f, cellsOf f] ∧
    (cellsOf f).map String.ofList = ["a,b", "\"v=1\" \"p=\"", "", "\r\n", "\"", "é,\"", "", "\n",
      "512", "\",\"\r", "-\r-\n"] := by
  intro f
  obtain ⟨t, written, back, -, -⟩ := file_read_back (List.cons_ne_nil f [f])
  refine ⟨?_, by decide⟩
  rw [written]
  exact back

end SelectorScan.Report.Csv
