import SelectorScan.Dns.Name
import SelectorScan.Proofs.Text.Utf8

/-!
# Names that are written as they were read

Most printable characters need no escape on either way. A text of these that does not end in a dot
comes back from the name it writes, character for character; capital letters stay capital.

    (∀ c ∈ t, Plain c) → t ≠ [] → t.getLast? ≠ some '.' → ofText t = .ok name →
      name.toText = t                                                         (toText_of_ofText)
-/

namespace SelectorScan.Dns.Name

open Text

/-- The characters that are written with a backslash wherever they stand in a label. -/
def escapedChars : List Char := ['\x22', '(', ')', ';', '\\', '@', '$']

/-- Whether a character is printable, no space, and not written with a backslash. -/
def Plain (c : Char) : Prop :=
  0x21 ≤ c.toNat ∧ c.toNat ≤ 0x7E ∧ c ∉ escapedChars

instance (c : Char) : Decidable (Plain c) :=
  inferInstanceAs (Decidable (_ ∧ _))

theorem plain_of_all {t : Text} (h : t.all (Plain ·) = true) : ∀ c ∈ t, Plain c := by
  simpa using h

theorem Plain.ne_backslash {c : Char} (h : Plain c) : c ≠ '\\' := by
  rintro rfl
  exact h.2.2 (by decide)

/-- A dot inside a label needs a backslash too. -/
theorem isSpecial_toNat_iff {c : Char} : isSpecial c.toNat = true ↔ c = '.' ∨ c ∈ escapedChars := by
  have same (d : Char) : c.toNat = d.toNat ↔ c = d := Char.toNat_inj
  simp only [isSpecial, escapedChars, Bool.or_eq_true, decide_eq_true_eq, List.mem_cons,
    List.not_mem_nil, or_false, ← same]
  change ((((((((c.toNat = 0x22 ∨ c.toNat = 0x28) ∨ c.toNat = 0x29) ∨ c.toNat = 0x2E) ∨
    c.toNat = 0x3B) ∨ c.toNat = 0x5C) ∨ c.toNat = 0x40) ∨ c.toNat = 0x24) ↔
    (c.toNat = 0x2E ∨ c.toNat = 0x22 ∨ c.toNat = 0x28 ∨ c.toNat = 0x29 ∨ c.toNat = 0x3B ∨
      c.toNat = 0x5C ∨ c.toNat = 0x40 ∨ c.toNat = 0x24))
  omega

/-! ## Labels -/

theorem byteText_of_plain {c : Char} (h : Plain c) (inner : c ≠ '.') :
    byteText c.toNat.toUInt8 = [c] := by
  obtain ⟨low, high, free⟩ := h
  have number : c.toNat.toUInt8.toNat = c.toNat := Utf8.toNat_toUInt8 (by omega)
  have common : ¬isSpecial c.toNat = true := by
    rw [isSpecial_toNat_iff]
    exact not_or.2 ⟨inner, free⟩
  rw [byteText, number, if_neg common, if_pos (by omega), Char.ofNat_toNat]

/-- A label of plain characters is written as it was read. -/
theorem labelText_map {label : Text} (plain : ∀ c ∈ label, Plain c) (inner : '.' ∉ label) :
    labelText (label.map fun c => c.toNat.toUInt8) = label := by
  induction label with
  | nil => rfl
  | cons c label ih =>
    rw [List.forall_mem_cons] at plain
    rw [List.mem_cons, not_or] at inner
    have tail := ih plain.2 inner.2
    rw [labelText] at tail ⊢
    rw [List.map_cons, List.flatMap_cons, tail, byteText_of_plain plain.1 (Ne.symm inner.1)]
    rfl

/-! ## Names -/

theorem isSeparator_true_iff {c : Char} : isSeparator true c = true ↔ c = '.' := by
  simp [isSeparator]

theorem readLabels_cons {label rest : Text} {c : Char} (h : c ≠ '\\') :
    readLabels true label (c :: rest) =
      if isSeparator true c then
        if label.isEmpty then .error (.refused .emptyLabel)
        else
          (readLabels true [] rest).map (label.reverse.map (fun c => c.toNat.toUInt8) :: ·)
      else readLabels true (c :: label) rest := by
  rw [readLabels]
  · rfl
  · exact fun e _ => h e
  · exact fun _ _ e _ => h e

/-- A dot ends a label that has a character. -/
theorem readLabels_dot {label rest : Text} {labels : List Label}
    (h : readLabels true label ('.' :: rest) = .ok labels) :
    ∃ more, readLabels true [] rest = .ok more ∧
      labels = label.reverse.map (fun c => c.toNat.toUInt8) :: more := by
  rw [readLabels_cons (by decide), if_pos (isSeparator_true_iff.2 rfl)] at h
  split at h
  · cases h
  · cases hr : readLabels true [] rest with
    | error e =>
      rw [hr] at h
      cases h
    | ok more =>
      rw [hr] at h
      exact ⟨more, rfl, (Except.ok.inj h).symm⟩

/-- Any other plain character belongs to the label. -/
theorem readLabels_plain {label rest : Text} {c : Char} (plain : Plain c) (inner : c ≠ '.') :
    readLabels true label (c :: rest) = readLabels true (c :: label) rest := by
  rw [readLabels_cons plain.ne_backslash, if_neg (mt isSeparator_true_iff.1 inner)]

/-- The labels of a plain text, with dots between them, are the text again. The induction is on the
text, and `label` is what has been read of the current label, the latest character first. -/
theorem join_of_readLabels {label t : Text} {labels : List Label}
    (plain : ∀ c ∈ label.reverse ++ t, Plain c) (inner : '.' ∉ label)
    (filled : label.reverse ++ t ≠ []) (unended : (label.reverse ++ t).getLast? ≠ some '.')
    (h : readLabels true label t = .ok labels) :
    labels ≠ [] ∧ join ['.'] (labels.map labelText) = label.reverse ++ t := by
  have inner' : '.' ∉ label.reverse := mt List.mem_reverse.1 inner
  induction t generalizing label labels with
  | nil =>
    rw [List.append_nil] at plain filled unended ⊢
    rw [readLabels, if_neg (by simpa using filled)] at h
    obtain rfl : [label.reverse.map fun c => c.toNat.toUInt8] = labels := Except.ok.inj h
    exact ⟨List.cons_ne_nil _ _, labelText_map plain inner'⟩
  | cons c rest ih =>
    by_cases dot : c = '.'
    · subst dot
      obtain ⟨more, hr, rfl⟩ := readLabels_dot h
      rw [List.forall_mem_append, List.forall_mem_cons] at plain
      -- the text does not end here, so there is another label
      have behind : rest ≠ [] := by
        rintro rfl
        exact unended (by simp)
      have last : rest.getLast? ≠ some '.' := by
        intro dot
        exact unended (by simp [List.getLast?_cons, dot])
      obtain ⟨labelled, joined⟩ := @ih [] more plain.2.2 List.not_mem_nil behind last hr
        List.not_mem_nil
      refine ⟨List.cons_ne_nil _ _, ?_⟩
      rw [List.map_cons, join_cons (by simpa using labelled), joined, labelText_map plain.1 inner']
      simp
    · have own : Plain c := plain c (by simp)
      have free : '.' ∉ c :: label := by
        rw [List.mem_cons, not_or]
        exact ⟨Ne.symm dot, inner⟩
      have shift : label.reverse ++ c :: rest = (c :: label).reverse ++ rest := by simp
      rw [readLabels_plain own dot] at h
      rw [shift] at plain filled unended ⊢
      exact ih plain free filled unended h (mt List.mem_reverse.1 free)

theorem ofText_eq_ok_iff {t : Text} {name : Name} : ofText t = .ok name ↔ read t = .ok name := by
  unfold ofText
  cases read t with
  | ok name' => simp
  | error e => cases e <;> simp

/-- A plain text is written back as it was read. -/
theorem toText_of_ofText {t : Text} {name : Name} (plain : ∀ c ∈ t, Plain c) (filled : t ≠ [])
    (unended : t.getLast? ≠ some '.') (h : ofText t = .ok name) : name.toText = t := by
  have ascii : t.all (fun c => c.toNat < 0x80) = true := by
    simp only [List.all_eq_true, decide_eq_true_eq]
    intro c hc
    have := (plain c hc).2.1
    omega
  have inner : ¬isRootText true t = true := by
    cases t with
    | nil => exact absurd rfl filled
    | cons c rest =>
      cases rest with
      | cons d rest => exact Bool.false_ne_true
      | nil =>
        intro root
        simp only [isRootText, Bool.or_eq_true, decide_eq_true_eq, isSeparator_true_iff] at root
        rcases root with rfl | rfl
        · exact (plain '@' List.mem_cons_self).2.2 (by decide)
        · exact unended rfl
  rw [ofText_eq_ok_iff] at h
  simp only [read, ascii, if_neg inner] at h
  cases hr : readLabels true [] t with
  | error e => simp [hr] at h
  | ok labels =>
    obtain ⟨labelled, joined⟩ :=
      @join_of_readLabels [] t labels plain List.not_mem_nil filled unended hr
    simp only [hr, ofLabels] at h
    split at h
    · cases h
    split at h
    · cases h
    obtain rfl : (⟨labels⟩ : Name) = name := Except.ok.inj h
    rw [toText, if_neg (by simpa using labelled)]
    exact joined

end SelectorScan.Dns.Name
