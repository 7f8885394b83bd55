import SelectorScan.KeyRecord.Spelling
import SelectorScan.Proofs.KeyRecord.TagList

/-!
# Reading what was spelled as a tag list

However tags are spelled, they are read back, one by one and in order, without the blanks around
their names and values:

    (∀ s ∈ ss, s.Legible) → (∀ c ∈ tail, isBlank c = true) →
      readTags (spell closed ss ++ tail) = ss.map Spelling.read                     (readTags_spell)

So a tag that is the only one of its name has its value in the parsed record, and the mode of the
record is that of its last flags.
-/

namespace SelectorScan.KeyRecord

open Text

/-! ## One tag -/

/-- A spelling whose name, value and layout cannot be taken for each other: the name is not blank
and holds no equals sign, the value holds no separator and does not end like an escape, neither
holds a quotation mark, and what surrounds them is blank. -/
structure Spelling.Legible (s : Spelling) : Prop where
  named : ¬∀ c ∈ s.name, isBlank c = true
  noEquals : '=' ∉ s.name
  noSeparator : ';' ∉ s.value
  unescaped : s.value.getLast? ≠ some '\\'
  unquoted : '\x22' ∉ s.name ∧ '\x22' ∉ s.value
  layout : ∀ c ∈ s.beforeName ++ s.afterName ++ s.beforeValue ++ s.afterValue, isBlank c = true

def Spelling.read (s : Spelling) : Text × Text :=
  (strip s.name, strip s.value)

theorem not_mem_of_blank {t : Text} (h : ∀ c ∈ t, isBlank c = true) :
    ';' ∉ t ∧ '\x22' ∉ t ∧ '\\' ∉ t := by
  refine ⟨?_, ?_, ?_⟩
  · intro hc
    exact absurd (h _ hc) (by decide)
  · intro hc
    exact absurd (h _ hc) (by decide)
  · intro hc
    exact absurd (h _ hc) (by decide)

namespace Spelling.Legible

variable {s : Spelling} (h : s.Legible)
include h

theorem blanks :
    ((∀ c ∈ s.beforeName, isBlank c = true) ∧ ∀ c ∈ s.afterName, isBlank c = true) ∧
      (∀ c ∈ s.beforeValue, isBlank c = true) ∧ ∀ c ∈ s.afterValue, isBlank c = true := by
  refine ⟨⟨?_, ?_⟩, ?_, ?_⟩
  all_goals
    intro c hc
    apply h.layout
    simp [hc]

/-- A tag is read up to the end of a text, whatever blanks stand there. -/
theorem readTag?_body {tail : Text} (blank : ∀ c ∈ tail, isBlank c = true) :
    readTag? (s.body ++ tail) = some (s.read, []) := by
  obtain ⟨⟨bn, an⟩, bv, av⟩ := h.blanks
  have av' : ∀ c ∈ s.afterValue ++ tail, isBlank c = true := by
    intro c hc
    rcases List.mem_append.1 hc with hc | hc
    · exact av c hc
    · exact blank c hc
  have noEnd : ';' ∉ s.beforeValue ++ s.value ++ (s.afterValue ++ tail) := by
    have h₁ := (not_mem_of_blank bv).1
    have h₂ := (not_mem_of_blank av').1
    have h₃ := h.noSeparator
    simp only [List.mem_append] at h₂ ⊢
    tauto
  have text : s.body ++ tail = s.beforeName ++ s.name ++ s.afterName ++
      '=' :: (s.beforeValue ++ s.value ++ (s.afterValue ++ tail) ++ []) := by
    simp [Spelling.body]
  rw [text, readTag?_of_parts bn an h.named h.noEquals noEnd rfl,
    cleanValue_of_parts bv av' h.unescaped]
  rfl

/-- A tag is read up to its separator, plain or escaped. -/
theorem readTag?_text (more : Text) :
    readTag? (s.text ++ more) = some (s.read, more.dropWhile isBlank) := by
  obtain ⟨⟨bn, an⟩, bv, av⟩ := h.blanks
  have noEnd : ';' ∉ s.beforeValue ++ s.value ++ s.afterValue := by
    have h₁ := (not_mem_of_blank bv).1
    have h₂ := (not_mem_of_blank av).1
    have h₃ := h.noSeparator
    simp only [List.mem_append]
    tauto
  cases hs : s.separator with
  | plain =>
    have text : s.text ++ more = s.beforeName ++ s.name ++ s.afterName ++
        '=' :: (s.beforeValue ++ s.value ++ s.afterValue ++ ';' :: more) := by
      simp [Spelling.text, Spelling.body, hs, Separator.text]
    rw [text, readTag?_of_parts bn an h.named h.noEquals noEnd rfl,
      cleanValue_of_parts bv av h.unescaped]
    rfl
  | escaped =>
    have noEnd' : ';' ∉ s.beforeValue ++ s.value ++ s.afterValue ++ ['\\'] := by
      intro hc
      rcases List.mem_append.1 hc with hc | hc
      · exact noEnd hc
      · exact absurd hc (by decide)
    have text : s.text ++ more = s.beforeName ++ s.name ++ s.afterName ++
        '=' :: (s.beforeValue ++ s.value ++ s.afterValue ++ ['\\'] ++ ';' :: more) := by
      simp [Spelling.text, Spelling.body, hs, Separator.text]
    rw [text, readTag?_of_parts bn an h.named h.noEquals noEnd' rfl, cleanValue_escaped bv av]
    rfl

/-- No quotation mark is written. -/
theorem not_mem_text : '\x22' ∉ s.body ∧ '\x22' ∉ s.text := by
  obtain ⟨⟨bn, an⟩, bv, av⟩ := h.blanks
  have body : '\x22' ∉ s.body := by
    have h₁ := (not_mem_of_blank bn).2.1
    have h₂ := (not_mem_of_blank an).2.1
    have h₃ := (not_mem_of_blank bv).2.1
    have h₄ := (not_mem_of_blank av).2.1
    have h₅ := h.unquoted
    have mark : '\x22' ≠ '=' := by decide
    simp only [Spelling.body, List.mem_append, List.mem_cons]
    tauto
  refine ⟨body, ?_⟩
  intro hc
  rcases List.mem_append.1 hc with hc | hc
  · exact body hc
  · cases hs : s.separator with
    | plain =>
      rw [hs] at hc
      exact absurd hc (by decide)
    | escaped =>
      rw [hs] at hc
      exact absurd hc (by decide)

end Spelling.Legible

/-! ## All tags -/

theorem readTags_of_none {t : Text} (h : readTag? t = none) : readTags t = [] := by
  rw [readTags]
  split
  · rfl
  · next h' =>
    rw [h] at h'
    cases h'

theorem readTags_of_some {t rest : Text} {tag : Text × Text} (h : readTag? t = some (tag, rest)) :
    readTags t = tag :: readTags rest := by
  rw [readTags]
  split
  · next h' =>
    rw [h] at h'
    cases h'
  · next h' =>
    rw [h] at h'
    cases h'
    rfl

/-- Blanks in front of a tag do not matter. -/
theorem readTags_dropWhile (t : Text) : readTags (t.dropWhile isBlank) = readTags t := by
  have same : readTag? (t.dropWhile isBlank) = readTag? t := by
    rw [readTag?, List.dropWhile_idempotent]
    rfl
  cases h : readTag? t with
  | none => rw [readTags_of_none h, readTags_of_none (same.trans h)]
  | some result => rw [readTags_of_some h, readTags_of_some (same.trans h)]

theorem readTags_nil : readTags [] = [] :=
  readTags_of_none rfl

/-- Spelled tags are read back, and blanks behind them ignored. -/
theorem readTags_spell {closed : Bool} {ss : List Spelling} (legible : ∀ s ∈ ss, s.Legible)
    {tail : Text} (blank : ∀ c ∈ tail, isBlank c = true) :
    readTags (spell closed ss ++ tail) = ss.map Spelling.read := by
  induction ss with
  | nil => rw [spell_nil, List.nil_append, ← readTags_dropWhile, List.dropWhile_eq_nil_iff.2 blank,
      readTags_nil, List.map_nil]
  | cons s rest ih =>
    have hs := legible s List.mem_cons_self
    have ih := ih fun s' hs' => legible s' (List.mem_cons_of_mem _ hs')
    cases rest with
    | nil =>
      cases closed with
      | false =>
        rw [spell, if_neg Bool.false_ne_true, readTags_of_some (hs.readTag?_body blank),
          readTags_nil, List.map_cons, List.map_nil]
      | true =>
        rw [spell, if_pos rfl, readTags_of_some (hs.readTag?_text tail),
          List.dropWhile_eq_nil_iff.2 blank, readTags_nil, List.map_cons, List.map_nil]
    | cons next more =>
      rw [spell, List.append_assoc, readTags_of_some (hs.readTag?_text _), readTags_dropWhile, ih]
      rfl

/-- No quotation mark is written, nor stands in the blanks behind the tags. -/
theorem not_mem_spell {closed : Bool} {ss : List Spelling} (legible : ∀ s ∈ ss, s.Legible)
    {tail : Text} (blank : ∀ c ∈ tail, isBlank c = true) : '\x22' ∉ spell closed ss ++ tail := by
  induction ss with
  | nil => exact (not_mem_of_blank blank).2.1
  | cons s rest ih =>
    obtain ⟨body, text⟩ := (legible s List.mem_cons_self).not_mem_text
    have ih := ih fun s' hs' => legible s' (List.mem_cons_of_mem _ hs')
    intro hc
    rw [List.mem_append] at hc ih
    cases rest with
    | nil =>
      refine hc.elim ?_ (not_mem_of_blank blank).2.1
      cases closed with
      | false => exact body
      | true => exact text
    | cons next more =>
      rw [spell, List.mem_append, or_assoc] at hc
      exact hc.elim text ih

/-! ## Records -/

def lastValue? (name : Text) (ss : List Spelling) : Option Text :=
  (ss.map Spelling.read).reverse.lookup name

/-- A parsed record has the value of the last tag of every name, a key restored. -/
theorem get?_parseTags_spell {closed : Bool} {ss : List Spelling} (legible : ∀ s ∈ ss, s.Legible)
    {tail : Text} (blank : ∀ c ∈ tail, isBlank c = true) (name : Text) :
    (parseTags (spell closed ss ++ tail)).get? name =
      (lastValue? name ss).map (if name = keyName then restored else id) := by
  rw [get?_parseTags (not_mem_spell legible blank), readTags_spell legible blank]
  rfl

/-- A tag that has its name alone has the last value of that name. -/
theorem lastValue?_of_only {front back : List Spelling} {s : Spelling}
    (only : ∀ other ∈ front ++ back, strip other.name ≠ strip s.name) :
    lastValue? (strip s.name) (front ++ s :: back) = some (strip s.value) := by
  have none : (back.map Spelling.read).reverse.lookup (strip s.name) = none := by
    rw [List.lookup_eq_none_iff]
    intro tag ht
    obtain ⟨other, ho, rfl⟩ := List.mem_map.1 (List.mem_reverse.1 ht)
    rw [bne_iff_ne]
    exact (only other (List.mem_append_right _ ho)).symm
  rw [lastValue?, List.map_append, List.map_cons, List.reverse_append, List.reverse_cons,
    List.append_assoc, List.lookup_append, none, Option.none_or]
  exact List.lookup_cons_self

def modeOf (ss : List Spelling) : Mode :=
  if (lastValue? flagsName ss).any (fun v => lower v = ['y']) then .test else .production

/-- The mode of a record is that of its last flags. -/
theorem mode_parseTags_spell {closed : Bool} {ss : List Spelling}
    (legible : ∀ s ∈ ss, s.Legible) {tail : Text} (blank : ∀ c ∈ tail, isBlank c = true) :
    mode (parseTags (spell closed ss ++ tail)) = modeOf ss := by
  have other : flagsName ≠ keyName := by decide
  rw [mode, modeOf, get?_parseTags_spell legible blank, if_neg other, Option.map_id]
  cases lastValue? flagsName ss with
  | none => rfl
  | some v => simp

end SelectorScan.KeyRecord
