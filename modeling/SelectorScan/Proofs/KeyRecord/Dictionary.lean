import SelectorScan.Proofs.KeyRecord.Spelling

/-!
# Parsed records as dictionaries

Pairs make a dictionary: each name stands where it first occurs and has its last value. A tag list
that is filled pair by pair is just that (`foldl_set_eq_dictionary`), as giving a name a value in a
list of names without repetition changes that name or adds it at the end (`set_table`). So parsing
undoes spelling, whatever blanks and escapes were chosen:

    parseTags (spell closed ss ++ tail) = dictionary of the tags, a key restored  (parseTags_spell)
-/

namespace SelectorScan.KeyRecord

open Text

/-! ## Tables -/

def table (names : List Text) (value : Text → Text) : TagList :=
  names.map fun name => (name, value name)

theorem table_congr {names : List Text} {f g : Text → Text} (h : ∀ name ∈ names, f name = g name) :
    table names f = table names g := by
  apply List.map_congr_left
  intro name hn
  rw [h name hn]

theorem get?_table (names : List Text) (f : Text → Text) (name : Text) :
    (table names f).get? name = if name ∈ names then some (f name) else none := by
  unfold TagList.get? table
  induction names with
  | nil => rfl
  | cons first names ih =>
    rw [List.map_cons, lookup_cons, ih]
    by_cases h : name = first
    · rw [if_pos h, if_pos (h ▸ List.mem_cons_self), h]
    · simp [h]

/-- Giving a name a value changes its value where it stands, or adds it at the end. -/
theorem set_table {names : List Text} (once : names.Nodup) (f : Text → Text) (name value : Text) :
    (table names f).set name value =
      table (if name ∈ names then names else names ++ [name])
        fun other => if other = name then value else f other := by
  induction names with
  | nil => simp [table, TagList.set]
  | cons first names ih =>
    obtain ⟨fresh, once⟩ := List.nodup_cons.1 once
    show TagList.set name value ((first, f first) :: table names f) = _
    by_cases h : first = name
    · -- behind the name that is found nothing changes
      have rest : table names f =
          table names fun other => if other = name then value else f other := by
        apply table_congr
        intro other ho
        rw [if_neg]
        rintro rfl
        exact fresh (h ▸ ho)
      rw [TagList.set, if_pos h, if_pos (h ▸ List.mem_cons_self), rest, h]
      simp [table]
    · have split : (if name ∈ first :: names then first :: names else first :: names ++ [name]) =
          first :: if name ∈ names then names else names ++ [name] := by
        by_cases hn : name ∈ names
        · rw [if_pos hn, if_pos (List.mem_cons_of_mem _ hn)]
        · rw [if_neg hn, if_neg (by simp [hn, Ne.symm h]), List.cons_append]
      rw [TagList.set, if_neg h, ih once, split]
      simp [table, h]

/-! ## Dictionaries -/

theorem nodup_eraseDups (names : List Text) : names.eraseDups.Nodup := by
  match names with
  | [] => exact List.nodup_nil
  | name :: rest =>
    rw [List.eraseDups_cons, List.nodup_cons]
    refine ⟨?_, nodup_eraseDups _⟩
    intro h
    rw [List.mem_eraseDups, List.mem_filter] at h
    simp at h
termination_by names.length
decreasing_by exact Nat.lt_succ_of_le (List.length_filter_le _ _)

/-- The last value of a name in pairs, empty for one that they do not have. -/
def lastValue (pairs : List (Text × Text)) (name : Text) : Text :=
  (pairs.reverse.lookup name).getD []

theorem lastValue_concat (pairs : List (Text × Text)) (name value other : Text) :
    lastValue (pairs ++ [(name, value)]) other =
      if other = name then value else lastValue pairs other := by
  unfold lastValue
  rw [List.reverse_append, List.reverse_singleton, List.singleton_append, lookup_cons]
  split
  · rfl
  · rfl

/-- The dictionary of pairs: each name stands where it first occurs, with its last value. -/
def dictionary (pairs : List (Text × Text)) : TagList :=
  table (pairs.map Prod.fst).eraseDups (lastValue pairs)

theorem dictionary_concat (pairs : List (Text × Text)) (name value : Text) :
    dictionary (pairs ++ [(name, value)]) = (dictionary pairs).set name value := by
  have names : ((pairs ++ [(name, value)]).map Prod.fst).eraseDups =
      if name ∈ (pairs.map Prod.fst).eraseDups then (pairs.map Prod.fst).eraseDups
      else (pairs.map Prod.fst).eraseDups ++ [name] := by
    rw [List.map_append, List.eraseDups_append]
    simp only [List.map_cons, List.map_nil, List.mem_eraseDups]
    by_cases h : name ∈ pairs.map Prod.fst
    · rw [if_pos h, List.removeAll, List.filter_cons_of_neg (by simpa using h)]
      simp
    · rw [if_neg h, List.removeAll, List.filter_cons_of_pos (by simpa using h), List.filter_nil,
        List.eraseDups_cons]
      rfl
  unfold dictionary
  rw [set_table (nodup_eraseDups _), names]
  apply table_congr
  intro other _
  exact lastValue_concat pairs name value other

/-- A tag list that is filled pair by pair is the dictionary of the pairs. -/
theorem foldl_set_eq_dictionary (pairs : List (Text × Text)) :
    pairs.foldl (fun (tags : TagList) tag => tags.set tag.1 tag.2) [] = dictionary pairs := by
  induction pairs using List.reverseRecOn with
  | nil => rfl
  | append_singleton pairs pair ih =>
    rw [List.foldl_append, ih, List.foldl_cons, List.foldl_nil, dictionary_concat]

/-- Restoring a key changes its value only. -/
theorem restoreKey_table {names : List Text} (once : names.Nodup) (f : Text → Text) :
    restoreKey (table names f) =
      table names fun name => if name = keyName then restored (f name) else f name := by
  unfold restoreKey
  rw [get?_table]
  by_cases h : keyName ∈ names
  · rw [if_pos h]
    simp only
    split
    · next empty =>
      apply table_congr
      intro name _
      split
      · next e => rw [e, restored, if_pos empty]
      · rfl
    · next filled =>
      rw [set_table once, if_pos h]
      apply table_congr
      intro name _
      split
      · next e => rw [e, restored, if_neg filled]
      · rfl
  · rw [if_neg h]
    apply table_congr
    intro name hn
    rw [if_neg]
    rintro rfl
    exact h hn

/-! ## Records -/

/-- A key that is not empty is rid of its blanks, and equals signs bring it to the next multiple of
four characters. -/
theorem restored_eq {key : Text} (filled : key ≠ []) :
    ∃ pads < 4, restored key = squeeze key ++ List.replicate pads '=' ∧
      4 ∣ (restored key).length := by
  have padded : restored key = padBase64 (squeeze key) := if_neg (by simpa using filled)
  refine ⟨(4 - (squeeze key).length % 4) % 4, Nat.mod_lt _ (by decide), padded, ?_⟩
  rw [padded]
  exact dvd_length_padBase64 _

/-- A spelling of a pair: the name is not empty, the value does not end like an escape, neither has
blanks around it, a quotation mark or the character that ends it, and what surrounds them is
blank. -/
structure Spelling.Neat (s : Spelling) : Prop where
  named : s.name ≠ []
  stripped : strip s.name = s.name ∧ strip s.value = s.value
  noEquals : '=' ∉ s.name
  noSeparator : ';' ∉ s.value
  unescaped : s.value.getLast? ≠ some '\\'
  unquoted : '\x22' ∉ s.name ∧ '\x22' ∉ s.value
  layout : ∀ c ∈ s.beforeName ++ s.afterName ++ s.beforeValue ++ s.afterValue, isBlank c = true

namespace Spelling.Neat

variable {s : Spelling} (h : s.Neat)
include h

theorem legible : s.Legible where
  named := by
    intro blank
    have nothing : strip s.name = strip [] := by
      have dropped := trim_append_left blank []
      rwa [List.append_nil] at dropped
    exact h.named (h.stripped.1.symm.trans nothing)
  noEquals := h.noEquals
  noSeparator := h.noSeparator
  unescaped := h.unescaped
  unquoted := h.unquoted
  layout := h.layout

theorem read_eq_tag : s.read = s.tag := by
  rw [Spelling.read, h.stripped.1, h.stripped.2, Spelling.tag]

end Spelling.Neat

/-- Parsing undoes spelling. Whatever blanks stand around names and values, whichever separators are
escaped and whether or not there is a last one, the record that is parsed is the dictionary of the
pairs: each name where it first occurs, with its last value. A key that is not empty is rid of its
blanks and padded to the next multiple of four characters. -/
theorem parseTags_spell {closed : Bool} {ss : List Spelling} (neat : ∀ s ∈ ss, s.Neat)
    {tail : Text} (blank : ∀ c ∈ tail, isBlank c = true) :
    parseTags (spell closed ss ++ tail) =
      table (ss.map Spelling.name).eraseDups (fun name =>
        let value := lastValue (ss.map Spelling.tag) name
        if name = keyName then restored value else value) ∧
    restored [] = [] ∧
    ∀ key : Text, key ≠ [] → ∃ pads < 4,
      restored key = squeeze key ++ List.replicate pads '=' ∧ 4 ∣ (restored key).length := by
  refine ⟨?_, rfl, fun key => restored_eq⟩
  have legible : ∀ s ∈ ss, s.Legible := fun s hs => (neat s hs).legible
  have tags : ss.map Spelling.read = ss.map Spelling.tag := by
    apply List.map_congr_left
    intro s hs
    exact (neat s hs).read_eq_tag
  have names : (ss.map Spelling.tag).map Prod.fst = ss.map Spelling.name := by
    rw [List.map_map]
    rfl
  rw [parseTags, joinStrings_eq_self (not_mem_spell legible blank), readTags_spell legible blank,
    tags, foldl_set_eq_dictionary, dictionary, restoreKey_table (nodup_eraseDups _), names]

/-- Two names that stand twice, an escaped separator behind a blank, a value with an equals sign and
a backslash in it, and a key with blanks and without its padding. -/
theorem parseTags_spell_repeated :
    let ss : List Spelling :=
      [⟨['v'], "x\\=y".toList, [' '], [' '], ['\t'], [' '], .escaped⟩,
        ⟨['p'], [], [], [], [], [], .plain⟩,
        ⟨['v'], "DKIM1".toList, ['\n'], [], [], [], .plain⟩,
        ⟨['p'], "QU JD\tR".toList, [' '], [], [' '], [], .escaped⟩]
    spell false ss = " v =\tx\\=y \\;p=;\nv=DKIM1; p= QU JD\tR".toList ∧
      parseTags (spell false ss ++ [' ']) =
        [(['v'], "DKIM1".toList), (['p'], "QUJDR===".toList)] := by
  intro ss
  have neat : ∀ s ∈ ss, s.Neat := by
    intro s hs
    simp only [ss, List.mem_cons, List.not_mem_nil, or_false] at hs
    rcases hs with rfl | rfl | rfl | rfl
    all_goals
      exact ⟨by decide, by decide, by decide, by decide, by decide, by decide,
        by rw [← List.all_eq_true]; decide⟩
  refine ⟨by decide, ?_⟩
  rw [(parseTags_spell neat (by rw [← List.all_eq_true]; decide)).1]
  decide +kernel

end SelectorScan.KeyRecord
