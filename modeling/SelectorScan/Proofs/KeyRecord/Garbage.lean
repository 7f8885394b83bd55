import SelectorScan.Proofs.KeyRecord.Append

/-!
# Garbage in records

Between two separators of a record there may be text without an equals sign, which is no tag. It
ends the record only if no equals sign follows at all. Otherwise it becomes the front part of the
next name, separator and all, and the tags behind are read as ever:

    parseTags (front ++ garbage ++ ';' :: rest) = parseTags front ↔ ¬('=' ∈ rest ∧ …)
                                                                          (parseTags_garbage_iff)

What does end a record is a tag whose name is blank (`readTag?_of_blank`).
-/

namespace SelectorScan.KeyRecord

open Text

/-! ## Segments -/

/-- A tag with its separator, blanks not told apart. -/
structure Segment where
  name : Text
  value : Text
deriving DecidableEq, Repr

namespace Segment

def text (s : Segment) : Text :=
  s.name ++ '=' :: s.value ++ [';']

def read (s : Segment) : Text × Text :=
  (strip s.name, cleanValue s.value)

/-- Whether the name is more than blanks. -/
def named (s : Segment) : Bool :=
  !s.name.all isBlank

/-- Nothing in the name or the value can be taken for what ends it, or for the end of a string. -/
structure Plain (s : Segment) : Prop where
  name : '=' ∉ s.name ∧ ';' ∉ s.name ∧ '\x22' ∉ s.name
  value : ';' ∉ s.value ∧ '\x22' ∉ s.value

end Segment

/-- Without an equals sign there is no tag. -/
theorem readTag?_of_not_mem {t : Text} (h : '=' ∉ t) : readTag? t = none := by
  cases ht : readTag? t with
  | none => rfl
  | some result =>
    obtain ⟨before, name, value, tail, rfl, -⟩ := readTag?_eq_some_iff.1 ht
    exact absurd (List.mem_append_right _ List.mem_cons_self) h

/-- A blank name is no name. -/
theorem readTag?_of_blank {name : Text} (blank : ∀ c ∈ name, isBlank c = true) (rest : Text) :
    readTag? (name ++ '=' :: rest) = none := by
  have body : (name ++ '=' :: rest).dropWhile isBlank = '=' :: rest :=
    List.dropWhile_append_of_pos blank
  unfold readTag?
  simp only [body]
  rfl

/-- A segment with a name is read, and one without ends the reading. -/
theorem Segment.Plain.readTag?_text {s : Segment} (h : s.Plain) (more : Text) :
    readTag? (s.text ++ more) =
      if s.named then some (s.read, more.dropWhile isBlank) else none := by
  have text : s.text ++ more = s.name ++ '=' :: (s.value ++ ';' :: more) := by
    simp [Segment.text]
  rw [text]
  split
  · next named =>
    have named' : ¬∀ c ∈ s.name, isBlank c = true := by simpa [Segment.named] using named
    exact readTag?_eq_some_iff.2 ⟨[], s.name, s.value, ';' :: more, rfl, nofun, named', h.name.1,
      h.value.1, rfl, rfl, rfl⟩
  · next blank =>
    exact readTag?_of_blank (by simpa [Segment.named] using blank) _

/-- Segments are read up to the first one without a name; what follows them is read if there is no
such segment. -/
theorem readTags_segments {segments : List Segment} (plain : ∀ s ∈ segments, s.Plain)
    (more : Text) :
    readTags (segments.flatMap Segment.text ++ more) =
      (segments.takeWhile Segment.named).map Segment.read ++
        if segments.all Segment.named then readTags more else [] := by
  induction segments with
  | nil => rfl
  | cons s segments ih =>
    obtain ⟨hs, plain⟩ := List.forall_mem_cons.1 plain
    have first := hs.readTag?_text (segments.flatMap Segment.text ++ more)
    rw [List.flatMap_cons, List.append_assoc]
    cases named : s.named with
    | false =>
      rw [named, if_neg Bool.false_ne_true] at first
      rw [readTags_of_none first, List.takeWhile_cons_of_neg (by simp [named]), List.all_cons,
        named]
      rfl
    | true =>
      rw [named, if_pos rfl] at first
      rw [readTags_of_some first, readTags_dropWhile, ih plain,
        List.takeWhile_cons_of_pos named, List.all_cons, named]
      rfl

/-! ## Garbage -/

/-- A name begins where the garbage begins, goes over the separator and ends at the next equals
sign. -/
theorem readTag?_garbage {garbage name value tail : Text} (noEquals : '=' ∉ garbage ++ name)
    (noEnd : ';' ∉ value) (ends : tail.head?.all (· == ';')) :
    readTag? (garbage ++ ';' :: (name ++ '=' :: (value ++ tail))) =
      some ((strip (garbage ++ ';' :: name), cleanValue value),
        (tail.drop 1).dropWhile isBlank) := by
  refine readTag?_eq_some_iff.2 ⟨[], garbage ++ ';' :: name, value, tail, ?_, nofun, ?_, ?_, noEnd,
    ends, rfl, rfl⟩
  · simp
  · intro blank
    have dark := blank ';' (List.mem_append_right _ List.mem_cons_self)
    cases dark
  · simpa using noEquals

/-- What is read behind the garbage: nothing if no equals sign follows, and else first of all a tag
whose name holds the garbage and its separator. -/
theorem readTags_garbage {garbage : Text} (noEquals : '=' ∉ garbage) (rest : Text) :
    ('=' ∉ rest → readTags (garbage ++ ';' :: rest) = []) ∧
      ('=' ∈ rest → ∃ value more, readTags (garbage ++ ';' :: rest) =
        (strip (garbage ++ ';' :: rest.takeWhile inName), value) :: more) := by
  constructor
  · intro none
    apply readTags_of_none
    apply readTag?_of_not_mem
    simpa [noEquals] using none
  · intro some
    obtain ⟨name, more, rfl, noEquals'⟩ := List.eq_append_cons_of_mem some
    have inside : ∀ c ∈ name, inName c = true := by
      intro c hc
      rw [inName, bne_iff_ne]
      rintro rfl
      exact noEquals' hc
    have noEnd : ';' ∉ more.takeWhile inValue := by
      intro hc
      exact absurd (List.mem_takeWhile_imp hc) (by decide)
    have unbroken : '=' ∉ garbage ++ name := by simp [noEquals, noEquals']
    have read := readTag?_garbage unbroken noEnd (head?_dropWhile_inValue more)
    rw [List.takeWhile_append_dropWhile] at read
    have stop : (name ++ '=' :: more).takeWhile inName = name := by
      rw [List.takeWhile_append_of_pos inside]
      exact List.append_nil name
    rw [readTags_of_some read, stop]
    exact ⟨_, _, rfl⟩

/-! ## Records -/

section Records

variable {segments : List Segment} (plain : ∀ s ∈ segments, s.Plain)
include plain

/-- The tags of segments and of a text behind them. -/
theorem readTags_record {more : Text} (unquoted : '\x22' ∉ more) :
    readTags (joinStrings (segments.flatMap Segment.text ++ more)) =
      (segments.takeWhile Segment.named).map Segment.read ++
        if segments.all Segment.named then readTags (joinStrings more) else [] := by
  have clean : '\x22' ∉ segments.flatMap Segment.text ++ more := by
    intro h
    obtain ⟨s, hs, hc⟩ := List.mem_flatMap.1 ((List.mem_append.1 h).resolve_right unquoted)
    obtain ⟨⟨-, -, name⟩, -, value⟩ := plain s hs
    simp [Segment.text, name, value] at hc
  rw [joinStrings_eq_self clean, readTags_segments plain, joinStrings_eq_self unquoted]

theorem readTags_front :
    readTags (joinStrings (segments.flatMap Segment.text)) =
      (segments.takeWhile Segment.named).map Segment.read := by
  have unquoted : '\x22' ∉ ([] : Text) := List.not_mem_nil
  have read := readTags_record plain unquoted
  rwa [joinStrings_eq_self List.not_mem_nil, readTags_nil, ite_self, List.append_nil,
    List.append_nil] at read

/-- Names of segments have no separators. -/
theorem not_mem_of_mem_parseTags {tag : Text × Text}
    (h : tag ∈ parseTags (segments.flatMap Segment.text)) : ';' ∉ tag.1 := by
  have mem := mem_map_fst_parseTags.1 (List.mem_map_of_mem (f := Prod.fst) h)
  rw [readTags_front plain, List.map_map] at mem
  obtain ⟨s, hs, e⟩ := List.mem_map.1 mem
  have named : ';' ∉ s.name := (plain s ((List.takeWhile_sublist _).subset hs)).name.2.1
  rw [← e]
  exact fun hc => named ((mem_strip_iff rfl).1 hc)

/-- Garbage behind the tags of a record ends it only if no equals sign follows, or if a name was
blank before. In any other case, and in no other, a name with a separator comes of it: the next
name, which begins with the garbage; and the tags from there on count like any others. -/
theorem parseTags_garbage_iff {garbage rest : Text} (noEquals : '=' ∉ garbage)
    (unquoted : '\x22' ∉ garbage ++ ';' :: rest) :
    let front := segments.flatMap Segment.text
    let tags := parseTags (front ++ (garbage ++ ';' :: rest))
    let goesOn := '=' ∈ rest ∧ segments.all Segment.named = true
    (tags = parseTags front ↔ ¬goesOn) ∧ ((∃ tag ∈ tags, ';' ∈ tag.1) ↔ goesOn) ∧
      (goesOn → tags = (parseTags front).update (parseTags (garbage ++ ';' :: rest)) ∧
        strip (garbage ++ ';' :: rest.takeWhile inName) ∈ tags.map Prod.fst) := by
  intro front tags goesOn
  obtain ⟨none, some⟩ := readTags_garbage noEquals rest
  have read := readTags_record plain unquoted
  have low : ¬∃ tag ∈ parseTags front, ';' ∈ tag.1 :=
    fun ⟨tag, ht, hc⟩ => not_mem_of_mem_parseTags plain ht hc
  rw [joinStrings_eq_self unquoted] at read
  by_cases goes : goesOn
  · obtain ⟨value, more, behind⟩ := some goes.1
    rw [if_pos goes.2] at read
    have joined : strip (garbage ++ ';' :: rest.takeWhile inName) ∈ tags.map Prod.fst := by
      rw [mem_map_fst_parseTags, read, behind]
      simp
    have high : ∃ tag ∈ tags, ';' ∈ tag.1 := by
      obtain ⟨tag, ht, e⟩ := List.mem_map.1 joined
      exact ⟨tag, ht, by rw [e, mem_strip_iff rfl]; simp⟩
    have updated : tags = (parseTags front).update (parseTags (garbage ++ ';' :: rest)) := by
      rw [parseTags_eq front, parseTags_eq (garbage ++ ';' :: rest),
        ← restoreKey_dictionary_append, readTags_front plain, joinStrings_eq_self unquoted, ← read,
        ← parseTags_eq]
    exact ⟨iff_of_false (fun e => low (e ▸ high)) (not_not_intro goes), iff_of_true high goes,
      fun _ => ⟨updated, joined⟩⟩
  · have ended : (if segments.all Segment.named then readTags (garbage ++ ';' :: rest) else []) =
        [] := by
      split
      · next named => exact none fun h => goes ⟨h, named⟩
      · rfl
    have same : tags = parseTags front := by
      rw [ended, List.append_nil, ← readTags_front plain] at read
      rw [parseTags_eq front, ← read, ← parseTags_eq]
    exact ⟨iff_of_true same goes, iff_of_false (same ▸ low) goes, fun h => absurd h goes⟩

end Records

/-- Behind the garbage there stand two tags, the first of which is lost to it. -/
theorem parseTags_garbage_iff_swallowed :
    let segments : List Segment := [⟨['v'], "DKIM1".toList⟩, ⟨" t ".toList, " y\\".toList⟩]
    let front := segments.flatMap Segment.text
    let tags := parseTags (front ++ (" see\tbelow".toList ++ ';' :: " k=rsa; p=QUJD".toList))
    front = "v=DKIM1; t = y\\;".toList ∧ tags ≠ parseTags front ∧
      (∃ tag ∈ tags, ';' ∈ tag.1) ∧ "see\tbelow; k".toList ∈ tags.map Prod.fst := by
  intro segments front tags
  have plain : ∀ s ∈ segments, s.Plain := by
    simp only [segments, List.forall_mem_cons]
    exact ⟨⟨by decide, by decide⟩, ⟨by decide, by decide⟩, nofun⟩
  have goesOn : '=' ∈ " k=rsa; p=QUJD".toList ∧ segments.all Segment.named = true := by decide
  have noEquals : '=' ∉ " see\tbelow".toList := by decide
  have unquoted : '\x22' ∉ " see\tbelow".toList ++ ';' :: " k=rsa; p=QUJD".toList := by decide
  obtain ⟨same, named, joined⟩ := parseTags_garbage_iff plain noEquals unquoted
  exact ⟨by decide, fun e => same.1 e goesOn, named.2 goesOn, (joined goesOn).2⟩

/-- The key behind garbage is read, though the tags before the garbage have none. -/
theorem key_read_behind_garbage :
    let front := "v=DKIM1;".toList
    parseTags (front ++ " garbage".toList ++ ';' :: " k=rsa; p=ABCD".toList) =
        [(['v'], "DKIM1".toList), ("garbage; k".toList, "rsa".toList), (['p'], "ABCD".toList)] ∧
      parseTags front = [(['v'], "DKIM1".toList)] := by
  decide +kernel

end SelectorScan.KeyRecord
