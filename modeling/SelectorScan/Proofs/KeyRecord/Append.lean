import Mathlib.Data.List.Nodup
import SelectorScan.Proofs.KeyRecord.Dictionary

/-!
# Records one behind the other

A record that ends in a separator and is read completely may have another text behind it: that text
is read as if it stood alone, whatever it is, and its tags change and extend those in front.

    parseTags (front ++ back) = (parseTags front).update (parseTags back)  (parseTags_append_update)

Nothing reaches across the separator: strings are not joined over it (`joinStrings_append`), the
last tag in front ends with it (`readTag?_append`), and a key is restored from its own value
(`restoreKey_update`).
-/

namespace SelectorScan.KeyRecord

open Text

/-! ## Updates -/

/-- Gives tags the values of other tags, one after the other. -/
def TagList.update (tags more : TagList) : TagList :=
  more.foldl (fun tags tag => tags.set tag.1 tag.2) tags

theorem map_fst_table (names : List Text) (f : Text → Text) :
    (table names f).map Prod.fst = names := by
  rw [table, List.map_map]
  exact List.map_id _

theorem nodup_append_filter {names more : List Text} (once : names.Nodup) (once' : more.Nodup) :
    (names ++ more.filter fun name => name ∉ names).Nodup := by
  rw [List.nodup_append]
  refine ⟨once, once'.filter _, ?_⟩
  rintro name hn _ hm rfl
  exact of_decide_eq_true (List.mem_filter.1 hm).2 hn

/-- Names keep their places, new ones come behind them, and the later values are taken. -/
theorem update_table {names more : List Text} (once : names.Nodup) (once' : more.Nodup)
    (f g : Text → Text) :
    (table names f).update (table more g) =
      table (names ++ more.filter fun name => name ∉ names)
        fun name => if name ∈ more then g name else f name := by
  induction more using List.reverseRecOn with
  | nil =>
    rw [List.filter_nil, List.append_nil]
    exact table_congr fun name _ => (if_neg List.not_mem_nil).symm
  | append_singleton more last ih =>
    obtain ⟨once', -, apart⟩ := List.nodup_append.1 once'
    have fresh : last ∉ more := fun h => apart last h last (List.mem_singleton_self _) rfl
    have step : (table names f).update (table (more ++ [last]) g) =
        ((table names f).update (table more g)).set last (g last) := by
      simp [TagList.update, table, List.foldl_append]
    have places : (if last ∈ names ++ more.filter fun name => name ∉ names
          then names ++ more.filter fun name => name ∉ names
          else names ++ (more.filter fun name => name ∉ names) ++ [last]) =
        names ++ (more ++ [last]).filter fun name => name ∉ names := by
      rw [List.filter_append]
      by_cases h : last ∈ names
      · simp [h]
      · simp [h, fresh]
    rw [step, ih once', set_table (nodup_append_filter once once'), places]
    apply table_congr
    intro name _
    by_cases h : name = last
    · simp [h]
    · simp [h]

theorem get?_update {names more : List Text} (once : names.Nodup) (once' : more.Nodup)
    (f g : Text → Text) (name : Text) :
    ((table names f).update (table more g)).get? name =
      ((table more g).get? name).or ((table names f).get? name) := by
  rw [update_table once once', get?_table, get?_table, get?_table]
  by_cases hm : name ∈ more
  · simp [hm]
  · by_cases hn : name ∈ names <;> simp [hm, hn]

/-- A value that is given to the later tags may be given to all tags in the end. -/
theorem update_set {names more : List Text} (once : names.Nodup) (once' : more.Nodup)
    (f g : Text → Text) (name value : Text) :
    (table names f).update ((table more g).set name value) =
      ((table names f).update (table more g)).set name value := by
  have once'' : (if name ∈ more then more else more ++ [name]).Nodup := by
    split
    · exact once'
    · next fresh =>
      rw [← List.concat_eq_append]
      exact List.Nodup.concat fresh once'
  have places : (if name ∈ names ++ more.filter (fun name => name ∉ names)
        then names ++ more.filter fun name => name ∉ names
        else names ++ (more.filter fun name => name ∉ names) ++ [name]) =
      names ++ (if name ∈ more then more else more ++ [name]).filter fun name => name ∉ names := by
    by_cases hm : name ∈ more <;> by_cases hn : name ∈ names <;> simp [hm, hn]
  rw [set_table once', update_table once once'', update_table once once',
    set_table (nodup_append_filter once once'), places]
  apply table_congr
  intro other _
  by_cases h : other = name
  · subst h
    by_cases hm : other ∈ more <;> simp [hm]
  · by_cases hm : name ∈ more <;> simp [hm, h]

/-- The dictionary of pairs is changed and extended by that of the pairs behind them. -/
theorem dictionary_append (front back : List (Text × Text)) :
    dictionary (front ++ back) = (dictionary front).update (dictionary back) := by
  induction back using List.reverseRecOn with
  | nil =>
    rw [List.append_nil]
    rfl
  | append_singleton back pair ih =>
    rw [← List.append_assoc, dictionary_concat, ih, dictionary_concat]
    exact (update_set (nodup_eraseDups _) (nodup_eraseDups _) ..).symm

/-- A key is restored from its own value, before an update or after it. -/
theorem restoreKey_update {names more : List Text} (once : names.Nodup) (once' : more.Nodup)
    (f g : Text → Text) :
    restoreKey ((table names f).update (table more g)) =
      (restoreKey (table names f)).update (restoreKey (table more g)) := by
  rw [update_table once once', restoreKey_table (nodup_append_filter once once'),
    restoreKey_table once, restoreKey_table once', update_table once once']
  apply table_congr
  intro name _
  by_cases hm : name ∈ more
  · simp only [if_pos hm]
  · simp only [if_neg hm]

theorem restoreKey_dictionary_append (front back : List (Text × Text)) :
    restoreKey (dictionary (front ++ back)) =
      (restoreKey (dictionary front)).update (restoreKey (dictionary back)) := by
  rw [dictionary_append]
  exact restoreKey_update (nodup_eraseDups _) (nodup_eraseDups _) ..

/-! ## The first tag -/

/-- The first character that is not taken off the front of a text. -/
theorem head?_dropWhile {p : Char → Bool} {t : Text} {c : Char} {rest : Text}
    (h : t.dropWhile p = c :: rest) : p c = false := by
  have first := List.head?_dropWhile_not p t
  rw [h] at first
  exact first

/-- A value is followed by a semicolon, if by anything. -/
theorem head?_dropWhile_inValue (t : Text) : (t.dropWhile inValue).head?.all (· == ';') := by
  cases h : t.dropWhile inValue with
  | nil => rfl
  | cons c rest => simpa [inValue] using head?_dropWhile h

/-- Characters at the front that are taken off anyway may be taken off first. -/
theorem dropWhile_append_dropWhile {p : Char → Bool} (s t : Text) :
    (s ++ t).dropWhile p = (s.dropWhile p ++ t).dropWhile p := by
  rw [List.dropWhile_append, List.dropWhile_append, List.dropWhile_idempotent]

/-- A tag is a name that is not blank, an equals sign, and a value up to a semicolon or the end. -/
theorem readTag?_eq_some_iff {t rest : Text} {tag : Text × Text} :
    readTag? t = some (tag, rest) ↔ ∃ before name value tail : Text,
      t = before ++ name ++ '=' :: (value ++ tail) ∧ (∀ c ∈ before, isBlank c = true) ∧
      (¬∀ c ∈ name, isBlank c = true) ∧ '=' ∉ name ∧ ';' ∉ value ∧ tail.head?.all (· == ';') ∧
      tag = (strip name, cleanValue value) ∧ rest = (tail.drop 1).dropWhile isBlank := by
  constructor
  · intro h
    simp only [readTag?] at h
    split at h
    · cases h
    · next c after hd =>
      split at h
      · cases h
      · next filled =>
        obtain ⟨rfl, rfl⟩ := Prod.mk.inj (Option.some.inj h)
        have equals : c = '=' := by simpa [inName] using head?_dropWhile hd
        refine ⟨t.takeWhile isBlank, (t.dropWhile isBlank).takeWhile inName,
          after.takeWhile inValue, after.dropWhile inValue, ?_, ?_, ?_, ?_, ?_, ?_, rfl, rfl⟩
        · rw [List.takeWhile_append_dropWhile, ← equals, ← hd, List.append_assoc,
            List.takeWhile_append_dropWhile, List.takeWhile_append_dropWhile]
        · intro c hc
          exact List.mem_takeWhile_imp hc
        · -- the name begins where the blanks end
          intro blank
          obtain ⟨first, more, hn⟩ := List.exists_cons_of_ne_nil (List.isEmpty_eq_false_iff.1
            (Bool.not_eq_true _ ▸ filled))
          have body : t.dropWhile isBlank = first :: (more ++ c :: after) := by
            rw [← List.cons_append, ← hn, ← hd, List.takeWhile_append_dropWhile]
          have dark := blank first (hn ▸ List.mem_cons_self)
          rw [head?_dropWhile body] at dark
          cases dark
        · intro hc
          exact absurd (List.mem_takeWhile_imp hc) (by decide)
        · intro hc
          exact absurd (List.mem_takeWhile_imp hc) (by decide)
        · exact head?_dropWhile_inValue after
  · rintro ⟨before, name, value, tail, rfl, blank, named, noEquals, noEnd, ends, rfl, rfl⟩
    have close : ∀ c ∈ ([] : Text), isBlank c = true := List.forall_mem_nil _
    have read := readTag?_of_parts blank close named noEquals noEnd ends
    rwa [List.append_nil] at read

/-- What is read behind a tag stands at the end of the text. -/
theorem suffix_of_readTag? {t rest : Text} {tag : Text × Text} (h : readTag? t = some (tag, rest)) :
    rest <:+ t := by
  obtain ⟨before, name, value, tail, rfl, -, -, -, -, -, -, rfl⟩ := readTag?_eq_some_iff.1 h
  have cut : tail.drop 1 <:+ before ++ name ++ '=' :: (value ++ tail) := by
    refine (List.drop_suffix 1 tail).trans ?_
    rw [← List.cons_append, ← List.append_assoc]
    exact List.suffix_append _ _
  exact (List.dropWhile_suffix isBlank).trans cut

/-- A tag at the front of a text that ends in a separator stays the same, whatever stands behind
the text. -/
theorem readTag?_append {t rest : Text} {tag : Text × Text} (ends : t.getLast? = some ';')
    (h : readTag? t = some (tag, rest)) (back : Text) :
    readTag? (t ++ back) = some (tag, (rest ++ back).dropWhile isBlank) := by
  obtain ⟨before, name, value, tail, rfl, blank, named, noEquals, noEnd, stop, rfl, rfl⟩ :=
    readTag?_eq_some_iff.1 h
  cases tail with
  | nil =>
    -- the value would hold the separator at the end
    have last : ('=' :: value).getLast? = some ';' := by
      rwa [List.append_nil, List.getLast?_append_of_ne_nil _ (List.cons_ne_nil _ _)] at ends
    rcases List.mem_cons.1 (List.mem_of_getLast? last) with e | hc
    · cases e
    · exact absurd hc noEnd
  | cons c more =>
    obtain rfl : c = ';' := by simpa using stop
    refine readTag?_eq_some_iff.2 ⟨before, name, value, ';' :: (more ++ back), ?_, blank, named,
      noEquals, noEnd, rfl, rfl, (dropWhile_append_dropWhile more back).symm⟩
    simp

/-! ## All tags -/

/-- What is left of a text when no more tags are read off its front. -/
def unread (t : Text) : Text :=
  match _h : readTag? t with
  | none => t
  | some (_, rest) => unread rest
termination_by t.length
decreasing_by exact length_of_readTag? _h

theorem unread_of_none {t : Text} (h : readTag? t = none) : unread t = t := by
  rw [unread]
  split
  · rfl
  · next h' =>
    rw [h] at h'
    cases h'

theorem unread_of_some {t rest : Text} {tag : Text × Text} (h : readTag? t = some (tag, rest)) :
    unread t = unread rest := by
  rw [unread]
  split
  · next h' =>
    rw [h] at h'
    cases h'
  · next h' =>
    rw [h] at h'
    cases h'
    rfl

/-- What stands behind a text that is read completely and ends in a separator is read as if it stood
alone. -/
theorem readTags_append {front : Text} (ends : front = [] ∨ front.getLast? = some ';')
    (complete : unread front = []) (back : Text) :
    readTags (front ++ back) = readTags front ++ readTags back := by
  induction front using unread.induct with
  | case1 front none =>
    rw [unread_of_none none] at complete
    rw [complete, readTags_nil]
    rfl
  | case2 front tag rest h ih =>
    rw [unread_of_some h] at complete
    have ends : front.getLast? = some ';' := by
      refine ends.resolve_left ?_
      rintro rfl
      cases h
    have ends' : rest = [] ∨ rest.getLast? = some ';' := by
      obtain ⟨read, rfl⟩ := suffix_of_readTag? h
      by_cases hr : rest = []
      · exact .inl hr
      · rw [List.getLast?_append_of_ne_nil _ hr] at ends
        exact .inr ends
    rw [readTags_of_some (readTag?_append ends h back), readTags_dropWhile, ih ends' complete,
      readTags_of_some h, List.cons_append]

/-! ## Joined strings -/

/-- Behind a quotation mark there stand blanks and another one, which ends a string and begins the
next. -/
def Joint (rest after : Text) : Prop :=
  rest.head?.any isBlank ∧ rest.dropWhile isBlank = '\x22' :: after

theorem joinStrings_of_joint {rest after : Text} (h : Joint rest after) :
    joinStrings ('\x22' :: rest) = ' ' :: joinStrings after := by
  rw [joinStrings, if_pos ⟨rfl, h.1⟩]
  split
  · next after' h' =>
    rw [h.2] at h'
    cases h'
    rfl
  · next other => exact absurd h.2 (other after)

theorem joinStrings_cons {c : Char} {rest : Text} (h : c = '\x22' → ∀ after, ¬Joint rest after) :
    joinStrings (c :: rest) = c :: joinStrings rest := by
  rw [joinStrings]
  split
  · next hc =>
    split
    · next after hd => exact absurd ⟨hc.2, hd⟩ (h hc.1 after)
    · rfl
  · rfl

/-- What stands behind a separator has no part in it. -/
theorem joint_append_iff {rest back after : Text} :
    Joint (rest ++ ';' :: back) after ↔
      ∃ inner, Joint rest inner ∧ after = inner ++ ';' :: back := by
  have bar : (';' :: back).dropWhile isBlank = ';' :: back := rfl
  unfold Joint
  rw [List.dropWhile_append, bar]
  cases rest with
  | nil => simp [isBlank]
  | cons first more =>
    cases (first :: more).dropWhile isBlank with
    | nil => simp
    | cons d more' =>
      constructor
      · rintro ⟨blank, e⟩
        obtain ⟨rfl, rfl⟩ := List.cons.inj e
        exact ⟨more', ⟨blank, rfl⟩, rfl⟩
      · rintro ⟨inner, ⟨blank, e⟩, rfl⟩
        exact ⟨blank, congrArg (· ++ ';' :: back) e⟩

/-- Strings are not joined over a separator. -/
theorem joinStrings_append (front back : Text) :
    joinStrings (front ++ ';' :: back) = joinStrings front ++ ';' :: joinStrings back := by
  match front with
  | [] =>
    have plain : joinStrings (';' :: back) = ';' :: joinStrings back :=
      joinStrings_cons fun e => absurd e (by decide)
    rw [joinStrings]
    exact plain
  | c :: rest =>
    by_cases h : c = '\x22' ∧ ∃ after, Joint rest after
    · obtain ⟨rfl, after, joint⟩ := h
      have ih := joinStrings_append after back
      rw [List.cons_append, joinStrings_of_joint (joint_append_iff.2 ⟨after, joint, rfl⟩), ih,
        joinStrings_of_joint joint, List.cons_append]
    · have apart : c = '\x22' → ∀ after, ¬Joint rest after := fun e after joint =>
        h ⟨e, after, joint⟩
      have apart' : c = '\x22' → ∀ after, ¬Joint (rest ++ ';' :: back) after := by
        intro e after joint
        obtain ⟨inner, joint, -⟩ := joint_append_iff.1 joint
        exact apart e inner joint
      rw [List.cons_append, joinStrings_cons apart', joinStrings_append rest back,
        joinStrings_cons apart, List.cons_append]
termination_by front.length
decreasing_by
  · subst_vars
    have := (List.dropWhile_sublist isBlank (l := rest)).length_le
    rw [joint.2] at this
    simp only [List.length_cons] at this ⊢
    omega
  · simp

/-! ## Records -/

theorem parseTags_eq (t : Text) :
    parseTags t = restoreKey (dictionary (readTags (joinStrings t))) := by
  rw [parseTags, foldl_set_eq_dictionary]

/-- A parsed record has each name that is read, once. -/
theorem exists_parseTags_eq_table (t : Text) :
    ∃ value, parseTags t = table ((readTags (joinStrings t)).map Prod.fst).eraseDups value := by
  rw [parseTags_eq, dictionary, restoreKey_table (nodup_eraseDups _)]
  exact ⟨_, rfl⟩

theorem map_fst_parseTags (t : Text) :
    (parseTags t).map Prod.fst = ((readTags (joinStrings t)).map Prod.fst).eraseDups := by
  obtain ⟨value, e⟩ := exists_parseTags_eq_table t
  rw [e, map_fst_table]

theorem mem_map_fst_parseTags {name t : Text} :
    name ∈ (parseTags t).map Prod.fst ↔ name ∈ (readTags (joinStrings t)).map Prod.fst := by
  rw [map_fst_parseTags, List.mem_eraseDups]

/-- A text may be cut behind a separator before strings are joined. -/
theorem joinStrings_cut {front : Text} (ends : front = [] ∨ front.getLast? = some ';')
    (back : Text) :
    joinStrings (front ++ back) = joinStrings front ++ joinStrings back ∧
      (joinStrings front = [] ∨ (joinStrings front).getLast? = some ';') := by
  have nothing : joinStrings [] = [] := by rw [joinStrings]
  rcases ends with rfl | ends
  · rw [nothing]
    exact ⟨rfl, .inl rfl⟩
  · obtain ⟨inner, rfl⟩ := List.getLast?_eq_some_iff.1 ends
    rw [List.append_assoc, List.singleton_append, joinStrings_append, joinStrings_append, nothing]
    exact ⟨by simp, .inr List.getLast?_concat⟩

/-- Behind a record that ends in a separator and is read completely any text is parsed as if it
stood alone, and its tags update those of the record: the names of the record keep their places
with new names behind them, and the values of the text are taken where it has any. So an empty key
revokes one that stands in front. -/
theorem parseTags_append_update {front : Text} (ends : front = [] ∨ front.getLast? = some ';')
    (complete : unread (joinStrings front) = []) (back : Text) :
    let tags := parseTags (front ++ back)
    tags = (parseTags front).update (parseTags back) ∧
      tags.map Prod.fst = (parseTags front).map Prod.fst ++
        ((parseTags back).map Prod.fst).filter (fun name => name ∉ (parseTags front).map Prod.fst) ∧
      (∀ name, tags.get? name = ((parseTags back).get? name).or ((parseTags front).get? name)) ∧
      ((parseTags back).get? keyName = some [] → tags.get? keyName = some []) := by
  intro tags
  have updated : tags = (parseTags front).update (parseTags back) := by
    obtain ⟨join, ends⟩ := joinStrings_cut ends back
    rw [parseTags_eq front, parseTags_eq back, ← restoreKey_dictionary_append,
      ← readTags_append ends complete, ← join, ← parseTags_eq]
  obtain ⟨f, first⟩ := exists_parseTags_eq_table front
  obtain ⟨g, second⟩ := exists_parseTags_eq_table back
  have values : ∀ name, tags.get? name =
      ((parseTags back).get? name).or ((parseTags front).get? name) := by
    intro name
    rw [updated, first, second]
    exact get?_update (nodup_eraseDups _) (nodup_eraseDups _) f g name
  refine ⟨updated, ?_, values, ?_⟩
  · rw [updated, first, second, update_table (nodup_eraseDups _) (nodup_eraseDups _),
      map_fst_table, map_fst_table, map_fst_table]
  · intro revoked
    rw [values, revoked]
    rfl

/-- Strings are joined on both sides of the cut; the text behind revokes the key, changes a name and
has a tag without a name at its end. -/
theorem parseTags_append_update_revoked :
    let front := "v=DKIM1; p=QU\" \"JD; k=rsa\\;".toList
    let back := "\" \"t=y\" \"; p=; k=; =x".toList
    unread (joinStrings front) = [] ∧
      parseTags (front ++ back) =
        [("v".toList, "DKIM1".toList), ("p".toList, []), ("k".toList, []),
          ("t".toList, "y".toList)] := by
  intro front back
  have complete : unread (joinStrings front) = [] := by decide +kernel
  refine ⟨complete, ?_⟩
  rw [(parseTags_append_update (.inr (by decide)) complete back).1]
  decide +kernel

end SelectorScan.KeyRecord
