import SelectorScan.KeyRecord.TagList
import SelectorScan.Proofs.Key.Base64
import SelectorScan.Proofs.Text.Blank

/-!
# Reading a tag list

One tag is read from a text that is laid out as one, whatever blanks stand around its parts
(`readTag?_of_parts`). Of several tags with one name the last one counts (`get?_parseTags`), except
that a key is rid of its blanks and padded, which undoes cutting equals signs off its end and
putting blanks into it (`restored_of_append`).
-/

namespace SelectorScan.KeyRecord

open Text Key

/-! ## Values by name -/

theorem lookup_cons (name : Text) (tag : Text × Text) (tags : List (Text × Text)) :
    List.lookup name (tag :: tags) = if name = tag.1 then some tag.2 else tags.lookup name := by
  by_cases h : name = tag.1
  · rw [if_pos h, h]
    exact List.lookup_cons_self
  · have hb : (name == tag.1) = false := beq_eq_false_iff_ne.2 h
    rw [if_neg h, List.lookup_cons, hb]

theorem get?_set (name value : Text) (tags : TagList) (other : Text) :
    (tags.set name value).get? other = if other = name then some value else tags.get? other := by
  simp only [TagList.get?]
  induction tags with
  | nil => rw [TagList.set, lookup_cons]
  | cons tag rest ih =>
    obtain ⟨n, v⟩ := tag
    by_cases hn : n = name
    · rw [TagList.set, if_pos hn, lookup_cons, lookup_cons]
      by_cases h : other = name
      · rw [if_pos h, if_pos (h.trans hn.symm)]
      · rw [if_neg h, if_neg (hn ▸ h), if_neg (hn ▸ h)]
    · rw [TagList.set, if_neg hn, lookup_cons, lookup_cons, ih]
      by_cases h : other = name
      · rw [if_neg fun e => hn (e.symm.trans h), if_pos h, if_pos h]
      · rw [if_neg h, if_neg h]

/-- The value of the last tag of each name is kept. -/
theorem get?_foldl_set (name : Text) (pairs : List (Text × Text)) (tags : TagList) :
    (pairs.foldl (fun tags tag => tags.set tag.1 tag.2) tags).get? name =
      (pairs.reverse.lookup name).or (tags.get? name) := by
  induction pairs generalizing tags with
  | nil => rfl
  | cons tag rest ih =>
    rw [List.foldl_cons, ih, get?_set, List.reverse_cons, List.lookup_append, Option.or_assoc,
      lookup_cons]
    congr 1
    by_cases h : name = tag.1
    · rw [if_pos h, if_pos h]
      rfl
    · rw [if_neg h, if_neg h]
      rfl

/-! ## Keys -/

/-- What restoring makes of the value of a key. -/
def restored (key : Text) : Text :=
  if key.isEmpty then key else padBase64 (squeeze key)

theorem get?_restoreKey (name : Text) (tags : TagList) :
    (restoreKey tags).get? name =
      if name = keyName then (tags.get? keyName).map restored else tags.get? name := by
  unfold restoreKey
  cases hk : tags.get? keyName with
  | none =>
    by_cases h : name = keyName
    · rw [if_pos h, h, hk]
      rfl
    · rw [if_neg h]
  | some key =>
    simp only [Option.map_some, restored]
    by_cases empty : key.isEmpty
    · simp only [empty, if_true]
      by_cases h : name = keyName
      · rw [if_pos h, h, hk]
      · rw [if_neg h]
    · simp only [empty, Bool.false_eq_true, if_false]
      rw [get?_set]

/-- Base 64 text has no blanks. -/
theorem squeeze_encode (bytes : List UInt8) :
    squeeze (Base64.encode bytes) = Base64.encode bytes := by
  refine List.filter_eq_self.2 fun c hc => ?_
  have visible := Base64.visible_of_mem_encode hc
  rw [Bool.not_eq_true', ← Bool.not_eq_true]
  simp only [isBlank, Bool.or_eq_true, Bool.and_eq_true, decide_eq_true_eq, beq_iff_eq]
  omega

theorem dvd_length_padBase64 (t : Text) : 4 ∣ (padBase64 t).length := by
  rw [padBase64, List.length_append, List.length_replicate]
  omega

/-- Padding undoes cutting equals signs off the end of base 64 text. -/
theorem padBase64_of_append {t : Text} {pads : Nat} {bytes : List UInt8}
    (h : t ++ List.replicate pads '=' = Base64.encode bytes) :
    padBase64 t = Base64.encode bytes := by
  have few := Base64.pads_le_of_append_eq_encode h
  have whole := Base64.four_dvd_length_encode bytes
  rw [← h, List.length_append, List.length_replicate] at whole
  have missing : (4 - t.length % 4) % 4 = pads := by omega
  rw [padBase64, missing, h]

/-- A key whose text is base 64, but for equals signs cut off its end and blanks put into it, is
restored to that text. -/
theorem restored_of_append {t : Text} {pads : Nat} {bytes : List UInt8} (filled : bytes ≠ [])
    (h : squeeze t ++ List.replicate pads '=' = Base64.encode bytes) :
    restored t = Base64.encode bytes := by
  have long : (Base64.encode bytes).length ≠ 0 := fun e =>
    Base64.encode_ne_nil filled (List.eq_nil_of_length_eq_zero e)
  have few := Base64.pads_le_of_append_eq_encode h
  have whole := Base64.four_dvd_length_encode bytes
  have kept : t.isEmpty = false := by
    cases t with
    | nil =>
      have none : pads = (Base64.encode bytes).length := by
        rw [← h]
        simp [squeeze]
      omega
    | cons c rest => rfl
  rw [restored, kept, if_neg Bool.false_ne_true, padBase64_of_append h]

/-! ## Tags -/

theorem joinStrings_eq_self {t : Text} (h : '\x22' ∉ t) : joinStrings t = t := by
  induction t with
  | nil => rw [joinStrings]
  | cons c rest ih =>
    have hc : ¬(c = '\x22' ∧ rest.head?.any isBlank) := fun e => h (by rw [e.1]; simp)
    rw [joinStrings, if_neg hc, ih fun hr => h (List.mem_cons_of_mem _ hr)]

/-- The value of a name in a text is that of the last tag with this name, a key restored. -/
theorem get?_parseTags {t : Text} (plain : '\x22' ∉ t) (name : Text) :
    (parseTags t).get? name =
      ((readTags t).reverse.lookup name).map
        (if name = keyName then restored else id) := by
  rw [parseTags, joinStrings_eq_self plain, get?_restoreKey, get?_foldl_set, get?_foldl_set]
  have none (o : Option Text) : o.or (TagList.get? keyName []) = o ∧
      o.or (TagList.get? name []) = o := by
    cases o <;> exact ⟨rfl, rfl⟩
  by_cases h : name = keyName
  · rw [if_pos h, if_pos h, (none _).1, h]
  · rw [if_neg h, if_neg h, (none _).2, Option.map_id]
    rfl

/-- A name is taken up to the equals sign and a value up to the semicolon or the end, blanks around
the name not counting. -/
theorem readTag?_of_parts {before name after value rest : Text}
    (blankBefore : ∀ c ∈ before, isBlank c = true) (blankAfter : ∀ c ∈ after, isBlank c = true)
    (named : ¬∀ c ∈ name, isBlank c = true) (noEquals : '=' ∉ name) (noEnd : ';' ∉ value)
    (ends : rest.head?.all (· == ';')) :
    readTag? (before ++ name ++ after ++ '=' :: (value ++ rest)) =
      some ((strip name, cleanValue value), (rest.drop 1).dropWhile isBlank) := by
  have filled : name.dropWhile isBlank ≠ [] := fun e => named (List.dropWhile_eq_nil_iff.1 e)
  have filled' : (name.dropWhile isBlank).isEmpty = false := by
    cases hd : name.dropWhile isBlank with
    | nil => exact absurd hd filled
    | cons c rest => rfl
  have body : (before ++ name ++ after ++ '=' :: (value ++ rest)).dropWhile isBlank =
      name.dropWhile isBlank ++ after ++ '=' :: (value ++ rest) := by
    rw [List.append_assoc, List.append_assoc, List.dropWhile_append_of_pos blankBefore,
      List.dropWhile_append, filled', if_neg Bool.false_ne_true, List.append_assoc]
  have inNamePart : ∀ c ∈ name.dropWhile isBlank ++ after, inName c = true := by
    intro c hc
    rcases List.mem_append.1 hc with hc | hc
    · have hn : c ∈ name := (List.dropWhile_sublist isBlank).subset hc
      simp only [inName, bne_iff_ne]
      intro e
      rw [e] at hn
      exact noEquals hn
    · simp only [inName, bne_iff_ne]
      intro e
      have hb := blankAfter c hc
      rw [e] at hb
      exact absurd hb (by decide)
  have inValuePart : ∀ c ∈ value, inValue c = true := by
    intro c hc
    simp only [inValue, bne_iff_ne]
    intro e
    rw [e] at hc
    exact noEnd hc
  have stop : rest.takeWhile inValue = [] ∧ rest.dropWhile inValue = rest := by
    cases rest with
    | nil => exact ⟨rfl, rfl⟩
    | cons c more =>
      have hc : c = ';' := by simpa using ends
      rw [hc]
      exact ⟨rfl, rfl⟩
  have stopName : ('=' :: (value ++ rest)).takeWhile inName = [] ∧
      ('=' :: (value ++ rest)).dropWhile inName = '=' :: (value ++ rest) := ⟨rfl, rfl⟩
  have nonempty : (name.dropWhile isBlank ++ after).isEmpty = false := by
    cases hd : name.dropWhile isBlank with
    | nil => exact absurd hd filled
    | cons c rest => rfl
  unfold readTag?
  simp only [body]
  rw [List.takeWhile_append_of_pos inNamePart, List.dropWhile_append_of_pos inNamePart,
    stopName.1, stopName.2, List.append_nil]
  simp only [nonempty, Bool.false_eq_true, if_false]
  rw [List.takeWhile_append_of_pos inValuePart, List.dropWhile_append_of_pos inValuePart,
    stop.1, stop.2, List.append_nil, strip, trim_append blankAfter, trim_dropWhile]
  rfl

/-- A value is cleaned of blanks around it. -/
theorem cleanValue_of_parts {before value after : Text}
    (blankBefore : ∀ c ∈ before, isBlank c = true) (blankAfter : ∀ c ∈ after, isBlank c = true)
    (unescaped : value.getLast? ≠ some '\\') :
    cleanValue (before ++ value ++ after) = strip value := by
  have last : (before ++ value ++ after).getLast? ≠ some '\\' := by
    intro h
    have blank : ¬∃ b : Text, (∀ c ∈ b, isBlank c = true) ∧ b.getLast? = some '\\' := by
      rintro ⟨b, hb, hl⟩
      exact absurd (hb _ (List.mem_of_getLast? hl)) (by decide)
    rw [List.getLast?_append, List.getLast?_append] at h
    cases ha : after.getLast? with
    | some c =>
      rw [ha] at h
      exact blank ⟨after, blankAfter, by rw [ha]; exact h⟩
    | none =>
      rw [ha, Option.none_or] at h
      cases hv : value.getLast? with
      | some c =>
        rw [hv] at h
        exact unescaped (by rw [hv]; exact h)
      | none =>
        rw [hv, Option.none_or] at h
        exact blank ⟨before, blankBefore, h⟩
  rw [cleanValue, if_neg last, strip, trim_append blankAfter, trim_append_left blankBefore]
  rfl

/-- The backslash of an escaped separator is dropped, and blanks around the value too. -/
theorem cleanValue_escaped {before value after : Text}
    (blankBefore : ∀ c ∈ before, isBlank c = true) (blankAfter : ∀ c ∈ after, isBlank c = true) :
    cleanValue (before ++ value ++ after ++ ['\\']) = strip value := by
  rw [cleanValue, List.getLast?_concat, if_pos rfl, List.dropLast_concat, strip,
    trim_append blankAfter, trim_append_left blankBefore]
  rfl

end SelectorScan.KeyRecord
