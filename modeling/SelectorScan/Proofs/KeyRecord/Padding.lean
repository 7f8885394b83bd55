import SelectorScan.Proofs.KeyRecord.Dictionary

/-!
# Restoring the padding of a key

Padding a text takes as few equals signs as bring it to a multiple of four characters, and none when
it is there (`padBase64_shortest`, `padBase64_padBase64`). On base 64 text this agrees with the
reader, which counts the characters that carry bits: a key that lost equals signs at its end and has
blanks in it is the written text again once it is parsed, and read back as its bytes; and no padding
makes a text readable that has one character over (`padding_exact`).

    squeeze t ++ replicate pads '=' = encode bytes →
      parseTags (keyName ++ '=' :: t) = [(keyName, encode bytes)]               (parseTags_key_cut)
-/

namespace SelectorScan.KeyRecord

open Text Key

/-! ## Padding -/

theorem padBase64_of_dvd {t : Text} (h : 4 ∣ t.length) : padBase64 t = t := by
  have none : (4 - t.length % 4) % 4 = 0 := by omega
  rw [padBase64, none, List.replicate_zero, List.append_nil]

/-- Padding a padded text changes nothing. -/
theorem padBase64_padBase64 (t : Text) : padBase64 (padBase64 t) = padBase64 t :=
  padBase64_of_dvd (dvd_length_padBase64 t)

/-- No fewer equals signs bring a text to a multiple of four characters. -/
theorem padBase64_shortest (t : Text) : ∃ k, padBase64 t = t ++ List.replicate k '=' ∧
    ∀ j, 4 ∣ (t ++ List.replicate j '=').length → k ≤ j := by
  refine ⟨(4 - t.length % 4) % 4, rfl, ?_⟩
  intro j h
  rw [List.length_append, List.length_replicate] at h
  omega

/-! ## Keys -/

/-- The tag of a key as it is spelled without any layout of its own. -/
def keySpelling (t : Text) : Spelling :=
  ⟨keyName, t, [], [], [], [], .plain⟩

/-- A text that is base 64 but for its blanks and the equals signs at its end is one value of a tag
list, from its first character to its last. -/
theorem legible_keySpelling {t : Text} {pads : Nat} {bytes : List UInt8}
    (h : squeeze t ++ List.replicate pads '=' = Base64.encode bytes) :
    (keySpelling t).Legible := by
  have missing : ∀ c, isBlank c = false → Base64.value? c = none → c ≠ '=' → c ∉ t := by
    intro c visible idle other hc
    apply Base64.not_mem_encode idle other bytes
    rw [← h]
    exact List.mem_append_left _ (List.mem_filter.2 ⟨hc, by rw [visible]; rfl⟩)
  have backslash : '\\' ∉ t := missing '\\' (by decide) (by decide) (by decide)
  have visible : ¬∀ c ∈ keyName, isBlank c = true := by
    rw [← List.all_eq_true]
    decide
  have plain : '=' ∉ keyName ∧ '\x22' ∉ keyName := by decide
  exact {
    named := visible
    noEquals := plain.1
    noSeparator := missing ';' (by decide) (by decide) (by decide)
    unescaped := fun last => backslash (List.mem_of_getLast? last)
    unquoted := ⟨plain.2, missing '\x22' (by decide) (by decide) (by decide)⟩
    layout := nofun }

/-- A key whose text is base 64, but for equals signs cut off its end and blanks put into it, is
parsed as that text, and nothing else is. -/
theorem parseTags_key_cut {t : Text} {pads : Nat} {bytes : List UInt8} (filled : bytes ≠ [])
    (h : squeeze t ++ List.replicate pads '=' = Base64.encode bytes) :
    parseTags (keyName ++ '=' :: t) = [(keyName, Base64.encode bytes)] := by
  have legible : ∀ s ∈ [keySpelling t], s.Legible := by
    intro s hs
    obtain rfl := List.mem_singleton.1 hs
    exact legible_keySpelling h
  have text : keyName ++ '=' :: t = spell false [keySpelling t] ++ [] := by
    simp [spell, keySpelling, Spelling.body]
  have whole : squeeze (strip t) ++ List.replicate pads '=' = Base64.encode bytes := by
    rw [squeeze_strip]
    exact h
  have blank : ∀ c ∈ ([] : Text), isBlank c = true := List.forall_mem_nil _
  rw [text, parseTags, joinStrings_eq_self (not_mem_spell legible blank),
    readTags_spell legible blank, foldl_set_eq_dictionary]
  have tags : dictionary ([keySpelling t].map Spelling.read) =
      table [keyName] fun _ => strip t := rfl
  have once : [keyName].Nodup := List.pairwise_singleton _ _
  rw [tags, restoreKey_table once, restored_of_append filled whole]
  rfl

/-- A text of base 64 characters that has one over in its last group of four is not decoded when it
is padded. -/
theorem decode?_padBase64_of_one_over {t : Text}
    (digits : ∀ c ∈ t, ∃ n, n < 64 ∧ c = Base64.digit n) (single : t.length % 4 = 1) :
    Base64.decode? (padBase64 t) = none := by
  have small : Base64.Group.empty.count < 4 := by decide
  have single' : (Base64.Group.empty.count + t.length) % 4 = 1 := by
    rw [Base64.Group.empty, Nat.zero_add]
    exact single
  unfold Base64.decode?
  split
  · exact Base64.decodeFrom_of_one_over digits small single' 0 _
  · rfl

/-- Padding is restored exactly. The base 64 text of some bytes, without some of the equals signs at
its end and with blanks anywhere in it, is the one tag of a record in full again, and decodes to the
bytes. Padding is done once for all, with as few equals signs as bring a text to a multiple of four
characters; and base 64 characters that are one more than such a multiple stay undecodable. -/
theorem padding_exact :
    (∀ (bytes : List UInt8) (t : Text) (pads : Nat), bytes ≠ [] →
      squeeze t ++ List.replicate pads '=' = Base64.encode bytes →
      parseTags ("p=".toList ++ t) = [("p".toList, Base64.encode bytes)] ∧
        Base64.decode? (Base64.encode bytes) = some bytes) ∧
    (∀ t : Text, padBase64 (padBase64 t) = padBase64 t ∧ 4 ∣ (padBase64 t).length ∧
      ∃ k, padBase64 t = t ++ List.replicate k '=' ∧
        ∀ j, 4 ∣ (t ++ List.replicate j '=').length → k ≤ j) ∧
    ∀ t : Text, (∀ c ∈ t, ∃ n, n < 64 ∧ c = Base64.digit n) → t.length % 4 = 1 →
      Base64.decode? (padBase64 t) = none := by
  refine ⟨?_, ?_, ?_⟩
  · intro bytes t pads filled h
    exact ⟨parseTags_key_cut filled h, Base64.decode?_encode bytes⟩
  · intro t
    exact ⟨padBase64_padBase64 t, dvd_length_padBase64 t, padBase64_shortest t⟩
  · intro t digits single
    exact decode?_padBase64_of_one_over digits single

/-- Four bytes whose text lost one of its two equals signs and has blanks on all sides, and a text
that lost a character. -/
theorem padding_exact_spaced :
    parseTags "p=\tQUJ DRA\n= ".toList = [("p".toList, "QUJDRA==".toList)] ∧
      Base64.decode? "QUJDRA==".toList = some [0x41, 0x42, 0x43, 0x44] ∧
      Base64.decode? (padBase64 "QUJDR".toList) = none := by
  obtain ⟨restored, -, undecodable⟩ := padding_exact
  have written : Base64.encode [0x41, 0x42, 0x43, 0x44] = "QUJDRA==".toList := by decide
  have cut : squeeze "\tQUJ DRA\n= ".toList ++ List.replicate 1 '=' =
      Base64.encode [0x41, 0x42, 0x43, 0x44] := by decide
  obtain ⟨parsed, read⟩ :=
    restored [0x41, 0x42, 0x43, 0x44] "\tQUJ DRA\n= ".toList 1 (by decide) cut
  rw [written] at parsed read
  refine ⟨parsed, read, undecodable "QUJDR".toList ?_ (by decide)⟩
  have digits : "QUJDR".toList = [16, 20, 9, 3, 17].map Base64.digit := by decide
  have small : ∀ n ∈ [16, 20, 9, 3, 17], n < 64 := by decide
  intro c hc
  rw [digits] at hc
  obtain ⟨n, hn, rfl⟩ := List.mem_map.1 hc
  exact ⟨n, small n hn, rfl⟩

end SelectorScan.KeyRecord
