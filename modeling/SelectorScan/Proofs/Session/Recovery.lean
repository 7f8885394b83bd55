import SelectorScan.Proofs.Key.Finding
import SelectorScan.Proofs.KeyRecord.Spelling
import SelectorScan.Proofs.Session.Findings

/-!
# A published key is recovered

A key is published by encoding it, writing the encoding in base 64, spelling a tag list around that
text, and cutting the bytes of the list into character strings. Each of these steps is undone when a
response with the record is handled, so the key is found:

    s.handle listener (some r) = ⟨⟨selector :: s.found, s.findings ++ [f]⟩, [], …⟩
                                                                             (published_key_found)
-/

namespace SelectorScan.Session

open KeyRecord Key Dns

/-- A record whose only key tag holds the base 64 text of some bytes, but for equals signs cut off
its end and blanks put into it, has that text as its key. -/
theorem get?_key_of_written {bytes : List UInt8} (filled : bytes ≠ []) {front back : List Spelling}
    {tag : Spelling} {closed : Bool} (legible : ∀ s ∈ front ++ tag :: back, s.Legible)
    {tail : Text} (blank : ∀ c ∈ tail, Text.isBlank c = true) (key : Text.strip tag.name = keyName)
    (only : ∀ s ∈ front ++ back, Text.strip s.name ≠ keyName) {pads : Nat}
    (value : Text.squeeze tag.value ++ List.replicate pads '=' = Base64.encode bytes) :
    (parseTags (spell closed (front ++ tag :: back) ++ tail)).get? keyName =
      some (Base64.encode bytes) := by
  have last : lastValue? keyName (front ++ tag :: back) = some (Text.strip tag.value) := by
    rw [← key] at only ⊢
    exact lastValue?_of_only only
  have value' : Text.squeeze (Text.strip tag.value) ++ List.replicate pads '=' =
      Base64.encode bytes := by
    rw [Text.squeeze_strip]
    exact value
  rw [get?_parseTags_spell legible blank, last, if_pos rfl, Option.map_some,
    restored_of_append filled value']

/-- A key is found in a record that publishes it: a sound key whose modulus has at most 4300 digits,
encoded in either form, in base 64 without some of the equals signs at its end and with blanks
anywhere in it, as the only key tag of a list spelled in any way, with blanks at its end or without,
cut into character strings anywhere, as the first text record of a response about a new selector.
The finding names the place, the key and its numbers; it is added and handed to the listener, and
nothing else is. -/
theorem published_key_found {k : PublicKey} (three : 3 ≤ k.exponent)
    (smaller : k.exponent < k.modulus) (odd : k.exponent % 2 = 1)
    (digits : (Text.ofNat k.modulus).length ≤ 4300) {bytes : List UInt8}
    (encoded : bytes = k.encode ∨ bytes = k.writeBare) {front back : List Spelling}
    {tag : Spelling} {closed : Bool} (legible : ∀ s ∈ front ++ tag :: back, s.Legible)
    {tail : Text} (blank : ∀ c ∈ tail, Text.isBlank c = true) (key : Text.strip tag.name = keyName)
    (only : ∀ s ∈ front ++ back, Text.strip s.name ≠ keyName) {pads : Nat}
    (value : Text.squeeze tag.value ++ List.replicate pads '=' = Base64.encode bytes)
    {record : TextRecord}
    (written : record.flatten = Text.Utf8.encode (spell closed (front ++ tag :: back) ++ tail))
    {r : Response} (code : r.code ≠ Response.noSuchName) {question : Name}
    (asked : r.question = some question) {selector domain : Text}
    (cut : Text.CutFirst marker question.toText selector domain) {rest : List TextRecord}
    (first : r.textRecords = record :: rest) {s : Session} (fresh : selector ∉ s.found)
    (listener : Option Listener) :
    let f := findingOf ⟨question.toText, record.shown, domain, selector,
      (modeOf (front ++ tag :: back)).name⟩ bytes k
    s.handle listener (some r) =
        ⟨⟨selector :: s.found, s.findings ++ [f]⟩, [], listener.map fun _ => f,
          listener.bind fun l => (l f).map .listener⟩ ∧
      f.bits % 8 = 0 ∧ 256 ^ (f.bits / 8 - 1) ≤ k.modulus ∧ k.modulus < 256 ^ (f.bits / 8) := by
  have decimals := lt_of_length_ofNat_le digits
  have filled : bytes ≠ [] := by
    rcases encoded with rfl | rfl <;> exact List.cons_ne_nil _ _
  have text : record.value = spell closed (front ++ tag :: back) ++ tail := by
    rw [TextRecord.value, written, Text.Utf8.decodeLossy_encode]
  have found : firstFinding question.toText domain selector r.textRecords =
      (.ok (some (findingOf ⟨question.toText, record.shown, domain, selector,
        (modeOf (front ++ tag :: back)).name⟩ bytes k)), []) := by
    rw [first, firstFinding, examine_of_key (PublicKey.isSound_of three smaller odd) smaller
      decimals encoded, text, mode_parseTags_spell legible blank]
    rw [text]
    exact get?_key_of_written filled legible blank key only value
  exact ⟨handle_of_firstFinding listener code asked cut fresh found,
    PublicKey.bits_bounds (by omega)⟩

/-- Tags with blanks, an escaped separator and letters of two bytes around a key that is spaced and
has lost its padding. -/
def laidOut : List Spelling × Spelling × List Spelling :=
  ([⟨"v".toList, "DKIM1".toList, [], [' '], [' '], [], .plain⟩,
      ⟨"né".toList, "é".toList, ['\n'], [], [], ['\t'], .escaped⟩],
    ⟨"p".toList, "MAYC ASMC\tAQU".toList, [' '], [], [], [], .plain⟩,
    [⟨"t".toList, "Y".toList, [], [], [], [' '], .plain⟩])

/-- The bytes of the tags, with a line feed at the end, in three strings, the first of which ends
inside a letter. -/
def laidOutRecord : TextRecord :=
  let bytes := Text.Utf8.encode (spell true (laidOut.1 ++ laidOut.2.1 :: laidOut.2.2) ++ ['\n'])
  [bytes.take 12, [], bytes.drop 12]

/-- The key with the modulus 35 and the exponent 5 is found in that record of the selector `a` of
the domain `d`, although its listener refuses it. -/
theorem published_key_found_laid_out :
    let source : Source := ⟨"a._domainkey.d".toList, laidOutRecord.shown, ['d'], ['a'],
      "TEST".toList⟩
    let f := findingOf source (PublicKey.writeBare ⟨35, 5⟩) ⟨35, 5⟩
    let r : Response := ⟨some ⟨["a", "_domainkey", "d"].map fun l => Text.Utf8.encode l.toList⟩,
      Response.noError, [.other, .texts [laidOutRecord, .ofText "p=".toList]]⟩
    empty.handle (some refusing) (some r) =
      ⟨⟨[['a']], [f]⟩, [], some f, some (.listener "full")⟩ := by
  have legible : ∀ s ∈ laidOut.1 ++ laidOut.2.1 :: laidOut.2.2, s.Legible := by
    intro s hs
    simp only [laidOut, List.cons_append, List.nil_append, List.mem_cons, List.not_mem_nil,
      or_false] at hs
    rcases hs with rfl | rfl | rfl | rfl <;>
      exact ⟨by rw [← List.all_eq_true]; decide, by decide, by decide, by decide, by decide,
        by rw [← List.all_eq_true]; decide⟩
  have value : Text.squeeze laidOut.2.1.value ++ List.replicate 1 '=' =
      Base64.encode (PublicKey.writeBare ⟨35, 5⟩) := by decide +kernel
  have written : laidOutRecord.flatten =
      Text.Utf8.encode (spell true (laidOut.1 ++ laidOut.2.1 :: laidOut.2.2) ++ ['\n']) := by
    simp only [laidOutRecord, List.flatten_cons, List.flatten_nil, List.nil_append,
      List.append_nil, List.take_append_drop]
  have cut : Text.CutFirst marker "a._domainkey.d".toList ['a'] ['d'] :=
    Text.breakOn_eq_some_iff.1 (by decide)
  have mode : modeOf (laidOut.1 ++ laidOut.2.1 :: laidOut.2.2) = .test := by decide
  have blank : ∀ c ∈ ['\n'], Text.isBlank c = true := List.forall_mem_singleton.2 rfl
  intro source f r
  have recovered := published_key_found (k := ⟨35, 5⟩) (r := r) (s := empty) (by decide)
    (by decide) (by decide) (by decide) (.inr rfl) legible blank (by decide) (by decide) value
    written (by decide) rfl cut rfl (by decide) (some refusing)
  rw [mode] at recovered
  exact recovered.1

end SelectorScan.Session
