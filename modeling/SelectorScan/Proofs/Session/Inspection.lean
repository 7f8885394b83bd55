import SelectorScan.Proofs.Session.Recovery

/-!
# Inspections that fail

The inspection of a record fails when its key has a modulus too long to be written, and only then.
Such a record bars those behind it: handling the response stops there, and what the later records
hold is not looked at. So the text records of a response are told from the left, by the first one
that bars or yields (`barred_cons`, `firstYields_cons`):

    (∃ e, (firstFinding …).1 = .error e) ↔ Barred …                (exists_firstFinding_eq_error_iff)
    (firstFinding …).1 = .ok (some f) ↔ FirstYields … f                    (firstFinding_eq_some_iff)

`handle_fails_iff_barred` says of every response when it is handled without failure.
-/

namespace SelectorScan.Session

open KeyRecord Key Dns

variable {name selector domain : Text} {listener : Option Listener}

/-! ## One record -/

/-- The key of the record has a modulus too long to be written. -/
def Bars (record : TextRecord) : Prop :=
  ∃ key, (parseTags record.value).get? keyName = some key ∧ Overlong key

theorem ne_nil_of_overlong {key : Text} (h : Overlong key) : key ≠ [] := by
  rintro rfl
  obtain ⟨bytes, k, decoded, read, -⟩ := h
  cases decoded
  have nothing : PublicKey.read? [] = none := by decide
  rw [nothing] at read
  cases read

/-- Examining a record fails when it bars. -/
theorem exists_examine_eq_error_iff {record : TextRecord} :
    (∃ e, examine name domain selector record = .error e) ↔ Bars record := by
  cases tag : (parseTags record.value).get? keyName with
  | none =>
    refine iff_of_false ?_ ?_
    · rintro ⟨e, h⟩
      simp only [examine, tag] at h
      cases h
    · rintro ⟨key, h, -⟩
      rw [tag] at h
      cases h
  | some key =>
    have bars : Bars record ↔ Overlong key := by
      simp only [Bars, tag, Option.some.injEq, exists_eq_left']
    rw [bars]
    by_cases filled : key = []
    · refine iff_of_false ?_ fun long => ne_nil_of_overlong long filled
      rintro ⟨e, h⟩
      simp only [examine, tag, filled] at h
      cases h
    · rw [examine_of_filled tag filled, ← @exists_inspect_eq_error_iff
        ⟨name, record.shown, domain, selector, (mode (parseTags record.value)).name⟩ key, inspect]
      generalize judge _ key = verdict
      cases verdict with
      | error e => exact iff_of_true ⟨e, rfl⟩ ⟨e, rfl⟩
      | ok v => exact iff_of_false (by rintro ⟨_, ⟨⟩⟩) (by rintro ⟨_, ⟨⟩⟩)

/-- A record bars, or it yields a finding, or neither. -/
theorem examine_cases (name selector domain : Text) (record : TextRecord) :
    (Bars record ∧ (∀ g, ¬Yields name selector domain record g) ∧
        ∃ e, examine name domain selector record = .error e) ∨
      (∃ f notes, Yields name selector domain record f ∧ ¬Bars record ∧
        examine name domain selector record = .ok (some f, notes)) ∨
      ((∀ g, ¬Yields name selector domain record g) ∧ ¬Bars record ∧
        ∃ notes, examine name domain selector record = .ok (none, notes)) := by
  cases hx : examine name domain selector record with
  | error e =>
    refine .inl ⟨exists_examine_eq_error_iff.1 ⟨e, hx⟩, ?_, e, rfl⟩
    intro g hg
    obtain ⟨notes, hx'⟩ := examine_eq_some_iff.2 hg
    rw [hx] at hx'
    cases hx'
  | ok result =>
    have passes : ¬Bars record := by
      intro bars
      obtain ⟨e, hx'⟩ := exists_examine_eq_error_iff.2 bars
      rw [hx] at hx'
      cases hx'
    obtain ⟨finding, notes⟩ := result
    cases finding with
    | some f => exact .inr (.inl ⟨f, notes, examine_eq_some_iff.1 ⟨notes, hx⟩, passes, rfl⟩)
    | none =>
      refine .inr (.inr ⟨?_, passes, notes, rfl⟩)
      intro g hg
      obtain ⟨notes', hx'⟩ := examine_eq_some_iff.2 hg
      rw [hx] at hx'
      cases hx'

/-! ## Many records -/

/-- A record bars those behind it, and none before it yields a finding. -/
def Barred (name selector domain : Text) (records : List TextRecord) : Prop :=
  ∃ front record back, records = front ++ record :: back ∧ Bars record ∧
    ∀ earlier ∈ front, ∀ g, ¬Yields name selector domain earlier g

/-- A record yields the finding, and none before it bars or yields another. -/
def FirstYields (name selector domain : Text) (records : List TextRecord) (f : Finding) : Prop :=
  ∃ front record back, records = front ++ record :: back ∧ Yields name selector domain record f ∧
    ∀ earlier ∈ front, ¬Bars earlier ∧ ∀ g, ¬Yields name selector domain earlier g

/-- The first record of some with a property, when those before it have another one. -/
theorem exists_first_cons_iff {α : Type} {P Q : α → Prop} {a : α} {l : List α} :
    (∃ front x back, a :: l = front ++ x :: back ∧ P x ∧ ∀ y ∈ front, Q y) ↔
      P a ∨ Q a ∧ ∃ front x back, l = front ++ x :: back ∧ P x ∧ ∀ y ∈ front, Q y := by
  constructor
  · rintro ⟨front, x, back, split, hx, before⟩
    cases front with
    | nil =>
      cases split
      exact .inl hx
    | cons b front =>
      cases split
      exact .inr ⟨before a List.mem_cons_self, front, x, back, rfl, hx,
        fun y hy => before y (List.mem_cons_of_mem _ hy)⟩
  · rintro (ha | ⟨ha, front, x, back, rfl, hx, before⟩)
    · exact ⟨[], a, l, rfl, ha, nofun⟩
    · exact ⟨a :: front, x, back, rfl, hx, List.forall_mem_cons.2 ⟨ha, before⟩⟩

theorem barred_cons {record : TextRecord} {rest : List TextRecord} :
    Barred name selector domain (record :: rest) ↔
      Bars record ∨ (∀ g, ¬Yields name selector domain record g) ∧
        Barred name selector domain rest :=
  exists_first_cons_iff

theorem not_barred_cons {record : TextRecord} {f : Finding} (passes : ¬Bars record)
    (yields : Yields name selector domain record f) (rest : List TextRecord) :
    ¬Barred name selector domain (record :: rest) := by
  rw [barred_cons]
  rintro (bars | ⟨barren, -⟩)
  · exact passes bars
  · exact barren f yields

theorem firstYields_cons {record : TextRecord} {rest : List TextRecord} {f : Finding} :
    FirstYields name selector domain (record :: rest) f ↔
      Yields name selector domain record f ∨
        (¬Bars record ∧ ∀ g, ¬Yields name selector domain record g) ∧
          FirstYields name selector domain rest f :=
  exists_first_cons_iff

/-- Going through records fails when one of them bars the others. -/
theorem exists_firstFinding_eq_error_iff {records : List TextRecord} :
    (∃ e, (firstFinding name domain selector records).1 = .error e) ↔
      Barred name selector domain records := by
  induction records with
  | nil =>
    refine iff_of_false (by rintro ⟨_, ⟨⟩⟩) ?_
    rintro ⟨front, record, back, split, -⟩
    cases front <;> cases split
  | cons record rest ih =>
    rcases examine_cases name selector domain record with ⟨bars, -, e, hx⟩ |
      ⟨f, notes, yields, passes, hx⟩ | ⟨barren, passes, notes, hx⟩
    · rw [firstFinding, hx]
      exact iff_of_true ⟨e, rfl⟩ (barred_cons.2 (.inl bars))
    · rw [firstFinding, hx]
      exact iff_of_false (by rintro ⟨_, ⟨⟩⟩) (not_barred_cons passes yields rest)
    · rw [firstFinding, hx, barred_cons, or_iff_right passes, and_iff_right barren, ← ih]

/-- Going through records finds what the first of them yields, unless it is barred. -/
theorem firstFinding_eq_some_iff {records : List TextRecord} {f : Finding} :
    (firstFinding name domain selector records).1 = .ok (some f) ↔
      FirstYields name selector domain records f := by
  induction records with
  | nil =>
    refine iff_of_false (by rintro ⟨⟩) ?_
    rintro ⟨front, record, back, split, -⟩
    cases front <;> cases split
  | cons record rest ih =>
    rw [firstYields_cons]
    rcases examine_cases name selector domain record with ⟨bars, barren, e, hx⟩ |
      ⟨g, notes, yields, passes, hx⟩ | ⟨barren, passes, notes, hx⟩
    · rw [firstFinding, hx]
      refine iff_of_false (by rintro ⟨⟩) ?_
      rintro (yields | ⟨⟨passes, -⟩, -⟩)
      · exact barren f yields
      · exact passes bars
    · rw [firstFinding, hx]
      constructor
      · rintro ⟨⟩
        exact .inl yields
      · rintro (yields' | ⟨⟨-, barren⟩, -⟩)
        · obtain ⟨notes', hx'⟩ := examine_eq_some_iff.2 yields'
          rw [hx] at hx'
          cases hx'
          rfl
        · exact absurd yields (barren g)
    · rw [firstFinding, hx, or_iff_right (barren f), and_iff_right ⟨passes, barren⟩, ← ih]

/-! ## Records that publish a key plainly -/

theorem value_ofText (t : Text) : (TextRecord.ofText t).value = t := by
  rw [TextRecord.value, TextRecord.ofText, TextRecord.flatten_cut, Text.Utf8.decodeLossy_encode]

/-- The record that publishes an encoding with nothing but the key tag. -/
def plainRecord (bytes : List UInt8) : TextRecord :=
  .ofText ("p=".toList ++ Base64.encode bytes)

theorem legible_plain (bytes : List UInt8) :
    Spelling.Legible ⟨keyName, Base64.encode bytes, [], [], [], [], .plain⟩ where
  named := by
    intro blank
    have solid : Text.isBlank 'p' = false := by decide
    rw [blank 'p' List.mem_cons_self] at solid
    cases solid
  noEquals := by
    show '=' ∉ keyName
    decide
  noSeparator := Base64.not_mem_encode (by decide) (by decide) bytes
  unescaped := fun escaped =>
    Base64.not_mem_encode (by decide) (by decide) bytes (List.mem_of_getLast? escaped)
  unquoted := by
    refine ⟨?_, Base64.not_mem_encode (by decide) (by decide) bytes⟩
    show '\x22' ∉ keyName
    decide
  layout := nofun

theorem get?_key_plainRecord {bytes : List UInt8} (filled : bytes ≠ []) :
    (parseTags (plainRecord bytes).value).get? keyName = some (Base64.encode bytes) := by
  have text : (plainRecord bytes).value =
      spell false ([] ++ ⟨keyName, Base64.encode bytes, [], [], [], [], .plain⟩ :: []) ++ [] := by
    rw [plainRecord, value_ofText]
    simp [spell, Spelling.body, keyName]
  have key : Text.strip keyName = keyName := by decide
  have value : Text.squeeze (Base64.encode bytes) ++ List.replicate 0 '=' =
      Base64.encode bytes := by
    rw [squeeze_encode, List.replicate_zero, List.append_nil]
  rw [text]
  refine get?_key_of_written filled (fun s hs => ?_) (List.forall_mem_nil _) key
    (List.forall_mem_nil _) value
  rw [List.mem_singleton.1 hs]
  exact legible_plain bytes

/-- A sound key of 16384 bits, whose modulus has 4933 decimal digits. -/
def longKey : PublicKey := ⟨2 ^ 16384 - 1, 65537⟩

theorem overlong_longKey : Overlong (Base64.encode longKey.encode) := by
  have modulus : (Der.toBytes longKey.modulus).length ≤ 2048 :=
    Der.length_toBytes_le (by decide +kernel)
  have exponent : (Der.toBytes longKey.exponent).length ≤ 2048 :=
    Der.length_toBytes_le (by decide +kernel)
  have compact : longKey.Compact := ⟨by omega, by omega⟩
  exact ⟨_, longKey, Base64.decode?_encode _,
    PublicKey.read?_of_encoding compact (by decide +kernel) (.inl rfl), by decide +kernel⟩

theorem bars_longKey : Bars (plainRecord longKey.encode) :=
  ⟨_, get?_key_plainRecord (List.cons_ne_nil _ _), overlong_longKey⟩

/-- The record that publishes the key with the modulus 35 and the exponent 5. -/
def smallRecord : TextRecord :=
  plainRecord (PublicKey.writeBare ⟨35, 5⟩)

theorem yields_smallRecord (name selector domain : Text) :
    ¬Bars smallRecord ∧ ∃ f, Yields name selector domain smallRecord f := by
  have filled : PublicKey.writeBare ⟨35, 5⟩ ≠ [] := List.cons_ne_nil _ _
  have digits : 35 < 10 ^ Number.maxDigits := lt_of_length_ofNat_le (by decide)
  have examined := @examine_of_key name selector domain smallRecord ⟨35, 5⟩ (by decide) (by decide)
    digits _ (.inr rfl) (get?_key_plainRecord filled)
  refine ⟨?_, _, examine_eq_some_iff.1 ⟨[], examined⟩⟩
  intro bars
  obtain ⟨e, failed⟩ := exists_examine_eq_error_iff.2 bars
  rw [examined] at failed
  cases failed

/-! ## Responses -/

theorem findingsIn_eq_singleton_iff {records : List TextRecord} {f : Finding} :
    findingsIn name selector domain records = [f] ↔ FirstYields name selector domain records f := by
  rw [← firstFinding_eq_some_iff, findingsIn]
  split
  · next g hr => rw [hr, List.singleton_inj, Except.ok.injEq, Option.some.injEq]
  · next other => exact iff_of_false (by rintro ⟨⟩) (other f)

/-- With a listener that takes every finding, settling fails when the records are barred. -/
theorem settle_failure_ne_none_iff (quiet : ∀ l ∈ listener, ∀ f, l f = none) {s : Session}
    {records : List TextRecord} :
    (s.settle listener name selector domain records).failure ≠ none ↔
      Barred name selector domain records := by
  rw [← exists_firstFinding_eq_error_iff, settle]
  cases firstFinding name domain selector records with
  | mk result notes =>
    cases result with
    | error e => exact iff_of_true (Option.some_ne_none _) ⟨e, rfl⟩
    | ok finding =>
      refine iff_of_false (not_not_intro ?_) (by rintro ⟨_, ⟨⟩⟩)
      cases finding with
      | none => rfl
      | some f =>
        cases listener with
        | none => rfl
        | some l => simp only [add, quiet l rfl f, Option.map_none]

/-- The response is about a selector that is new to the session, and has these text records. -/
def Settles (s : Session) (response : Option Response) (name selector domain : Text)
    (records : List TextRecord) : Prop :=
  ∃ r question, response = some r ∧ r.code ≠ Response.noSuchName ∧ r.question = some question ∧
    question.toText = name ∧ Text.CutFirst marker name selector domain ∧ selector ∉ s.found ∧
    r.textRecords = records

theorem Settles.handle_eq {s : Session} {response : Option Response} {records : List TextRecord}
    (h : s.Settles response name selector domain records) (listener : Option Listener) :
    s.handle listener response = s.settle listener name selector domain records := by
  obtain ⟨r, question, rfl, code, asked, rfl, cut, fresh, rfl⟩ := h
  simp only [handle, if_neg code, asked, splitName, Text.breakOn_eq_some_iff.2 cut,
    List.contains_iff_mem, if_neg fresh]

/-- A response changes nothing, or it settles a selector. -/
theorem handle_cases (listener : Option Listener) (s : Session) (response : Option Response) :
    (∃ notes, s.handle listener response = s.unchanged notes) ∨
      ∃ name selector domain records, s.Settles response name selector domain records := by
  by_cases idle : s.Idle response
  · exact .inl (handle_of_idle listener idle)
  · obtain ⟨r, question, selector, domain, rfl, asked, cut, fresh, -⟩ :=
      settles_of_not_idle listener idle
    exact .inr ⟨_, selector, domain, _, r, question, rfl, fun code => idle (.inl code), asked, rfl,
      cut, fresh, rfl⟩

/-- What does not happen when nothing changes happens when a selector is settled with it. -/
theorem handle_iff_settles {s : Session} {response : Option Response} (P : Outcome → Prop)
    (busy : ∀ notes, ¬P (s.unchanged notes)) (listener : Option Listener) :
    P (s.handle listener response) ↔ ∃ name selector domain records,
      s.Settles response name selector domain records ∧
        P (s.settle listener name selector domain records) := by
  constructor
  · intro h
    rcases handle_cases listener s response with ⟨notes, same⟩ | ⟨_, _, _, _, settles⟩
    · rw [same] at h
      exact absurd h (busy notes)
    · rw [settles.handle_eq] at h
      exact ⟨_, _, _, _, settles, h⟩
  · rintro ⟨_, _, _, _, settles, h⟩
    rw [settles.handle_eq]
    exact h

/-- A response about a selector of the domain `d`, with these records. -/
def responseOf (selector : String) (code : String) (records : List TextRecord) : Response where
  question := some ⟨[selector, "_domainkey", "d"].map fun l => Text.Utf8.encode l.toList⟩
  code := code
  answer := if records.isEmpty then [] else [.texts records]

theorem textRecords_responseOf (selector code : String) (records : List TextRecord) :
    (responseOf selector code records).textRecords = records := by
  cases records with
  | nil => rfl
  | cons record rest => exact List.append_nil _

theorem settles_responseOf (records : List TextRecord) :
    empty.Settles (some (responseOf "a" Response.noError records)) "a._domainkey.d".toList ['a'] ['d']
      records := by
  have code : Response.noError ≠ Response.noSuchName := by decide
  exact ⟨_, _, rfl, code, rfl, by decide, Text.breakOn_eq_some_iff.1 (by decide), nofun,
    textRecords_responseOf _ _ records⟩

/-- An inspection fails exactly when the modulus is too long to be written. So, with a listener that
takes every finding, a response fails exactly when it settles a selector and one of its records bars
the others; and it adds a finding exactly when the first record that bars or yields does yield it. -/
theorem handle_fails_iff_barred (quiet : ∀ l ∈ listener, ∀ f, l f = none) :
    (∀ source key, (∃ found, inspect source key = .ok found) ↔ ¬Overlong key) ∧
    ∀ (s : Session) (response : Option Response),
      ((s.handle listener response).failure ≠ none ↔ ∃ name selector domain records,
        s.Settles response name selector domain records ∧ Barred name selector domain records) ∧
      ∀ f, (s.handle listener response).session.findings = s.findings ++ [f] ↔
        ∃ name selector domain records, s.Settles response name selector domain records ∧
          FirstYields name selector domain records f := by
  refine ⟨?_, ?_⟩
  · intro source key
    rw [← @exists_inspect_eq_error_iff source key]
    cases inspect source key with
    | error e => exact iff_of_false (by rintro ⟨_, ⟨⟩⟩) (not_not_intro ⟨e, rfl⟩)
    | ok found => exact iff_of_true ⟨found, rfl⟩ (by rintro ⟨_, ⟨⟩⟩)
  · intro s response
    constructor
    · rw [handle_iff_settles (fun outcome => outcome.failure ≠ none) fun _ h => h rfl]
      simp only [settle_failure_ne_none_iff quiet]
    · intro f
      have busy : ∀ notes, (s.unchanged notes).session.findings ≠ s.findings ++ [f] :=
        fun _ h => List.cons_ne_nil f [] (List.self_eq_append_right.1 h)
      rw [handle_iff_settles (fun outcome => outcome.session.findings = s.findings ++ [f]) busy]
      simp only [settle_session, List.append_cancel_left_eq, findingsIn_eq_singleton_iff]

/-- Behind a usable key the long one does no harm: to a listener that takes every finding, the
response adds the finding of the first record, without failure. -/
theorem handle_fails_iff_barred_behind :
    let takes : Listener := fun _ => none
    let outcome := empty.handle (some takes)
      (some (responseOf "a" Response.noError [smallRecord, plainRecord longKey.encode]))
    outcome.failure = none ∧ ∃ f, outcome.session.findings = [f] ∧
      Yields "a._domainkey.d".toList ['a'] ['d'] smallRecord f := by
  intro takes outcome
  have quiet : ∀ l ∈ some takes, ∀ f, l f = none := by
    rintro l ⟨⟩ f
    rfl
  obtain ⟨fails, finds⟩ := (handle_fails_iff_barred quiet).2 empty
    (some (responseOf "a" Response.noError [smallRecord, plainRecord longKey.encode]))
  constructor
  · apply Classical.byContradiction
    intro failed
    obtain ⟨name, selector, domain, _, settles, barred⟩ := fails.1 failed
    obtain ⟨r, question, ⟨⟩, -, -, -, -, -, rfl⟩ := settles
    rw [textRecords_responseOf] at barred
    obtain ⟨passes, f, hf⟩ := yields_smallRecord name selector domain
    exact not_barred_cons passes hf _ barred
  · obtain ⟨-, f, hf⟩ := yields_smallRecord "a._domainkey.d".toList ['a'] ['d']
    exact ⟨f, (finds f).2 ⟨_, _, _, _, settles_responseOf _, firstYields_cons.2 (.inl hf)⟩, hf⟩

/-- The inspection of the long key fails, and a response in which it stands before a usable key
fails and finds nothing. -/
theorem long_key_hides_next :
    inspect ⟨[], [], [], [], []⟩ (Base64.encode longKey.encode) = .error .tooManyDigits ∧
      (∃ f, Yields "a._domainkey.d".toList ['a'] ['d'] smallRecord f) ∧
      let outcome := empty.handle none
        (some (responseOf "a" Response.noError [plainRecord longKey.encode, smallRecord]))
      outcome.failure ≠ none ∧ outcome.session.findings = [] := by
  obtain ⟨e, failed⟩ :=
    (@exists_inspect_eq_error_iff ⟨[], [], [], [], []⟩ _).2 overlong_longKey
  cases e
  refine ⟨failed, (yields_smallRecord _ _ _).2, ?_⟩
  have barred : Barred "a._domainkey.d".toList ['a'] ['d']
      [plainRecord longKey.encode, smallRecord] :=
    barred_cons.2 (.inl bars_longKey)
  rw [(settles_responseOf _).handle_eq]
  refine ⟨(settle_failure_ne_none_iff (by rintro l ⟨⟩)).2 barred, ?_⟩
  obtain ⟨e, failed⟩ := exists_firstFinding_eq_error_iff.2 barred
  rw [settle_session, findingsIn, failed]
  rfl

end SelectorScan.Session
