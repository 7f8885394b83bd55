import SelectorScan.Proofs.Key.Finding
import SelectorScan.Proofs.Session.Order

/-!
# The findings of a session

A response settles at most one selector, and only a new one; of its text records the first that
holds a usable key makes a finding about that selector (`firstFinding_cases`). So however responses
follow one another, and whatever fails on the way, every selector has at most one finding, and the
listener has been handed all findings in order (`Led.tidy`). What one more response does is told by
the response and the selectors already found:

    (s.handle listener response).session = s ↔ s.Idle response          (handle_session_eq_iff)

`findings_of_responses` puts both together.
-/

namespace SelectorScan.Session

open KeyRecord Key Dns

variable {name selector domain : Text} {listener : Option Listener}

/-! ## What a record holds -/

/-- The record has a key tag that is not empty, and its inspection makes the finding. -/
def Yields (name selector domain : Text) (record : TextRecord) (f : Finding) : Prop :=
  ∃ key, (parseTags record.value).get? keyName = some key ∧ key ≠ [] ∧
    inspect ⟨name, record.shown, domain, selector, (mode (parseTags record.value)).name⟩ key =
      .ok (some f)

theorem Yields.source {record : TextRecord} {f : Finding}
    (h : Yields name selector domain record f) :
    f.source.name = name ∧ f.source.domain = domain ∧ f.source.selector = selector := by
  obtain ⟨key, -, -, hi⟩ := h
  rw [source_of_inspect hi]
  exact ⟨rfl, rfl, rfl⟩

/-- A key that is not empty is judged. -/
theorem examine_of_filled {record : TextRecord} {key : Text}
    (tag : (parseTags record.value).get? keyName = some key) (filled : key ≠ []) :
    examine name domain selector record =
      (judge ⟨name, record.shown, domain, selector, (mode (parseTags record.value)).name⟩ key).map
        fun verdict => (verdict.finding?, verdict.notes name) := by
  have kept : key.isEmpty = false := List.isEmpty_eq_false_iff.2 filled
  simp only [examine, tag, Option.getD_some, kept, Bool.false_eq_true, if_false]

/-- Examining a record makes a finding when the record yields it. -/
theorem examine_eq_some_iff {record : TextRecord} {f : Finding} :
    (∃ notes, examine name domain selector record = .ok (some f, notes)) ↔
      Yields name selector domain record f := by
  constructor
  · rintro ⟨notes, h⟩
    cases tag : (parseTags record.value).get? keyName with
    | none =>
      simp only [examine, tag] at h
      cases h
    | some key =>
      by_cases filled : key = []
      · simp only [examine, tag, filled] at h
        cases h
      · refine ⟨key, tag, filled, ?_⟩
        rw [examine_of_filled tag filled] at h
        unfold inspect
        generalize judge _ key = verdict at h ⊢
        cases verdict with
        | error e => cases h
        | ok v =>
          simp only [Except.map, Except.ok.injEq, Prod.mk.injEq] at h ⊢
          exact h.1
  · rintro ⟨key, tag, filled, hi⟩
    rw [examine_of_filled tag filled]
    unfold inspect at hi
    generalize judge _ key = verdict at hi ⊢
    cases verdict with
    | error e => cases hi
    | ok v =>
      simp only [Except.map, Except.ok.injEq] at hi ⊢
      exact ⟨v.notes name, by rw [hi]⟩

/-- A record whose key is the base 64 text of an encoded sound key makes the finding about it. -/
theorem examine_of_key {record : TextRecord} {k : PublicKey} (sound : k.isSound = true)
    (smaller : k.exponent < k.modulus) (digits : k.modulus < 10 ^ Number.maxDigits)
    {bytes : List UInt8} (encoded : bytes = k.encode ∨ bytes = k.writeBare)
    (key : (parseTags record.value).get? keyName = some (Base64.encode bytes)) :
    examine name domain selector record =
      .ok (some (findingOf ⟨name, record.shown, domain, selector,
        (mode (parseTags record.value)).name⟩ bytes k), []) := by
  have filled : bytes ≠ [] := by
    rcases encoded with rfl | rfl <;> exact List.cons_ne_nil _ _
  rw [examine_of_filled key (Base64.encode_ne_nil filled), judge_encode sound smaller digits encoded]
  rfl

/-- The finding of some records: that of the first record that yields one; it may be missing only
when no record yields any, or when an inspection fails before. -/
theorem firstFinding_cases (name selector domain : Text) (records : List TextRecord) :
    (∃ e, (firstFinding name domain selector records).1 = .error e) ∨
      ((firstFinding name domain selector records).1 = .ok none ∧
        ∀ record ∈ records, ∀ f, ¬Yields name selector domain record f) ∨
      ∃ f front record back, (firstFinding name domain selector records).1 = .ok (some f) ∧
        records = front ++ record :: back ∧ Yields name selector domain record f ∧
        ∀ earlier ∈ front, ∀ g, ¬Yields name selector domain earlier g := by
  induction records with
  | nil => exact .inr (.inl ⟨rfl, by simp⟩)
  | cons record rest ih =>
    cases hx : examine name domain selector record with
    | error e =>
      refine .inl ⟨e, ?_⟩
      rw [firstFinding, hx]
    | ok result =>
      obtain ⟨finding, notes⟩ := result
      cases finding with
      | some f =>
        refine .inr (.inr ⟨f, [], record, rest, ?_, rfl,
          examine_eq_some_iff.1 ⟨notes, hx⟩, by simp⟩)
        rw [firstFinding, hx]
      | none =>
        have barren : ∀ f, ¬Yields name selector domain record f := by
          intro f hf
          obtain ⟨notes', hx'⟩ := examine_eq_some_iff.2 hf
          rw [hx] at hx'
          cases hx'
        have later : (firstFinding name domain selector (record :: rest)).1 =
            (firstFinding name domain selector rest).1 := by
          rw [firstFinding, hx]
        rw [later]
        rcases ih with failed | ⟨nothing, none'⟩ | ⟨f, front, first, back, found, split, yields, none'⟩
        · exact .inl failed
        · refine .inr (.inl ⟨nothing, ?_⟩)
          intro r hr
          rcases List.mem_cons.1 hr with rfl | hr
          · exact barren
          · exact none' r hr
        · refine .inr (.inr ⟨f, record :: front, first, back, found, by rw [split]; rfl, yields, ?_⟩)
          intro r hr
          rcases List.mem_cons.1 hr with rfl | hr
          · exact barren
          · exact none' r hr

/-! ## One response -/

/-- The response says nothing about a selector, or about one that has been found. -/
def Idle (s : Session) : Option Response → Prop
  | none => True
  | some r =>
    r.code = Response.noSuchName ∨ r.question = none ∨
      ∃ question, r.question = some question ∧
        (¬marker <:+: question.toText ∨
          ∃ selector domain, Text.CutFirst marker question.toText selector domain ∧
            selector ∈ s.found)

/-- A response that is not idle settles a new selector. -/
theorem settles_of_not_idle (listener : Option Listener) {s : Session}
    {response : Option Response} (h : ¬s.Idle response) :
    ∃ r question selector domain, response = some r ∧ r.question = some question ∧
      Text.CutFirst marker question.toText selector domain ∧ selector ∉ s.found ∧
      s.handle listener response =
        s.settle listener question.toText selector domain r.textRecords := by
  cases response with
  | none => exact absurd trivial h
  | some r =>
    simp only [Idle, not_or] at h
    obtain ⟨hc, hq, hn⟩ := h
    cases hquestion : r.question with
    | none => exact absurd hquestion hq
    | some question =>
      cases hsplit : splitName question.toText with
      | none =>
        exact absurd ⟨question, hquestion, .inl (Text.breakOn_eq_none_iff.1 hsplit)⟩ hn
      | some parts =>
        obtain ⟨selector, domain⟩ := parts
        have cut := Text.breakOn_eq_some_iff.1 hsplit
        have fresh : selector ∉ s.found := fun hin =>
          hn ⟨question, hquestion, .inr ⟨selector, domain, cut, hin⟩⟩
        refine ⟨r, question, selector, domain, rfl, hquestion, cut, fresh, ?_⟩
        simp only [handle, if_neg hc, hquestion, hsplit, List.contains_iff_mem, if_neg fresh]

/-- An idle response leaves the session as it is, and the listener alone. -/
theorem handle_of_idle (listener : Option Listener) {s : Session} {response : Option Response}
    (h : s.Idle response) :
    ∃ notes, s.handle listener response = s.unchanged notes := by
  cases response with
  | none => exact ⟨[], rfl⟩
  | some r =>
    by_cases hc : r.code = Response.noSuchName
    · exact ⟨[], by simp only [handle, if_pos hc]⟩
    · rcases h with hc' | hq | ⟨question, hq, hm⟩
      · exact absurd hc' hc
      · simp only [handle, if_neg hc, hq]
        exact ⟨_, rfl⟩
      · simp only [handle, if_neg hc, hq]
        rcases hm with hm | ⟨selector, domain, cut, hin⟩
        · have hs : splitName question.toText = none := Text.breakOn_eq_none_iff.2 hm
          rw [hs]
          exact ⟨_, rfl⟩
        · have hs : splitName question.toText = some (selector, domain) :=
            Text.breakOn_eq_some_iff.2 cut
          rw [hs]
          exact ⟨[], by simp only [List.contains_iff_mem, if_pos hin]⟩

/-- A response with a finding about a new selector settles the selector with that finding. -/
theorem handle_of_firstFinding {s : Session} {r : Response} {question : Name} {f : Finding}
    {notes : List Log.Entry} (listener : Option Listener) (code : r.code ≠ Response.noSuchName)
    (asked : r.question = some question)
    (cut : Text.CutFirst marker question.toText selector domain) (fresh : selector ∉ s.found)
    (found : firstFinding question.toText domain selector r.textRecords = (.ok (some f), notes)) :
    s.handle listener (some r) =
      ⟨⟨selector :: s.found, s.findings ++ [f]⟩, notes, listener.map fun _ => f,
        listener.bind fun l => (l f).map .listener⟩ := by
  have split : splitName question.toText = some (selector, domain) :=
    Text.breakOn_eq_some_iff.2 cut
  simp only [handle, if_neg code, asked, split, List.contains_iff_mem, if_neg fresh, settle]
  rw [found]
  cases listener <;> rfl

/-- Settling a selector adds what `findingsIn` tells and hands it to the listener. -/
theorem settle_announced (s : Session) (name selector domain : Text) (records : List TextRecord) :
    (s.settle listener name selector domain records).announced.toList =
      if listener.isSome then findingsIn name selector domain records else [] := by
  unfold settle findingsIn
  cases h : firstFinding name domain selector records with
  | mk result notes =>
    cases result with
    | error e => simp
    | ok finding =>
      cases finding with
      | none => simp [unchanged]
      | some f => cases listener <;> rfl

/-- Only an inspection that fails is reported as one. -/
theorem settle_failure_of_error {s : Session} {name selector domain : Text}
    {records : List TextRecord} {e : InspectionError}
    (h : (firstFinding name domain selector records).1 = .error e) :
    (s.settle listener name selector domain records).failure = some (.inspection e) := by
  unfold settle
  generalize firstFinding name domain selector records = result at h ⊢
  obtain ⟨outcome, notes⟩ := result
  simp only at h
  rw [h]

/-- There is at most one finding in some records. -/
theorem findingsIn_cases (name selector domain : Text) (records : List TextRecord) :
    findingsIn name selector domain records = [] ∨
      ∃ f, findingsIn name selector domain records = [f] := by
  unfold findingsIn
  split
  · exact .inr ⟨_, rfl⟩
  · exact .inl rfl

/-- A finding in some records comes from the first one that yields any. -/
theorem yields_of_findingsIn {records : List TextRecord} {f : Finding}
    (h : findingsIn name selector domain records = [f]) :
    ∃ front record back, records = front ++ record :: back ∧
      Yields name selector domain record f ∧
      ∀ earlier ∈ front, ∀ g, ¬Yields name selector domain earlier g := by
  unfold findingsIn at h
  rcases firstFinding_cases name selector domain records with ⟨e, hr⟩ | ⟨hr, -⟩ |
    ⟨g, front, record, back, hr, split, yields, first⟩
  · rw [hr] at h
    cases h
  · rw [hr] at h
    cases h
  · rw [hr] at h
    cases h
    exact ⟨front, record, back, split, yields, first⟩

/-- Every finding in some records is about their selector. -/
theorem selector_of_mem_findingsIn {records : List TextRecord} {f : Finding}
    (h : f ∈ findingsIn name selector domain records) : f.source.selector = selector := by
  rcases findingsIn_cases name selector domain records with none | ⟨g, one⟩
  · rw [none] at h
    cases h
  · obtain ⟨front, record, back, -, yields, -⟩ := yields_of_findingsIn one
    rw [one] at h
    obtain rfl := List.mem_singleton.1 h
    exact yields.source.2.2

/-- Unless an inspection fails, there is a finding in some records when one of them yields any. -/
theorem findingsIn_ne_nil_iff {records : List TextRecord}
    (sound : ∀ e, (firstFinding name domain selector records).1 ≠ .error e) :
    findingsIn name selector domain records ≠ [] ↔
      ∃ record ∈ records, ∃ f, Yields name selector domain record f := by
  unfold findingsIn
  rcases firstFinding_cases name selector domain records with ⟨e, hr⟩ | ⟨hr, barren⟩ |
    ⟨g, front, record, back, hr, split, yields, -⟩
  · exact absurd hr (sound e)
  · rw [hr]
    constructor
    · intro h
      exact absurd rfl h
    · rintro ⟨record, hin, f, hf⟩
      exact absurd hf (barren record hin f)
  · rw [hr]
    constructor
    · intro _
      refine ⟨record, ?_, g, yields⟩
      rw [split]
      exact List.mem_append_right _ List.mem_cons_self
    · intro _ h
      cases h

/-- A response changes the session unless it is idle. -/
theorem handle_session_eq_iff {s : Session} {response : Option Response} :
    (s.handle listener response).session = s ↔ s.Idle response := by
  constructor
  · intro h
    apply Classical.byContradiction
    intro busy
    obtain ⟨r, question, selector, domain, -, -, -, -, settles⟩ :=
      settles_of_not_idle listener busy
    rw [settles, settle_session] at h
    have longer := congrArg (fun s => s.found.length) h
    simp only [List.length_cons] at longer
    omega
  · intro h
    obtain ⟨notes, hu⟩ := handle_of_idle listener h
    rw [hu]
    rfl

/-! ## Many responses -/

/-- The sessions that sequences of responses lead to, with the findings handed to the listener on
the way. A listener may take every finding differently, so each response comes with the listener as
it is then; but either there is one all the time, or there is none (`listening`). -/
inductive Led (listening : Bool) : Session → List Finding → Prop where
  | empty : Led listening .empty []
  | handle {s : Session} {announced : List Finding} (led : Led listening s announced)
      (listener : Option Listener) (same : listener.isSome = listening)
      (response : Option Response) :
      Led listening (s.handle listener response).session
        (announced ++ (s.handle listener response).announced.toList)

/-- No selector has two findings, every one is found, and the listener knows all findings. -/
structure Tidy (listening : Bool) (s : Session) (announced : List Finding) : Prop where
  nodup : (s.findings.map fun f => f.source.selector).Nodup
  found : ∀ f ∈ s.findings, f.source.selector ∈ s.found
  found_nodup : s.found.Nodup
  announced : announced = if listening then s.findings else []

/-- Any response keeps a session tidy, also one whose handling is cut short. -/
theorem Tidy.handle {s : Session} {announced : List Finding}
    (h : Tidy listener.isSome s announced) (response : Option Response) :
    Tidy listener.isSome (s.handle listener response).session
      (announced ++ (s.handle listener response).announced.toList) := by
  by_cases idle : s.Idle response
  · obtain ⟨notes, hu⟩ := handle_of_idle listener idle
    rw [hu]
    simpa [unchanged] using h
  · obtain ⟨r, question, selector, domain, -, -, -, fresh, settles⟩ :=
      settles_of_not_idle listener idle
    rw [settles, settle_session, settle_announced]
    constructor
    · rw [List.map_append, List.nodup_append]
      refine ⟨h.nodup, ?_, ?_⟩
      · rcases findingsIn_cases question.toText selector domain r.textRecords with none | ⟨f, one⟩
        · rw [none]
          exact List.nodup_nil
        · rw [one]
          exact List.nodup_cons.2 ⟨List.not_mem_nil, List.nodup_nil⟩
      · intro x hx y hy e
        obtain ⟨f, hf, rfl⟩ := List.mem_map.1 hx
        obtain ⟨g, hg, rfl⟩ := List.mem_map.1 hy
        apply fresh
        rw [← selector_of_mem_findingsIn hg, ← e]
        exact h.found f hf
    · intro f hf
      rcases List.mem_append.1 hf with hf | hf
      · exact List.mem_cons_of_mem _ (h.found f hf)
      · rw [selector_of_mem_findingsIn hf]
        exact List.mem_cons_self
    · exact List.nodup_cons.2 ⟨fresh, h.found_nodup⟩
    · rw [h.announced]
      cases listener <;> rfl

theorem Led.tidy {listening : Bool} {s : Session} {announced : List Finding}
    (led : Led listening s announced) : Tidy listening s announced := by
  induction led with
  | empty => exact ⟨List.nodup_nil, by simp [Session.empty], List.nodup_nil, by simp [Session.empty]⟩
  | handle led listener same response ih =>
    subst same
    exact ih.handle response

/-- After any sequence of responses, whatever failed on the way: the selectors of the findings are
different and found, and the listener has been handed the findings in order. One more response adds
at most one selector and one finding; it adds nothing exactly when it is idle, and otherwise adds its
selector, and a finding when a text record yields one (unless an inspection fails), that of the first
such record. -/
theorem findings_of_responses {listening : Bool} {s : Session} {announced : List Finding}
    (led : Led listening s announced) (listener : Option Listener)
    (same : listener.isSome = listening) (response : Option Response) :
    let outcome := s.handle listener response
    ((s.findings.map fun f => f.source.selector).Nodup ∧
      (∀ f ∈ s.findings, f.source.selector ∈ s.found) ∧ s.found.Nodup ∧
      announced = (if listening then s.findings else [])) ∧
    (∃ selectors, selectors.length ≤ 1 ∧ outcome.session.found = selectors ++ s.found) ∧
    (∃ findings, findings.length ≤ 1 ∧ outcome.session.findings = s.findings ++ findings ∧
      outcome.announced.toList = if listening then findings else []) ∧
    (outcome.session = s ↔ s.Idle response) ∧
    (¬s.Idle response → ∃ r question selector domain,
      response = some r ∧ r.question = some question ∧
      Text.CutFirst marker question.toText selector domain ∧
      outcome.session.found = selector :: s.found ∧
      ((∀ e, outcome.failure ≠ some (.inspection e)) →
        (outcome.session.findings ≠ s.findings ↔
          ∃ record ∈ r.textRecords, ∃ f, Yields question.toText selector domain record f)) ∧
      ∀ f, outcome.session.findings = s.findings ++ [f] →
        ∃ front record back, r.textRecords = front ++ record :: back ∧
          Yields question.toText selector domain record f ∧
          ∀ earlier ∈ front, ∀ g, ¬Yields question.toText selector domain earlier g) := by
  subst same
  dsimp only
  have tidy := led.tidy
  refine ⟨⟨tidy.nodup, tidy.found, tidy.found_nodup, tidy.announced⟩, ?_, ?_,
    handle_session_eq_iff, ?_⟩
  · by_cases idle : s.Idle response
    · exact ⟨[], Nat.zero_le 1, by rw [handle_session_eq_iff.2 idle]; rfl⟩
    · obtain ⟨r, question, selector, domain, -, -, -, -, settles⟩ :=
        settles_of_not_idle listener idle
      exact ⟨[selector], Nat.le_refl 1, by rw [settles, settle_session]; rfl⟩
  · by_cases idle : s.Idle response
    · obtain ⟨notes, hu⟩ := handle_of_idle listener idle
      refine ⟨[], Nat.zero_le 1, ?_, ?_⟩
      · rw [hu, List.append_nil]
        rfl
      · rw [hu]
        simp [unchanged]
    · obtain ⟨r, question, selector, domain, -, -, -, -, settles⟩ :=
        settles_of_not_idle listener idle
      refine ⟨findingsIn question.toText selector domain r.textRecords, ?_, ?_, ?_⟩
      · rcases findingsIn_cases question.toText selector domain r.textRecords with none | ⟨f, one⟩
        · rw [none]
          exact Nat.zero_le 1
        · rw [one]
          exact Nat.le_refl 1
      · rw [settles, settle_session]
      · rw [settles, settle_announced]
  · intro busy
    obtain ⟨r, question, selector, domain, hr, hq, cut, -, settles⟩ :=
      settles_of_not_idle listener busy
    have session : (s.settle listener question.toText selector domain r.textRecords).session =
        ⟨selector :: s.found,
          s.findings ++ findingsIn question.toText selector domain r.textRecords⟩ :=
      settle_session ..
    refine ⟨r, question, selector, domain, hr, hq, cut, by rw [settles, session], ?_, ?_⟩
    · intro sound
      rw [settles] at sound ⊢
      have sound' : ∀ e, (firstFinding question.toText domain selector r.textRecords).1 ≠
          .error e := fun e he => sound e (settle_failure_of_error he)
      rw [session, ← findingsIn_ne_nil_iff sound']
      exact not_congr List.append_right_eq_self
    · intro f hf
      rw [settles, session] at hf
      exact yields_of_findingsIn (List.append_cancel_left hf)

def refusing : Listener := fun _ => some "full"

/-- The key record of the selector `a` of the domain `d`: behind a record without a key, one with
the modulus 35 and the exponent 5. -/
def keyedResponse : Response where
  question := some ⟨["a", "_domainkey", "d"].map fun l => Text.Utf8.encode l.toList⟩
  code := Response.noError
  answer := [.other, .texts [.ofText "v=DKIM1; p=".toList, .ofText "p=MAYCASM CAQU".toList]]

/-- Given twice to a listener that refuses every finding, the response settles its selector with the
finding the first time, and changes nothing the second time. -/
theorem findings_of_responses_refused :
    let source : Source := ⟨"a._domainkey.d".toList,
      "\x22p=MAYCASM CAQU\x22".toList, ['d'], ['a'], "PROD".toList⟩
    let f := findingOf source (PublicKey.writeBare ⟨35, 5⟩) ⟨35, 5⟩
    let outcome := empty.handle (some refusing) (some keyedResponse)
    outcome.session = ⟨[['a']], [f]⟩ ∧ outcome.announced = some f ∧
      outcome.failure = some (.listener "full") ∧
      (∃ record ∈ keyedResponse.textRecords, ∃ g,
        Yields "a._domainkey.d".toList ['a'] ['d'] record g) ∧
      (outcome.session.handle (some refusing) (some keyedResponse)).session = outcome.session := by
  intro source f outcome
  have cut : Text.CutFirst marker "a._domainkey.d".toList ['a'] ['d'] :=
    Text.breakOn_eq_some_iff.1 (by decide)
  have blank : (parseTags (TextRecord.ofText "v=DKIM1; p=".toList).value).get? keyName =
      some [] := by decide +kernel
  obtain ⟨notes, barren⟩ : ∃ notes, examine "a._domainkey.d".toList ['d'] ['a']
      (.ofText "v=DKIM1; p=".toList) = .ok (none, notes) := ⟨_, by rw [examine, blank]; rfl⟩
  have key : (parseTags (TextRecord.ofText "p=MAYCASM CAQU".toList).value).get? keyName =
      some (Base64.encode (PublicKey.writeBare ⟨35, 5⟩)) := by decide +kernel
  have small : 35 < 10 ^ Number.maxDigits := lt_of_length_ofNat_le (by decide)
  have examined : examine "a._domainkey.d".toList ['d'] ['a']
      (.ofText "p=MAYCASM CAQU".toList) = .ok (some f, []) := by
    rw [examine_of_key (by decide) (by decide) small (.inr rfl) key]
    have shown : (TextRecord.ofText "p=MAYCASM CAQU".toList).shown =
        "\x22p=MAYCASM CAQU\x22".toList := by decide +kernel
    have mode : (mode (parseTags (TextRecord.ofText "p=MAYCASM CAQU".toList).value)).name =
        "PROD".toList := by decide +kernel
    rw [shown, mode]
  have found : firstFinding "a._domainkey.d".toList ['d'] ['a'] keyedResponse.textRecords =
      (.ok (some f), notes ++ []) := by
    show firstFinding _ _ _ [.ofText "v=DKIM1; p=".toList, .ofText "p=MAYCASM CAQU".toList] = _
    rw [firstFinding, barren]
    simp only
    rw [firstFinding, examined]
  have handled : empty.handle (some refusing) (some keyedResponse) =
      ⟨⟨[['a']], [f]⟩, notes ++ [], some f, some (.listener "full")⟩ :=
    handle_of_firstFinding (some refusing) (by decide) rfl cut (by decide) found
  have before : Led true empty [] := .empty
  obtain ⟨-, -, -, unchanged, busy⟩ :=
    findings_of_responses before (some refusing) rfl (some keyedResponse)
  have notIdle : ¬empty.Idle (some keyedResponse) := by
    rw [← unchanged, handled]
    exact nofun
  obtain ⟨r, question, selector, domain, hr, hq, cut', -, adds, -⟩ := busy notIdle
  cases hr
  cases hq
  have cuts := (Text.breakOn_eq_some_iff.2 cut').symm.trans (Text.breakOn_eq_some_iff.2 cut)
  cases cuts
  rw [handled] at adds
  have after := before.handle (some refusing) rfl (some keyedResponse)
  obtain ⟨-, -, -, unchanged', -⟩ :=
    findings_of_responses after (some refusing) rfl (some keyedResponse)
  refine ⟨by simp only [outcome, handled], by simp only [outcome, handled],
    by simp only [outcome, handled], (adds nofun).1 nofun, unchanged'.2 ?_⟩
  rw [handled]
  exact .inr (.inr ⟨_, rfl, .inr ⟨_, _, cut, List.mem_cons_self⟩⟩)

end SelectorScan.Session
