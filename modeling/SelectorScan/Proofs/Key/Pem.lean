import SelectorScan.Proofs.Key.Acceptance
import SelectorScan.Proofs.Text.Terminated

/-!
# The canonical form of a key

A frame gives its body back: the lines between the first and the last one are the pieces that the
body was cut into, all but the last of full width, and joined they are the body again:

    bodyLines (frame label body) = chunks lineWidth body                        (bodyLines_frame)
    (chunks width t).flatten = t                                                 (flatten_chunks)

The frame of a finding holds the usual encoding of its key, whatever the encoding that was published.
So its body is a key text in which the same key is found, and findings of one key are framed alike
(`pem_canonical`).
-/

namespace SelectorScan.Key

namespace Pem

/-! ## Pieces -/

theorem chunks_nil (width : Nat) : chunks width [] = [] := by
  rw [chunks, dif_pos (.inl rfl)]

theorem chunks_of_ne_nil {width : Nat} (pos : 0 < width) {t : Text} (h : t ≠ []) :
    chunks width t = t.take width :: chunks width (t.drop width) := by
  rw [chunks, dif_neg]
  rintro (e | e)
  · exact h e
  · omega

section
variable {width : Nat} (pos : 0 < width)
include pos

/-- The pieces make up the text. -/
theorem flatten_chunks (t : Text) : (chunks width t).flatten = t := by
  by_cases h : t = []
  · rw [h, chunks_nil]
    rfl
  · have shorter : (t.drop width).length < t.length := by
      have := List.length_pos_iff.2 h
      rw [List.length_drop]
      omega
    rw [chunks_of_ne_nil pos h, List.flatten_cons, flatten_chunks (t.drop width),
      List.take_append_drop]
termination_by t.length

/-- Each piece holds something and is no longer than the width, and all but the last one are of full
width. -/
theorem chunks_lengths (t : Text) :
    (∀ piece ∈ chunks width t, 1 ≤ piece.length ∧ piece.length ≤ width) ∧
      ∀ piece ∈ (chunks width t).dropLast, piece.length = width := by
  by_cases h : t = []
  · rw [h, chunks_nil]
    exact ⟨nofun, nofun⟩
  · have filled := List.length_pos_iff.2 h
    have shorter : (t.drop width).length < t.length := by
      rw [List.length_drop]
      omega
    obtain ⟨sizes, full⟩ := chunks_lengths (t.drop width)
    have first : (t.take width).length = min width t.length := List.length_take
    rw [chunks_of_ne_nil pos h]
    constructor
    · intro piece hp
      rcases List.mem_cons.1 hp with rfl | hp
      · omega
      · exact sizes piece hp
    · intro piece hp
      by_cases last : t.drop width = []
      · rw [last, chunks_nil] at hp
        cases hp
      · -- something is left behind the first piece, so that it is full
        have more := List.length_pos_iff.2 last
        rw [List.length_drop] at more
        rw [chunks_of_ne_nil pos last, List.dropLast_cons_cons, ← chunks_of_ne_nil pos last] at hp
        rcases List.mem_cons.1 hp with rfl | hp
        · omega
        · exact full piece hp
termination_by t.length

theorem mem_of_mem_chunks {t piece : Text} (h : piece ∈ chunks width t) {c : Char}
    (hc : c ∈ piece) : c ∈ t := by
  rw [← flatten_chunks pos t]
  exact List.mem_flatten.2 ⟨piece, h, hc⟩

end

/-! ## Frames -/

/-- The lines of a frame without the first and the last one. -/
def bodyLines (pem : Text) : List Text :=
  ((Text.split '\n' pem).drop 1).dropLast.dropLast

/-- A frame is its lines, with a line feed behind each. -/
theorem frame_eq (label body : Text) : frame label body =
    (frameLine "BEGIN".toList label :: chunks lineWidth body ++
      [frameLine "END".toList label]).flatMap (· ++ ['\n']) := by
  rw [frame]
  exact Text.join_append_sep (List.cons_ne_nil _ _) '\n'

theorem not_mem_frameLine {word label : Text} (hw : '\n' ∉ word) (hl : '\n' ∉ label) :
    '\n' ∉ frameLine word label := by
  have dashes : '\n' ∉ "-----".toList := by decide
  unfold frameLine
  -- rewriting would spell the dashes out again and again
  generalize "-----".toList = d at dashes ⊢
  simp [dashes, hw, hl]

theorem bodyLines_frame {label body : Text} (hl : '\n' ∉ label) (hb : '\n' ∉ body) :
    bodyLines (frame label body) = chunks lineWidth body := by
  have free : ∀ line ∈ frameLine "BEGIN".toList label :: chunks lineWidth body ++
      [frameLine "END".toList label], '\n' ∉ line := by
    intro line h
    rcases List.mem_append.1 h with h | h
    · rcases List.mem_cons.1 h with rfl | h
      · exact not_mem_frameLine (by decide) hl
      · exact fun hc => hb (mem_of_mem_chunks (by decide) h hc)
    · obtain rfl := List.mem_singleton.1 h
      exact not_mem_frameLine (by decide) hl
  rw [bodyLines, frame_eq, Text.split_terminated free, List.cons_append, List.cons_append,
    List.drop_one, List.tail_cons, List.dropLast_concat, List.dropLast_concat]

end Pem

/-! ## Findings -/

/-- The body of the frame of a finding is the usual encoding of its key. -/
theorem bodyLines_pem (k : PublicKey) :
    Pem.bodyLines (Pem.frame Pem.publicKeyLabel (Base64.encode k.encode)) =
      Pem.chunks Pem.lineWidth (Base64.encode k.encode) :=
  Pem.bodyLines_frame (by decide) (Base64.not_mem_encode (by decide) (by decide) k.encode)

/-- A sound key that may be written is found in its usual encoding. -/
theorem inspect_encode {k : PublicKey} (sound : k.isSound = true)
    (digits : k.modulus < 10 ^ Number.maxDigits) (source : Source) :
    inspect source (Base64.encode k.encode) = .ok (some (findingOf source k.encode k)) :=
  inspect_eq_some_iff_encoding.2
    ⟨k, .framed .plainNull, Base64.decode?_encode k.encode, sound, digits, rfl⟩

/-- Findings are framed alike exactly when they are of one key. -/
theorem frame_encode_inj {k l : PublicKey} (compact : k.Compact)
    (h : Pem.frame Pem.publicKeyLabel (Base64.encode k.encode) =
      Pem.frame Pem.publicKeyLabel (Base64.encode l.encode)) : k = l := by
  have lines := congrArg Pem.bodyLines h
  rw [bodyLines_pem, bodyLines_pem] at lines
  have body := congrArg List.flatten lines
  rw [Pem.flatten_chunks (by decide), Pem.flatten_chunks (by decide)] at body
  have bytes := congrArg Base64.decode? body
  rw [Base64.decode?_encode, Base64.decode?_encode] at bytes
  exact (PublicKey.encoding_injective (f := .framed .plainNull) (g := .framed .plainNull)
    (compact.writable _) (Option.some.inj bytes)).2

/-- The frame of a finding is canonical: between the two lines that say what it is stands the usual
encoding of the key in base 64, in lines of 64 characters. These lines joined are a key text, in
which the same key is found, framed alike; and in the body of that frame, nothing else. Findings
have one frame exactly when they have one modulus and one exponent. -/
theorem pem_canonical {source : Source} {key : Text} {f : Finding}
    (h : inspect source key = .ok (some f)) :
    let lines := Pem.bodyLines f.pem
    f.pem = ("-----BEGIN PUBLIC KEY-----".toList :: lines ++
      ["-----END PUBLIC KEY-----".toList]).flatMap (· ++ ['\n']) ∧
    lines ≠ [] ∧ (∀ line ∈ lines.dropLast, line.length = 64) ∧
    (∀ line ∈ lines, 1 ≤ line.length ∧ line.length ≤ 64) ∧
    (∃ k : PublicKey, f.modulus = Text.ofNat k.modulus ∧ f.exponent = Text.ofNat k.exponent ∧
      lines.flatten = Base64.encode k.encode) ∧
    (∃ g, inspect source lines.flatten = .ok (some g) ∧ g.modulus = f.modulus ∧
      g.exponent = f.exponent ∧ g.bits = f.bits ∧ g.pem = f.pem ∧ g.key = lines.flatten ∧
      inspect source (Pem.bodyLines g.pem).flatten = .ok (some g)) ∧
    ∀ source' key' f', inspect source' key' = .ok (some f') →
      (f.pem = f'.pem ↔ f.modulus = f'.modulus ∧ f.exponent = f'.exponent) := by
  obtain ⟨k, form, -, sound, digits, rfl⟩ := inspect_eq_some_iff_encoding.1 h
  intro lines
  have pieces : lines = Pem.chunks Pem.lineWidth (Base64.encode k.encode) := bodyLines_pem k
  have body : lines.flatten = Base64.encode k.encode := by
    rw [pieces]
    exact Pem.flatten_chunks (by decide) _
  obtain ⟨sizes, full⟩ := Pem.chunks_lengths (by decide : 0 < Pem.lineWidth)
    (Base64.encode k.encode)
  refine ⟨?_, ?_, ?_, ?_, ⟨k, rfl, rfl, body⟩, ?_, ?_⟩
  · rw [pieces]
    exact Pem.frame_eq Pem.publicKeyLabel (Base64.encode k.encode)
  · intro none
    rw [none] at body
    exact Base64.encode_ne_nil (List.cons_ne_nil _ _) body.symm
  · rw [pieces]
    exact full
  · rw [pieces]
    exact sizes
  · have found := inspect_encode sound digits source
    rw [body]
    refine ⟨findingOf source k.encode k, found, rfl, rfl, rfl, rfl, findingOf_key .., ?_⟩
    rw [findingOf_pem, bodyLines_pem, Pem.flatten_chunks (by decide)]
    exact found
  · intro source' key' f' h'
    obtain ⟨l, form', -, -, -, rfl⟩ := inspect_eq_some_iff_encoding.1 h'
    constructor
    · intro same
      obtain rfl := frame_encode_inj (PublicKey.compact_of_lt sound digits) same
      exact ⟨rfl, rfl⟩
    · rintro ⟨modulus, exponent⟩
      have key : k = l := by
        cases k
        cases l
        exact congrArg₂ PublicKey.mk (Number.ofNat_inj modulus) (Number.ofNat_inj exponent)
      show Pem.frame _ (Base64.encode k.encode) = Pem.frame _ (Base64.encode l.encode)
      rw [key]

/-- A key that is published bare is framed in its usual encoding. -/
theorem pem_canonical_bare :
    let source : Source := ⟨"s._domainkey.d".toList, [], "d".toList, "s".toList, "PROD".toList⟩
    ∃ f g, inspect source "MAYCAQ8CAQM=".toList = .ok (some f) ∧
      inspect source (Pem.bodyLines f.pem).flatten = .ok (some g) ∧ g.key ≠ f.key ∧
      g.pem = f.pem ∧ (f.pem = g.pem ↔ f.modulus = g.modulus ∧ f.exponent = g.exponent) := by
  intro source
  have decoded : Base64.decode? "MAYCAQ8CAQM=".toList = some ((PublicKey.mk 15 3).encoding .bare) := by
    decide +kernel
  have few : 15 < 10 ^ Number.maxDigits := lt_of_length_ofNat_le (by decide +kernel)
  have found : inspect source "MAYCAQ8CAQM=".toList = .ok (some _) :=
    inspect_eq_some_iff_encoding.2 ⟨_, _, decoded, by decide, few, rfl⟩
  obtain ⟨-, -, -, -, ⟨k, modulus, exponent, body⟩, ⟨g, again, -, -, -, pem, key, -⟩, same⟩ :=
    pem_canonical found
  have known : k = ⟨15, 3⟩ := by
    cases k
    have modulus : Text.ofNat 15 = Text.ofNat _ := modulus
    have exponent : Text.ofNat 3 = Text.ofNat _ := exponent
    exact congrArg₂ PublicKey.mk (Number.ofNat_inj modulus).symm (Number.ofNat_inj exponent).symm
  refine ⟨_, g, found, again, ?_, pem, same _ _ _ again⟩
  rw [key, body, known]
  show Base64.encode (PublicKey.mk 15 3).encode ≠ "MAYCAQ8CAQM=".toList
  decide +kernel

end SelectorScan.Key
