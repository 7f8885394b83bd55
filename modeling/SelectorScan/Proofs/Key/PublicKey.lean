import SelectorScan.Proofs.Key.Strict

/-!
# The encodings of an RSA key

A key may be published in five forms: within a frame that names one of four algorithms, or bare.
Reading takes each of them for its key and takes nothing else, and neither two keys nor two forms
share an encoding:

    readBare? bytes = some k ↔ … ∧ bytes = k.writeBare                  (readBare?_eq_some_iff)
    readFramed? bytes = some k ↔
      ∃ a, … ∧ bytes = k.encoding (.framed a)                         (readFramed?_eq_some_iff)
    k.encoding f = l.encoding g → f = g ∧ k = l                            (encoding_injective)

A bare encoding cannot be mistaken for a framed one: where a frame has the sequence that names the
algorithm, it has the modulus. So it does not matter which of the two is tried first (`read?_comm`).
The left out conditions say that the lengths can be written.
-/

namespace SelectorScan.Key

open Der

/-! ## Forms -/

/-- The algorithms that frames of RSA keys name. -/
inductive Algorithm where
  /-- Plain RSA, with null parameters. -/
  | plainNull
  /-- Plain RSA without parameters. -/
  | plain
  /-- Probabilistic signatures without parameters. -/
  | pss
  /-- Probabilistic signatures with an empty sequence of parameters. -/
  | pssEmpty
deriving DecidableEq, Repr

namespace Algorithm

def identifier : Algorithm → List UInt8
  | plainNull => PublicKey.rsaIdentifier
  | plain => PublicKey.rsaIdentifier
  | pss => PublicKey.pssIdentifier
  | pssEmpty => PublicKey.pssIdentifier

def parameters : Algorithm → List UInt8
  | plainNull => write .null []
  | plain => []
  | pss => []
  | pssEmpty => write .sequence []

/-- An algorithm is told by its identifier and its parameters. -/
theorem ext_iff {a b : Algorithm} :
    a = b ↔ a.identifier = b.identifier ∧ a.parameters = b.parameters := by
  revert a b
  have all : ∀ a ∈ [plainNull, plain, pss, pssEmpty], ∀ b ∈ [plainNull, plain, pss, pssEmpty],
      a = b ↔ a.identifier = b.identifier ∧ a.parameters = b.parameters := by decide
  have mem (a : Algorithm) : a ∈ [plainNull, plain, pss, pssEmpty] := by cases a <;> decide
  exact fun {a b} => all a (mem a) b (mem b)

theorem lengths_le (a : Algorithm) : a.identifier.length ≤ 9 ∧ a.parameters.length ≤ 2 := by
  cases a <;> decide

end Algorithm

/-- The forms in which a key may be published. -/
inductive Form where
  | framed (algorithm : Algorithm)
  | bare
deriving DecidableEq, Repr

namespace PublicKey

def encoding (k : PublicKey) : Form → List UInt8
  | .framed a => k.writeFramed a.identifier a.parameters
  | .bare => k.writeBare

theorem encoding_plainNull (k : PublicKey) : k.encoding (.framed .plainNull) = k.encode := rfl

theorem encoding_bare (k : PublicKey) : k.encoding .bare = k.writeBare := rfl

/-- What a bare encoding holds. -/
def numbers (k : PublicKey) : List UInt8 :=
  writeNatural k.modulus ++ writeNatural k.exponent

theorem writeBare_eq (k : PublicKey) : k.writeBare = write .sequence k.numbers := rfl

/-- What a frame holds. -/
def framed (identifier parameters bits : List UInt8) : List UInt8 :=
  write .sequence (write .objectIdentifier identifier ++ parameters) ++ write .bitString (0 :: bits)

theorem isRsa_iff {identifier parameters : List UInt8} :
    isRsa identifier parameters = true ↔
      ∃ a : Algorithm, a.identifier = identifier ∧ a.parameters = parameters := by
  simp only [isRsa, Bool.or_eq_true, Bool.and_eq_true, beq_iff_eq]
  constructor
  · rintro (⟨rfl, rfl | rfl⟩ | ⟨rfl, rfl | rfl⟩)
    · exact ⟨.plain, rfl, rfl⟩
    · exact ⟨.plainNull, rfl, rfl⟩
    · exact ⟨.pss, rfl, rfl⟩
    · exact ⟨.pssEmpty, rfl, rfl⟩
  · rintro ⟨a, rfl, rfl⟩
    cases a with
    | plainNull => exact .inl ⟨rfl, .inr rfl⟩
    | plain => exact .inl ⟨rfl, .inl rfl⟩
    | pss => exact .inr ⟨rfl, .inl rfl⟩
    | pssEmpty => exact .inr ⟨rfl, .inr rfl⟩

/-! ## Reading -/

/-- The numbers are read from the bare encoding, and only from that. -/
theorem readBare?_eq_some_iff {k : PublicKey} {bytes : List UInt8} :
    readBare? bytes = some k ↔ Writable k.numbers.length ∧ bytes = k.writeBare := by
  constructor
  · intro h
    unfold readBare? at h
    split at h
    · cases h
    · next contents hc =>
      obtain ⟨short, rfl⟩ := readWhole?_eq_some_iff.1 hc
      split at h
      · cases h
      · next n rest hn =>
        obtain ⟨-, rfl⟩ := readNatural?_eq_some_iff.1 hn
        split at h
        · next e he =>
          obtain ⟨-, rfl⟩ := readNatural?_eq_some_iff.1 he
          obtain rfl := Option.some.inj h
          rw [List.append_nil] at short ⊢
          exact ⟨short, rfl⟩
        · cases h
  · rintro ⟨short, rfl⟩
    have inner (n : Nat) : (naturalContents n).length ≤ (writeNatural n).length := length_le_write ..
    have both : k.numbers.length =
        (writeNatural k.modulus).length + (writeNatural k.exponent).length := List.length_append
    have modulus : Writable (naturalContents k.modulus).length :=
      short.mono ((inner k.modulus).trans (by omega))
    have exponent : Writable (naturalContents k.exponent).length :=
      short.mono ((inner k.exponent).trans (by omega))
    have last := readNatural?_writeNatural exponent []
    rw [List.append_nil] at last
    rw [readBare?, writeBare_eq, readWhole?_write .sequence short, numbers]
    simp only
    rw [readNatural?_writeNatural modulus]
    simp only [last]

/-- The algorithm and the bits are read from their frame, and only from that. -/
theorem readFrame?_eq_some_iff {identifier parameters bits bytes : List UInt8} :
    readFrame? bytes = some ((identifier, parameters), bits) ↔
      Writable (framed identifier parameters bits).length ∧
        bytes = write .sequence (framed identifier parameters bits) := by
  constructor
  · intro h
    unfold readFrame? at h
    split at h
    · cases h
    · next contents hc =>
      obtain ⟨short, rfl⟩ := readWhole?_eq_some_iff.1 hc
      split at h
      · cases h
      · next algorithm rest ha =>
        obtain ⟨-, rfl⟩ := Der.read?_eq_some_iff.1 ha
        split at h
        · next named bits' hn hb =>
          cases h
          obtain ⟨-, rfl⟩ := Der.read?_eq_some_iff.1 hn
          obtain ⟨-, rfl⟩ := readWhole?_eq_some_iff.1 hb
          exact ⟨short, rfl⟩
        · cases h
  · rintro ⟨short, rfl⟩
    have both : (framed identifier parameters bits).length =
        (write .sequence (write .objectIdentifier identifier ++ parameters)).length +
          (write .bitString (0 :: bits)).length := List.length_append
    have algorithm : Writable (write .objectIdentifier identifier ++ parameters).length :=
      short.mono ((length_le_write .sequence _).trans (by omega))
    have named : Writable identifier.length := by
      apply algorithm.mono
      rw [List.length_append]
      exact (length_le_write .objectIdentifier _).trans (Nat.le_add_right ..)
    have held : Writable ((0 : UInt8) :: bits).length :=
      short.mono ((length_le_write .bitString _).trans (by omega))
    rw [readFrame?, readWhole?_write .sequence short, framed]
    simp only
    rw [read?_write .sequence algorithm]
    simp only [readAlgorithm?]
    rw [read?_write .objectIdentifier named, readWhole?_write .bitString held]
    rfl

/-- A framed key is read from its encoding with one of the algorithms, and only from that. -/
theorem readFramed?_eq_some_iff {k : PublicKey} {bytes : List UInt8} :
    readFramed? bytes = some k ↔ ∃ a : Algorithm,
      Writable (framed a.identifier a.parameters k.writeBare).length ∧
        bytes = k.encoding (.framed a) := by
  constructor
  · intro h
    unfold readFramed? at h
    split at h
    · cases h
    · next identifier parameters bits hf =>
      obtain ⟨short, rfl⟩ := readFrame?_eq_some_iff.1 hf
      split at h
      · next known =>
        obtain ⟨a, rfl, rfl⟩ := isRsa_iff.1 known
        obtain ⟨-, rfl⟩ := readBare?_eq_some_iff.1 h
        exact ⟨a, short, rfl⟩
      · cases h
  · rintro ⟨a, short, rfl⟩
    have frame := readFrame?_eq_some_iff.2 ⟨short, rfl⟩
    have held : (write .bitString (0 :: k.writeBare)).length ≤
        (framed a.identifier a.parameters k.writeBare).length := by
      rw [framed, List.length_append]
      omega
    have bare : k.numbers.length ≤ (0 :: k.writeBare).length :=
      (length_le_write .sequence _).trans (Nat.le_succ _)
    have numbers : Writable k.numbers.length :=
      short.mono (bare.trans ((length_le_write ..).trans held))
    have known : isRsa a.identifier a.parameters = true := isRsa_iff.2 ⟨a, rfl, rfl⟩
    rw [readFramed?, encoding, writeFramed, ← framed, frame]
    simp only
    rw [if_pos known]
    exact readBare?_eq_some_iff.2 ⟨numbers, rfl⟩

/-- A frame holds no bare encoding: it begins with a sequence where that has a number. -/
theorem readBare?_of_readFrame? {bytes : List UInt8}
    {frame : (List UInt8 × List UInt8) × List UInt8} (h : readFrame? bytes = some frame) :
    readBare? bytes = none := by
  obtain ⟨⟨identifier, parameters⟩, bits⟩ := frame
  obtain ⟨short, rfl⟩ := readFrame?_eq_some_iff.1 h
  rw [Option.eq_none_iff_forall_ne_some]
  intro k bare
  obtain ⟨short', e⟩ := readBare?_eq_some_iff.1 bare
  have contents := readWhole?_write .sequence short
  rw [e] at contents
  have same := Option.some.inj (contents.symm.trans (readWhole?_write .sequence short'))
  exact absurd (List.cons.inj same).1 (by decide)

/-- Framed encodings and bare ones may be tried in either order. -/
theorem read?_comm (bytes : List UInt8) :
    read? bytes = ((readBare? bytes).filter isSound).or ((readFramed? bytes).filter isSound) := by
  unfold read?
  cases hf : readFrame? bytes with
  | none =>
    rw [readFramed?, hf]
    exact (Option.or_none).symm
  | some frame =>
    rw [readBare?_of_readFrame? hf]
    exact Option.or_none

/-- A key that is read is sound, and what it is read from is one of its encodings. -/
theorem exists_encoding_of_read? {bytes : List UInt8} {k : PublicKey} (h : read? bytes = some k) :
    k.isSound = true ∧ ∃ f, bytes = k.encoding f := by
  rcases Option.or_eq_some_iff.1 h with framed | ⟨-, bare⟩
  · obtain ⟨read, sound⟩ := Option.filter_eq_some_iff.1 framed
    obtain ⟨a, -, e⟩ := readFramed?_eq_some_iff.1 read
    exact ⟨sound, .framed a, e⟩
  · obtain ⟨read, sound⟩ := Option.filter_eq_some_iff.1 bare
    exact ⟨sound, .bare, (readBare?_eq_some_iff.1 read).2⟩

/-! ## Encodings -/

section
variable {k l : PublicKey} {f g : Form} (short : Writable (k.encoding f).length)
include short

/-- What reading makes of an encoding whose length can be written. -/
theorem reads_encoding :
    match f with
    | .framed a => readFrame? (k.encoding f) = some ((a.identifier, a.parameters), k.writeBare) ∧
        readFramed? (k.encoding f) = some k
    | .bare => readBare? (k.encoding f) = some k := by
  cases f with
  | framed a =>
    have inner : Writable (framed a.identifier a.parameters k.writeBare).length :=
      short.mono (length_le_write ..)
    exact ⟨readFrame?_eq_some_iff.2 ⟨inner, rfl⟩, readFramed?_eq_some_iff.2 ⟨a, inner, rfl⟩⟩
  | bare => exact readBare?_eq_some_iff.2 ⟨short.mono (length_le_write ..), rfl⟩

/-- Different keys and different forms have different encodings. -/
theorem encoding_injective (h : k.encoding f = l.encoding g) : f = g ∧ k = l := by
  have here := reads_encoding short
  have there := reads_encoding (k := l) (f := g) (h ▸ short)
  rw [h] at here
  cases f with
  | framed a =>
    cases g with
    | framed b =>
      obtain ⟨frame, key⟩ := here
      obtain ⟨frame', key'⟩ := there
      have named := (Prod.mk.inj (Option.some.inj (frame.symm.trans frame'))).1
      have same : a = b := Algorithm.ext_iff.2 (Prod.mk.inj named)
      exact ⟨congrArg Form.framed same, Option.some.inj (key.symm.trans key')⟩
    | bare =>
      rw [readBare?_of_readFrame? here.1] at there
      cases there
  | bare =>
    cases g with
    | framed b =>
      rw [readBare?_of_readFrame? there.1] at here
      cases here
    | bare => exact ⟨rfl, Option.some.inj (here.symm.trans there)⟩

/-- A sound key is read from each of its encodings. -/
theorem read?_encoding (sound : k.isSound = true) : read? (k.encoding f) = some k := by
  have here := reads_encoding short
  cases f with
  | framed a =>
    rw [read?, here.2, Option.filter_some, if_pos sound]
    rfl
  | bare =>
    rw [read?_comm, here, Option.filter_some, if_pos sound]
    rfl

end

/-! ## Lengths -/

/-- The numbers of the key are short enough for every length in its encodings to be writable. -/
structure Compact (k : PublicKey) : Prop where
  modulus : (toBytes k.modulus).length ≤ 65535
  exponent : (toBytes k.exponent).length ≤ 65535

theorem writable_of_le {n : Nat} (h : n ≤ 1000000) : Writable n := by
  apply writable_of_lt
  have : 1000000 < 256 ^ 127 := by decide
  omega

section
variable {k : PublicKey} (compact : k.Compact)
include compact

theorem Compact.length_writeBare_le : k.writeBare.length ≤ 131459 := by
  have number {n : Nat} (h : (toBytes n).length ≤ 65535) : (writeNatural n).length ≤ 65665 := by
    have contents := length_naturalContents_le n
    have written : (writeNatural n).length ≤ (naturalContents n).length + 129 :=
      length_write_le (writable_of_le (by omega))
    omega
  have numbers : k.numbers.length ≤ 131330 := by
    have hn := number compact.modulus
    have he := number compact.exponent
    rw [PublicKey.numbers, List.length_append]
    omega
  have written : (write .sequence k.numbers).length ≤ k.numbers.length + 129 :=
    length_write_le (writable_of_le (by omega))
  rw [writeBare_eq]
  omega

theorem Compact.writable (f : Form) : Writable (k.encoding f).length := by
  have bare := compact.length_writeBare_le
  cases f with
  | bare => exact writable_of_le (bare.trans (by decide))
  | framed a =>
    obtain ⟨identifier, parameters⟩ := a.lengths_le
    have named : (write .objectIdentifier a.identifier).length ≤ a.identifier.length + 129 :=
      length_write_le (writable_of_le (by omega))
    have algorithm : (write .objectIdentifier a.identifier ++ a.parameters).length ≤ 140 := by
      rw [List.length_append]
      omega
    have algorithm' :
        (write .sequence (write .objectIdentifier a.identifier ++ a.parameters)).length ≤
          (write .objectIdentifier a.identifier ++ a.parameters).length + 129 :=
      length_write_le (writable_of_le (by omega))
    have bits : ((0 : UInt8) :: k.writeBare).length ≤ 131460 := Nat.succ_le_succ bare
    have bits' : (write .bitString (0 :: k.writeBare)).length ≤
        ((0 : UInt8) :: k.writeBare).length + 129 :=
      length_write_le (writable_of_le (by omega))
    have contents : (framed a.identifier a.parameters k.writeBare).length ≤ 131858 := by
      rw [framed, List.length_append]
      omega
    have whole : (write .sequence (framed a.identifier a.parameters k.writeBare)).length ≤
        (framed a.identifier a.parameters k.writeBare).length + 129 :=
      length_write_le (writable_of_le (by omega))
    exact writable_of_le (whole.trans (by omega))

/-- A sound key is read from its usual and from its bare encoding. -/
theorem read?_of_encoding (sound : k.isSound = true) {bytes : List UInt8}
    (encoded : bytes = k.encode ∨ bytes = k.writeBare) : read? bytes = some k := by
  rcases encoded with rfl | rfl
  · rw [← encoding_plainNull]
    exact read?_encoding (compact.writable (.framed .plainNull)) sound
  · rw [← encoding_bare]
    exact read?_encoding (compact.writable .bare) sound

end

end PublicKey

end SelectorScan.Key
