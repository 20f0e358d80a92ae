import Mathlib
import Metamorph.Binary.Codec

/-! # Exact codecs

A codec is exact on the values that fit it if reading succeeds on the bytes of such a value with
anything behind them, and on nothing else. Two values of an exact codec never begin with the same
bytes, and bytes that are cut short are not read. Every codec here is exact on the values whose
lengths and numbers fit their width. -/

namespace Metamorph

namespace Text

theorem utf8_length (s : String) : (utf8 s).length = s.utf8ByteSize := by
  simp [utf8]

theorem ofUtf8?_eq_some {bytes : List UInt8} {s : String} :
    ofUtf8? bytes = some s ↔ bytes = utf8 s := by
  unfold ofUtf8? String.fromUTF8? utf8
  constructor
  · intro read
    split at read
    · cases read
      rfl
    · cases read
  · rintro rfl
    simp [s.isValidUTF8]
    rfl

end Text

namespace Codec

/-- Reading takes off the front what writing a value that fits puts there, and nothing else. -/
def Exact {α : Type} (codec : Codec α) (fits : α → Prop) : Prop :=
  ∀ bytes a rest, codec.decode bytes = some (a, rest) ↔ fits a ∧ bytes = codec.encode a ++ rest

namespace Exact

variable {α β : Type} {codec : Codec α} {fits : α → Prop}

theorem decode_encode (exact : codec.Exact fits) {a : α} (fit : fits a) (rest : List UInt8) :
    codec.decode (codec.encode a ++ rest) = some (a, rest) :=
  (exact _ a rest).mpr ⟨fit, rfl⟩

theorem congr {other : α → Prop} (exact : codec.Exact fits) (same : ∀ a, fits a ↔ other a) :
    codec.Exact other := by
  intro bytes a rest
  rw [exact, same]

/-- Bytes begin with at most one value. -/
theorem encode_unique (exact : codec.Exact fits) {a b : α} {rest left : List UInt8}
    (fit : fits a) (other : fits b) (same : codec.encode a ++ rest = codec.encode b ++ left) :
    a = b ∧ rest = left := by
  have read := exact.decode_encode fit rest
  rw [same, exact.decode_encode other] at read
  cases read
  exact ⟨rfl, rfl⟩

theorem eq_of_encode_prefix (exact : codec.Exact fits) {a b : α} (fit : fits a)
    (other : fits b) (within : codec.encode a <+: codec.encode b) : a = b := by
  obtain ⟨rest, same⟩ := within
  exact (exact.encode_unique fit other (same.trans (List.append_nil _).symm)).1

/-- Bytes that break off inside a value are not read. -/
theorem decode_truncated (exact : codec.Exact fits) {a : α} {bytes : List UInt8} (fit : fits a)
    (within : bytes <+: codec.encode a) (short : bytes ≠ codec.encode a) :
    codec.decode bytes = none := by
  rw [Option.eq_none_iff_forall_ne_some]
  -- a value that were read would begin the same bytes, so it would be `a`, and nothing missing
  rintro ⟨b, rest⟩ read
  obtain ⟨missing, whole⟩ := within
  obtain ⟨other, rfl⟩ := (exact _ _ _).mp read
  rw [List.append_assoc, ← List.append_nil (codec.encode a)] at whole
  obtain ⟨rfl, ends⟩ := exact.encode_unique other fit whole
  simp_all

theorem pair {second : Codec β} {fitsToo : β → Prop} (exact : codec.Exact fits)
    (also : second.Exact fitsToo) :
    (codec.pair second).Exact fun ab => fits ab.1 ∧ fitsToo ab.2 := by
  rintro bytes ⟨a, b⟩ rest
  simp only [Codec.pair, Option.bind_eq_bind, Option.bind_eq_some_iff, Prod.exists, exact _ _ _,
    also _ _ _, Option.pure_def, Option.some.injEq, Prod.mk.injEq]
  constructor
  · rintro ⟨a, middle, ⟨fit, rfl⟩, b, rest, ⟨fitToo, rfl⟩, ⟨rfl, rfl⟩, rfl⟩
    exact ⟨⟨fit, fitToo⟩, (List.append_assoc ..).symm⟩
  · rintro ⟨⟨fit, fitToo⟩, rfl⟩
    exact ⟨a, _, ⟨fit, List.append_assoc ..⟩, b, rest, ⟨fitToo, rfl⟩, ⟨rfl, rfl⟩, rfl⟩

theorem via {parts : β → α} {whole : α → β} (exact : codec.Exact fits)
    (parts_whole : ∀ a, parts (whole a) = a) (whole_parts : ∀ b, whole (parts b) = b) :
    (codec.via parts whole).Exact fun b => fits (parts b) := by
  intro bytes b rest
  simp only [Codec.via, Option.map_eq_some_iff, Prod.exists, exact _ _ _, Prod.mk.injEq]
  constructor
  · rintro ⟨a, rest, ⟨fit, rfl⟩, rfl, rfl⟩
    rw [parts_whole]
    exact ⟨fit, rfl⟩
  · rintro ⟨fit, rfl⟩
    exact ⟨parts b, rest, ⟨fit, rfl⟩, whole_parts b, rfl⟩

/-- As many values as were written one after the other are read. -/
theorem readMany (exact : codec.Exact fits) (count : Nat) {bytes rest : List UInt8}
    {as : List α} : Codec.readMany codec count bytes = some (as, rest) ↔
      as.length = count ∧ (∀ a ∈ as, fits a) ∧ bytes = as.flatMap codec.encode ++ rest := by
  induction count generalizing bytes rest as with
  | zero =>
    simp only [Codec.readMany, Option.some.injEq, Prod.mk.injEq, List.length_eq_zero_iff]
    constructor
    · rintro ⟨rfl, rfl⟩
      simp
    · rintro ⟨rfl, -, rfl⟩
      simp
  | succ count ih =>
    simp only [Codec.readMany, Option.bind_eq_bind, Option.bind_eq_some_iff, Prod.exists,
      exact _ _ _, ih, Option.pure_def, Option.some.injEq, Prod.mk.injEq]
    constructor
    · rintro ⟨a, middle, ⟨fit, rfl⟩, as, rest, ⟨rfl, fits, rfl⟩, rfl, rfl⟩
      simpa using ⟨fit, fits⟩
    · rintro ⟨size, fit, rfl⟩
      cases as with
      | nil => cases size
      | cons a as =>
        rw [List.forall_mem_cons] at fit
        exact ⟨a, _, ⟨fit.1, by simp⟩, as, rest, ⟨by simpa using size, fit.2, rfl⟩, rfl, rfl⟩

end Exact

theorem readLittleEndian_eq_some {width n : Nat} {bytes rest : List UInt8} :
    readLittleEndian width bytes = some (n, rest) ↔
      n < 256 ^ width ∧ bytes = littleEndian width n ++ rest := by
  induction width generalizing bytes rest n with
  | zero =>
    simp [readLittleEndian, littleEndian, eq_comm]
  | succ width ih =>
    cases bytes with
    | nil => simp [readLittleEndian, littleEndian]
    | cons byte bytes =>
      simp only [readLittleEndian, littleEndian, Option.map_eq_some_iff, Prod.exists, ih,
        Prod.mk.injEq, List.cons_append, List.cons.injEq]
      have small := byte.toNat_lt
      constructor
      · rintro ⟨high, rest, ⟨bound, rfl⟩, rfl, rfl⟩
        refine ⟨by omega, ?_, ?_⟩
        · apply UInt8.toNat_inj.mp
          simp
        · rw [show (byte.toNat + 256 * high) / 256 = high by omega]
      · rintro ⟨bound, rfl, rfl⟩
        refine ⟨n / 256, rest, ⟨by omega, rfl⟩, ?_, rfl⟩
        have : n.toUInt8.toNat = n % 256 := by simp
        omega

theorem word32_exact : word32.Exact fun _ => True := by
  intro bytes a rest
  simp only [word32, Option.map_eq_some_iff, Prod.exists, readLittleEndian_eq_some,
    Prod.mk.injEq, true_and]
  constructor
  · rintro ⟨n, rest, ⟨bound, rfl⟩, rfl, rfl⟩
    rw [show n.toUInt32.toNat = n by simp; omega]
  · rintro rfl
    exact ⟨a.toNat, rest, ⟨a.toNat_lt, rfl⟩, by simp, rfl⟩

theorem length_exact : length.Exact (· < 2 ^ 64) :=
  fun _ _ _ => readLittleEndian_eq_some

theorem bool_exact : bool.Exact fun _ => True := by
  intro bytes b rest
  constructor
  · intro read
    dsimp only [bool] at read
    split at read <;> cases read <;> exact ⟨trivial, rfl⟩
  · rintro ⟨-, rfl⟩
    cases b <;> rfl

theorem takeBytes_eq_some {count : Nat} {bytes taken rest : List UInt8} :
    takeBytes count bytes = some (taken, rest) ↔ taken.length = count ∧ bytes = taken ++ rest := by
  dsimp only [takeBytes]
  constructor
  · intro took
    split at took
    · cases took
      exact ⟨‹_›, (List.take_append_drop ..).symm⟩
    · cases took
  · rintro ⟨rfl, rfl⟩
    simp

theorem text_exact : text.Exact fun s => s.utf8ByteSize < 2 ^ 64 := by
  intro bytes s rest
  simp only [text, Option.bind_eq_bind, Option.bind_eq_some_iff, Prod.exists, length_exact _ _ _,
    takeBytes_eq_some, Text.ofUtf8?_eq_some, Option.pure_def, Option.some.injEq, Prod.mk.injEq]
  constructor
  · rintro ⟨count, middle, ⟨short, rfl⟩, taken, rest, ⟨rfl, rfl⟩, s, rfl, rfl, rfl⟩
    rw [Text.utf8_length] at *
    exact ⟨short, by simp⟩
  · rintro ⟨short, rfl⟩
    rw [← Text.utf8_length] at short
    exact ⟨_, _, ⟨short, by simp⟩, _, _, ⟨rfl, rfl⟩, s, rfl, rfl, rfl⟩

theorem Exact.list {α : Type} {item : Codec α} {fits : α → Prop} (exact : item.Exact fits) :
    (Codec.list item).Exact fun as => as.length < 2 ^ 64 ∧ ∀ a ∈ as, fits a := by
  intro bytes as rest
  simp only [Codec.list, Option.bind_eq_bind, Option.bind_eq_some_iff, Prod.exists,
    length_exact _ _ _, exact.readMany]
  constructor
  · rintro ⟨count, middle, ⟨short, rfl⟩, rfl, fit, rfl⟩
    exact ⟨⟨short, fit⟩, by simp⟩
  · rintro ⟨⟨short, fit⟩, rfl⟩
    exact ⟨_, _, ⟨short, by simp⟩, rfl, fit, rfl⟩

/-- Choices are told apart by their numbers if the list names each of them once. -/
theorem numbered_exact {α : Type} [DecidableEq α] {all : List α} (once : all.Nodup)
    (complete : ∀ a, a ∈ all) (short : all.length < 2 ^ 32) :
    (numbered all).Exact fun _ => True := by
  intro bytes a rest
  simp only [numbered, Option.bind_eq_bind, Option.bind_eq_some_iff, Prod.exists,
    readLittleEndian_eq_some, Option.pure_def, Option.some.injEq, Prod.mk.injEq, true_and]
  constructor
  · rintro ⟨number, rest, ⟨bound, rfl⟩, a, found, rfl, rfl⟩
    obtain ⟨inside, rfl⟩ := List.getElem?_eq_some_iff.mp found
    rw [once.idxOf_getElem]
  · rintro rfl
    have inside := List.idxOf_lt_length_iff.mpr (complete a)
    exact ⟨_, rest, ⟨by omega, rfl⟩, a, by simp [inside], rfl, rfl⟩

end Codec

end Metamorph
