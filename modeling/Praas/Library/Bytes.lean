import Mathlib.Data.List.Basic
import Mathlib.Data.List.TakeWhile
import Mathlib.Tactic.Ring

namespace Praas
namespace Library

/-!
# Fixed-size buffers, little-endian integers and padded C strings

A C program writes a message by casting positions of a fixed buffer to
integers and by copying strings with `strncpy`.  A `Frame` is such a buffer,
with its size as a field, and a store carries the proof that it stays inside.
The laws below say what a later load returns: the stored bytes at the same
place, and the old bytes at every disjoint place.

Integers are taken as mathematical integers and reduced to their width when
they are encoded, so that a narrowing store is the same encoder with a
smaller width.
-/

/-- A sequence of bytes; also the contents of a C++ string. -/
abbrev Bytes := List UInt8

instance lawfulBEqBytes : LawfulBEq Bytes := inferInstance

/-- The bytes of a text whose characters are all ASCII. -/
def ascii (text : String) : Bytes :=
  text.toList.map (fun character => UInt8.ofNat character.toNat)

/-! ## Little-endian integers -/

/-- The `width` little-endian bytes of an integer, reduced modulo `256 ^
width`. -/
def encodeInt : Nat -> Int -> Bytes
  | 0, _ => []
  | width + 1, value => UInt8.ofNat (value % 256).toNat :: encodeInt width (value / 256)

/-- The natural number with the given little-endian bytes. -/
def littleEndian : Bytes -> Nat
  | [] => 0
  | byte :: rest => byte.toNat + 256 * littleEndian rest

/-- The signed integer with the given little-endian bytes, in two's complement, as
the source reads it through a pointer to the first of them. -/
def decodeInt (bytes : Bytes) : Int :=
  Int.bmod (littleEndian bytes) (256 ^ bytes.length)

@[simp] theorem encodeInt_length (width : Nat) (value : Int) :
    (encodeInt width value).length = width := by
  induction width generalizing value with
  | zero => rfl
  | succ width inductionHypothesis =>
      simp only [encodeInt, List.length_cons, inductionHypothesis]

theorem littleEndian_encodeInt (width : Nat) (value : Int) :
    (littleEndian (encodeInt width value) : Int) = value % (256 ^ width : Nat) := by
  induction width generalizing value with
  | zero => simp [encodeInt, littleEndian]
  | succ width inductionHypothesis =>
      have small : (value % 256).toNat < 256 := by omega
      have head : ((UInt8.ofNat (value % 256).toNat).toNat : Int) = value % 256 := by
        rw [UInt8.toNat_ofNat', Nat.mod_eq_of_lt small]
        omega
      rw [encodeInt, littleEndian, Nat.cast_add, Nat.cast_mul, head, inductionHypothesis]
      push_cast
      rw [pow_succ', Int.emod_def value (256 * _), Int.emod_def (value / 256),
        Int.emod_def value 256, Int.ediv_ediv_of_nonneg (by decide)]
      ring

/-- Decoding an encoding returns the value reduced to the encoded width. -/
theorem decodeInt_encodeInt (width : Nat) (value : Int) :
    decodeInt (encodeInt width value) = Int.bmod value (256 ^ width) := by
  rw [decodeInt, littleEndian_encodeInt, encodeInt_length, Int.emod_bmod]

/-- The values of a signed integer of `width` bytes. -/
def IsSigned (width : Nat) (value : Int) : Prop :=
  -(256 ^ width : Nat) ≤ 2 * value ∧ 2 * value < (256 ^ width : Nat)

instance (width : Nat) (value : Int) : Decidable (IsSigned width value) :=
  instDecidableAnd

/-- A value that fits its width is decoded unchanged. -/
theorem decodeInt_encodeInt_of_signed {width : Nat} {value : Int} (fits : IsSigned width value) :
    decodeInt (encodeInt width value) = value := by
  unfold IsSigned at fits
  rw [decodeInt_encodeInt, Int.bmod_eq_iff (Nat.pow_pos (by decide)), Int.sub_self]
  exact ⟨by omega, by omega, Int.dvd_zero _⟩

theorem decodeInt_signed (bytes : Bytes) : IsSigned bytes.length (decodeInt bytes) := by
  have positive : 0 < 256 ^ bytes.length := Nat.pow_pos (by decide)
  have low : -((256 ^ bytes.length : Nat) / 2 : Int) ≤ decodeInt bytes := Int.le_bmod positive
  have high : decodeInt bytes < ((256 ^ bytes.length : Nat) + 1) / 2 := Int.bmod_lt positive
  unfold IsSigned
  omega

/-- An encoding is made of the encoding of its low part and that of its high
part. -/
theorem encodeInt_add (low high : Nat) (value : Int) :
    encodeInt (low + high) value = encodeInt low value ++ encodeInt high (value / 256 ^ low) := by
  induction low generalizing value with
  | zero => simp [encodeInt]
  | succ low inductionHypothesis =>
      rw [Nat.succ_add, encodeInt, encodeInt, inductionHypothesis, List.cons_append, pow_succ',
        Int.ediv_ediv_of_nonneg (by decide)]

theorem littleEndian_append (low high : Bytes) :
    littleEndian (low ++ high) = littleEndian low + 256 ^ low.length * littleEndian high := by
  induction low with
  | nil => simp [littleEndian]
  | cons byte rest inductionHypothesis =>
      rw [List.cons_append, littleEndian, littleEndian, inductionHypothesis, List.length_cons,
        pow_succ']
      ring

theorem littleEndian_append_zeros (bytes : Bytes) (count : Nat) :
    littleEndian (bytes ++ List.replicate count 0) = littleEndian bytes := by
  induction bytes with
  | nil =>
      induction count with
      | zero => rfl
      | succ count inductionHypothesis =>
          simp only [List.nil_append, littleEndian] at inductionHypothesis ⊢
          simp [List.replicate_succ, littleEndian, inductionHypothesis]
  | cons byte rest inductionHypothesis =>
      simp only [List.cons_append, littleEndian, inductionHypothesis]

/-- The value of a 32-bit signed variable after an assignment. -/
def int32 (value : Int) : Int :=
  Int.bmod value (2 ^ 32)

theorem int32_of_range {value : Int} (low : -2 ^ 31 ≤ value) (high : value < 2 ^ 31) :
    int32 value = value := by
  unfold int32
  rw [Int.bmod_eq_iff (by decide)]
  omega

theorem int32_signed (value : Int) : IsSigned 4 (int32 value) := by
  have low : -((2 ^ 32 : Nat) / 2 : Int) ≤ int32 value := Int.le_bmod (by decide)
  have high : int32 value < ((2 ^ 32 : Nat) + 1) / 2 := Int.bmod_lt (by decide)
  unfold IsSigned
  omega

/-! ## Buffers -/

/-- A buffer of a fixed number of bytes, as an array of the source is.  A write
past its end cannot be stated. -/
structure Frame (size : Nat) where
  data : Bytes
  size_eq : data.length = size

namespace Frame

variable {size : Nat}

theorem ext {first second : Frame size} (same : first.data = second.data) : first = second := by
  cases first
  cases second
  cases same
  rfl

def zeros (size : Nat) : Frame size :=
  ⟨List.replicate size 0, List.length_replicate⟩

/-- Overwrite the bytes from `offset` on; the proof keeps the write inside. -/
def store (frame : Frame size) (offset : Nat) (bytes : Bytes)
    (fits : offset + bytes.length ≤ size) : Frame size :=
  ⟨frame.data.take offset ++ (bytes ++ frame.data.drop (offset + bytes.length)), by
    have total := frame.size_eq
    simp only [List.length_append, List.length_take, List.length_drop]
    omega⟩

theorem store_whole (old new : Frame size) (fits : 0 + new.data.length ≤ size) :
    old.store 0 new.data fits = new := by
  apply ext
  have nothing : old.data.drop (0 + new.data.length) = [] := by
    apply List.drop_of_length_le
    rw [old.size_eq, new.size_eq, Nat.zero_add]
  change old.data.take 0 ++ (new.data ++ old.data.drop (0 + new.data.length)) = new.data
  rw [nothing, List.take_zero, List.nil_append, List.append_nil]

/-- A buffer with the end of another becomes the other once the start of that
is stored in it. -/
theorem store_take (frame other : Frame size) {count : Nat} (inside : count ≤ size)
    (same : frame.data.drop count = other.data.drop count)
    (fits : 0 + (other.data.take count).length ≤ size) :
    frame.store 0 (other.data.take count) fits = other := by
  apply ext
  have length : (other.data.take count).length = count := by
    rw [List.length_take, other.size_eq, Nat.min_eq_left inside]
  change frame.data.take 0 ++ (other.data.take count ++
    frame.data.drop (0 + (other.data.take count).length)) = other.data
  rw [length, Nat.zero_add, same, List.take_append_drop, List.take_zero, List.nil_append]

/-- The `width` bytes from `offset` on. -/
def load (frame : Frame size) (offset width : Nat) : Bytes :=
  (frame.data.drop offset).take width

theorem load_whole (frame : Frame size) : frame.load 0 size = frame.data := by
  rw [load, List.drop_zero]
  exact List.take_of_length_le (Nat.le_of_eq frame.size_eq)

theorem load_length (frame : Frame size) (offset width : Nat) (inside : offset + width ≤ size) :
    (frame.load offset width).length = width := by
  rw [load, List.length_take, List.length_drop, frame.size_eq]
  omega

theorem load_zeros (offset width : Nat) (inside : offset + width ≤ size) :
    (zeros size).load offset width = List.replicate width 0 := by
  simp only [load, zeros, List.drop_replicate, List.take_replicate]
  rw [Nat.min_eq_left (by omega)]

/-- A load of exactly the stored range returns the stored bytes. -/
theorem load_store_same (frame : Frame size) (offset width : Nat) (bytes : Bytes)
    (fits : offset + bytes.length ≤ size) (wide : bytes.length = width) :
    (frame.store offset bytes fits).load offset width = bytes := by
  have total := frame.size_eq
  have start : (frame.data.take offset).length = offset := by
    rw [List.length_take]
    omega
  simp only [load, store]
  rw [List.drop_left' start, ← wide, List.take_left]

/-- A load that does not meet the stored range sees the old bytes. -/
theorem load_store_disjoint (frame : Frame size) (offset width place : Nat) (bytes : Bytes)
    (fits : place + bytes.length ≤ size)
    (apart : offset + width ≤ place ∨ place + bytes.length ≤ offset) :
    (frame.store place bytes fits).load offset width = frame.load offset width := by
  have total := frame.size_eq
  have start : (frame.data.take place).length = place := by
    rw [List.length_take]
    omega
  simp only [load, store]
  rcases apart with before | after
  · rw [List.drop_append_of_le_length (by omega), List.take_append_of_le_length (by
      rw [List.length_drop]
      omega), List.drop_take, List.take_take, Nat.min_eq_left (by omega)]
  · have split : offset = place + (bytes.length + (offset - place - bytes.length)) := by omega
    have whole : (frame.data.take place ++ (bytes ++ frame.data.drop (place + bytes.length))).drop offset =
        frame.data.drop offset := by
      conv_lhs => rw [split, ← List.drop_drop, List.drop_left' start, ← List.drop_drop,
        List.drop_left, List.drop_drop]
      congr 1
      omega
    rw [whole]

theorem load_append (frame : Frame size) (offset first second : Nat) :
    frame.load offset (first + second) =
      frame.load offset first ++ frame.load (offset + first) second := by
  simp only [load, List.take_add, List.drop_drop]

end Frame

/-! ## C strings in fixed fields -/

/-- No byte of the text is the terminator. -/
def NulFree (text : Bytes) : Prop :=
  forall byte, byte ∈ text -> byte ≠ 0

instance (text : Bytes) : Decidable (NulFree text) :=
  List.decidableBAll (fun byte => byte ≠ 0) text

/-- The part of a text before its first terminator. -/
def untilNul (text : Bytes) : Bytes :=
  text.takeWhile (fun byte => byte != 0)

/-- The bytes that `strncpy` writes into a field of the given width: the text
up to its terminator, cut to the width, and zeros up to the width. -/
def paddedField (width : Nat) (text : Bytes) : Bytes :=
  (untilNul text).take width ++ List.replicate (width - ((untilNul text).take width).length) 0

@[simp] theorem paddedField_length (width : Nat) (text : Bytes) :
    (paddedField width text).length = width := by
  simp only [paddedField, List.length_append, List.length_take, List.length_replicate]
  omega

theorem untilNul_of_nulFree {text : Bytes} (free : NulFree text) : untilNul text = text := by
  apply List.takeWhile_eq_self_iff.mpr
  intro byte member
  exact bne_iff_ne.mpr (free byte member)

theorem paddedField_full {width : Nat} {text : Bytes} (free : NulFree text)
    (full : text.length = width) : paddedField width text = text := by
  have uncut : text.take width = text := List.take_of_length_le (Nat.le_of_eq full)
  rw [paddedField, untilNul_of_nulFree free, uncut, full, Nat.sub_self, List.replicate_zero,
    List.append_nil]

theorem nulFree_untilNul (text : Bytes) : NulFree (untilNul text) := by
  intro byte member
  have kept := List.mem_takeWhile_imp (p := fun byte : UInt8 => byte != 0) member
  exact bne_iff_ne.mp kept

/-- Padding is not read back. -/
theorem untilNul_append_zeros {text : Bytes} (free : NulFree text) (count : Nat) :
    untilNul (text ++ List.replicate count 0) = text := by
  rw [untilNul,
    List.takeWhile_append_of_pos (fun byte member => bne_iff_ne.mpr (free byte member))]
  cases count with
  | zero => simp
  | succ count => simp [List.replicate_succ]

/-- A field is read back as its text up to the terminator, cut to the width. -/
theorem untilNul_paddedField_take (width : Nat) (text : Bytes) :
    untilNul (paddedField width text) = (untilNul text).take width := by
  apply untilNul_append_zeros
  intro byte member
  exact nulFree_untilNul text byte (List.mem_of_mem_take member)

theorem untilNul_paddedField {width : Nat} {text : Bytes} (free : NulFree text)
    (fits : text.length ≤ width) : untilNul (paddedField width text) = text := by
  rw [untilNul_paddedField_take, untilNul_of_nulFree free, List.take_of_length_le fits]

end Library
end Praas
