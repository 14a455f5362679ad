import Praas.Library.Bytes

namespace Praas
namespace Library

/-!
# Appending to a C string in a fixed buffer, and comparing two of them

`strcat` writes after the text that a buffer holds, up to its first
terminator, and does not know the size of the buffer.  Here it has no result
when it would write past the end.  `strncmp` compares two texts up to their
terminators, and no more characters than it is told.
-/

/-- Append the text up to its terminator to the text in the buffer. -/
def strcat {size : Nat} (frame : Frame size) (text : Bytes) : Option (Frame size) :=
  if fits : (untilNul frame.data).length + (untilNul text ++ [0]).length ≤ size then
    some (frame.store (untilNul frame.data).length (untilNul text ++ [0]) fits)
  else none

theorem untilNul_zeros (size : Nat) : untilNul (Frame.zeros size).data = [] := by
  cases size with
  | zero => rfl
  | succ size => rfl

theorem untilNul_append_nul {text : Bytes} (free : NulFree text) (rest : Bytes) :
    untilNul (text ++ 0 :: rest) = text := by
  unfold untilNul
  rw [List.takeWhile_append_of_pos (fun byte member => bne_iff_ne.mpr (free byte member)),
    List.takeWhile_cons_of_neg (by decide), List.append_nil]

/-- With room for the text and a terminator, `strcat` stays inside the buffer
and appends the text. -/
theorem strcat_of_fits {size : Nat} (frame : Frame size) (text : Bytes)
    (fits : (untilNul frame.data).length + (untilNul text).length < size) :
    Exists fun result => strcat frame text = some result ∧
      untilNul result.data = untilNul frame.data ++ untilNul text := by
  have room : (untilNul frame.data).length + (untilNul text ++ [0]).length ≤ size := by
    rw [List.length_append, List.length_singleton]
    omega
  refine ⟨_, dif_pos room, ?_⟩
  have held : frame.data.take (untilNul frame.data).length = untilNul frame.data :=
    (List.prefix_iff_eq_take.mp (List.takeWhile_prefix _)).symm
  change untilNul (frame.data.take (untilNul frame.data).length ++
    (untilNul text ++ [0] ++ frame.data.drop _)) = _
  rw [held, List.append_assoc (untilNul text), List.singleton_append, ← List.append_assoc]
  apply untilNul_append_nul
  intro byte member
  rcases List.mem_append.mp member with earlier | later
  · exact nulFree_untilNul _ byte earlier
  · exact nulFree_untilNul _ byte later

/-! ## Comparing -/

/-- `strncmp` with the given length is not zero: at a place within the length
that neither text ends before, the texts have different characters. -/
def DiffersWithin (length : Nat) (first second : Bytes) : Prop :=
  Exists fun place => place < length ∧ first.getD place 0 ≠ second.getD place 0 ∧
    forall earlier, earlier < place -> first.getD earlier 0 ≠ 0 ∧ second.getD earlier 0 ≠ 0

theorem take_untilNul_succ (length : Nat) (text : Bytes) :
    (untilNul text).take (length + 1) =
      if text.getD 0 0 = 0 then [] else text.getD 0 0 :: (untilNul text.tail).take length := by
  cases text with
  | nil => rfl
  | cons byte rest =>
      by_cases ends : byte = 0
      · rw [List.getD_cons_zero, if_pos ends, ends]
        rfl
      · have kept : (byte != 0) = true := bne_iff_ne.mpr ends
        rw [List.getD_cons_zero, if_neg ends, untilNul,
          List.takeWhile_cons_of_pos (p := fun byte => byte != 0) kept, List.take_succ_cons]
        rfl

theorem getD_tail (text : Bytes) (place : Nat) : text.tail.getD place 0 = text.getD (place + 1) 0 := by
  cases text with
  | nil => rfl
  | cons byte rest => rw [List.tail_cons, List.getD_cons_succ]

/-- A difference is at the first place, or in the rests of two texts that do
not end there. -/
theorem differsWithin_succ (length : Nat) (first second : Bytes) :
    DiffersWithin (length + 1) first second ↔
      first.getD 0 0 ≠ second.getD 0 0 ∨
        (first.getD 0 0 ≠ 0 ∧ second.getD 0 0 ≠ 0 ∧
          DiffersWithin length first.tail second.tail) := by
  constructor
  · rintro ⟨place, inside, differ, earlier⟩
    cases place with
    | zero => exact Or.inl differ
    | succ place =>
        have start := earlier 0 (Nat.succ_pos place)
        refine Or.inr ⟨start.1, start.2, place, Nat.lt_of_succ_lt_succ inside, ?_, ?_⟩
        · rw [getD_tail, getD_tail]
          exact differ
        · intro before less
          rw [getD_tail, getD_tail]
          exact earlier (before + 1) (Nat.succ_lt_succ less)
  · rintro (differ | ⟨going, otherGoing, place, inside, differ, earlier⟩)
    · refine ⟨0, Nat.succ_pos length, differ, ?_⟩
      intro before less
      exact False.elim (Nat.not_lt_zero before less)
    · rw [getD_tail, getD_tail] at differ
      refine ⟨place + 1, Nat.succ_lt_succ inside, differ, ?_⟩
      intro before less
      cases before with
      | zero => exact ⟨going, otherGoing⟩
      | succ before =>
          have rests := earlier before (Nat.lt_of_succ_lt_succ less)
          rw [getD_tail, getD_tail] at rests
          exact rests

/-- Two texts leave different contents in a field of some width exactly when
`strncmp` with that width tells them apart. -/
theorem take_untilNul_ne_iff (length : Nat) (first second : Bytes) :
    (untilNul first).take length ≠ (untilNul second).take length ↔
      DiffersWithin length first second := by
  induction length generalizing first second with
  | zero =>
      constructor
      · intro differ
        exact False.elim (differ rfl)
      · rintro ⟨place, inside, -⟩
        exact False.elim (Nat.not_lt_zero place inside)
  | succ length inductionHypothesis =>
      rw [differsWithin_succ, ← inductionHypothesis, take_untilNul_succ, take_untilNul_succ]
      generalize first.getD 0 0 = firstHead
      generalize second.getD 0 0 = secondHead
      by_cases firstEnds : firstHead = 0
      · by_cases secondEnds : secondHead = 0
        · simp [firstEnds, secondEnds]
        · simp [firstEnds, secondEnds, Ne.symm secondEnds]
      · by_cases secondEnds : secondHead = 0
        · simp [firstEnds, secondEnds]
        · rw [if_neg firstEnds, if_neg secondEnds, Ne, List.cons_eq_cons, not_and_or]
          simp only [firstEnds, secondEnds, ne_eq, not_false_eq_true, true_and]

/-! ## Fields of a fixed width -/

theorem take_paddedField {width : Nat} {text : Bytes} {place : Nat}
    (inside : place ≤ ((untilNul text).take width).length) :
    (paddedField width text).take place = ((untilNul text).take width).take place := by
  rw [paddedField, List.take_append_of_le_length inside]

theorem drop_paddedField {width : Nat} {text : Bytes} {place : Nat}
    (outside : ((untilNul text).take width).length ≤ place) :
    (paddedField width text).drop place = List.replicate (width - place) 0 := by
  rw [paddedField, List.drop_append, List.drop_of_length_le outside, List.nil_append,
    List.drop_replicate]
  congr 1
  omega

/-- A text that fits a field is what the field holds. -/
theorem take_untilNul_of_nulFree {width : Nat} {text : Bytes} (free : NulFree text)
    (fits : text.length ≤ width) : (untilNul text).take width = text := by
  rw [untilNul_of_nulFree free, List.take_of_length_le fits]

/-- At a place that its text does not end before, a field can go on to hold
another text. -/
theorem exists_same_start {width place : Nat} (text : Bytes) (inside : place < width)
    (unended : place ≤ ((untilNul text).take width).length) :
    Exists fun other => (paddedField width other).take place = (paddedField width text).take place ∧
      (untilNul other).take width ≠ (untilNul text).take width := by
  have free : NulFree ((untilNul text).take width) :=
    fun byte member => nulFree_untilNul text byte (List.mem_of_mem_take member)
  have short : ((untilNul text).take width).length ≤ width := List.length_take_le _ _
  rw [take_paddedField unended]
  generalize (untilNul text).take width = held at free short unended ⊢
  -- the other text ends at the place, or goes on where this one ends
  suffices found : Exists fun other => NulFree other ∧ other.length ≤ width ∧
      place ≤ other.length ∧ other.take place = held.take place ∧ other ≠ held by
    rcases found with ⟨other, otherFree, fits, reaches, start, different⟩
    have holds := take_untilNul_of_nulFree otherFree fits
    refine ⟨other, ?_, ?_⟩
    · rw [take_paddedField (by rw [holds]; exact reaches), holds, start]
    · rw [holds]
      exact different
  rcases Nat.lt_or_eq_of_le unended with before | atEnd
  · have length : (held.take place).length = place := by
      rw [List.length_take, Nat.min_eq_left unended]
    refine ⟨held.take place, ?_, by omega, by omega, ?_, ?_⟩
    · intro byte member
      exact free byte (List.mem_of_mem_take member)
    · rw [List.take_take, Nat.min_self]
    · intro same
      rw [same] at length
      omega
  · have length : (held ++ [1]).length = place + 1 := by
      rw [List.length_append, List.length_singleton, atEnd]
    refine ⟨held ++ [1], ?_, by omega, by omega, ?_, ?_⟩
    · intro byte member
      rcases List.mem_append.mp member with old | new
      · exact free byte old
      · rw [List.mem_singleton.mp new]
        decide
    · rw [List.take_append_of_le_length unended]
    · intro same
      rw [same] at length
      omega

end Library
end Praas
