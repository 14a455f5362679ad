import Praas.Library.Bytes

namespace Praas
namespace Library

/-!
# Reading from a stream socket

The reads of one end of a connection meet a sequence of arrivals: segments of
bytes, and reads that fail.  After the last arrival the peer has closed the
connection and a read returns zero.  A plain read returns at most what is left
of one segment; `readN` repeats it until it has the bytes it was asked for, or
the connection ends or fails.
-/

/-- What a read meets: a segment of the bytes that were sent, or a failure.  Where
there is nothing left the connection has ended. -/
inductive Arrival
  | segment (bytes : Bytes)
  | failure
  deriving DecidableEq

/-- The result of a read: the value returned, the bytes placed in the buffer
and what is left on the connection. -/
structure ReadResult where
  count : Int
  bytes : Bytes
  rest : List Arrival

/-- A read of at most `size` bytes. -/
def read (size : Nat) : List Arrival -> ReadResult
  | [] => ⟨0, [], []⟩
  | .failure :: rest => ⟨-1, [], rest⟩
  | .segment [] :: rest => read size rest
  | .segment (byte :: bytes) :: rest =>
      ⟨((byte :: bytes).take size).length, (byte :: bytes).take size,
        .segment ((byte :: bytes).drop size) :: rest⟩

/-- Read `size` bytes.  The result is `-1` only when nothing was read before
the failure. -/
def readN (size : Nat) : List Arrival -> ReadResult
  | [] => ⟨0, [], []⟩
  | .failure :: rest => if size = 0 then ⟨0, [], .failure :: rest⟩ else ⟨-1, [], rest⟩
  | .segment bytes :: rest =>
      if bytes.length < size then
        let later := readN (size - bytes.length) rest
        ⟨if bytes = [] then later.count else bytes.length + max later.count 0,
          bytes ++ later.bytes, later.rest⟩
      else ⟨size, bytes.take size, .segment (bytes.drop size) :: rest⟩

theorem read_length_le (size : Nat) (arrivals : List Arrival) :
    (read size arrivals).bytes.length ≤ size := by
  fun_induction read size arrivals with
  | case1 => exact Nat.zero_le _
  | case2 => exact Nat.zero_le _
  | case3 rest inductionHypothesis => exact inductionHypothesis
  | case4 => exact List.length_take_le _ _

/-- What a read returns fits at the start of a buffer of the size asked for. -/
theorem read_fits (size : Nat) (arrivals : List Arrival) :
    0 + (read size arrivals).bytes.length ≤ size := by
  rw [Nat.zero_add]
  exact read_length_le size arrivals

theorem readN_length_le (size : Nat) (arrivals : List Arrival) :
    (readN size arrivals).bytes.length ≤ size := by
  fun_induction readN size arrivals with
  | case1 => exact Nat.zero_le _
  | case2 => exact Nat.zero_le _
  | case3 => exact Nat.zero_le _
  | case4 size bytes rest short later inductionHypothesis =>
      change later.bytes.length ≤ _ at inductionHypothesis
      rw [List.length_append]
      omega
  | case5 => exact List.length_take_le _ _

theorem readN_fits (size : Nat) (arrivals : List Arrival) :
    0 + (readN size arrivals).bytes.length ≤ size := by
  rw [Nat.zero_add]
  exact readN_length_le size arrivals

/-- The value that `readN` returns is the number of bytes read; without any it
may also be the mark of a failure. -/
theorem readN_count (size : Nat) (arrivals : List Arrival) :
    (readN size arrivals).count = (readN size arrivals).bytes.length ∨
      ((readN size arrivals).count = -1 ∧ (readN size arrivals).bytes = []) := by
  fun_induction readN size arrivals with
  | case1 => exact Or.inl rfl
  | case2 => exact Or.inl rfl
  | case3 => exact Or.inr ⟨rfl, rfl⟩
  | case4 size bytes rest short later inductionHypothesis =>
      change later.count = later.bytes.length ∨ _ ∧ later.bytes = [] at inductionHypothesis
      by_cases empty : bytes = []
      · rw [if_pos empty, empty, List.nil_append]
        exact inductionHypothesis
      · rw [if_neg empty]
        left
        dsimp only
        rcases inductionHypothesis with counted | ⟨failed, nothing⟩
        · rw [counted, List.length_append]
          omega
        · rw [failed, nothing, List.append_nil]
          omega
  | case5 size bytes rest long =>
      left
      rw [List.length_take, Nat.min_eq_left (Nat.le_of_not_lt long)]

/-- What is still to be read, with every arrival counted once more. -/
def remaining : List Arrival -> Nat
  | [] => 0
  | .failure :: rest => 1 + remaining rest
  | .segment bytes :: rest => 1 + bytes.length + remaining rest

/-- Every read that is not the end of the connection uses something up. -/
theorem remaining_read_lt {size : Nat} (positive : 0 < size) {arrivals : List Arrival}
    (unfinished : (read size arrivals).count ≠ 0) :
    remaining (read size arrivals).rest < remaining arrivals := by
  fun_induction read size arrivals with
  | case1 => exact False.elim (unfinished rfl)
  | case2 rest => simp only [remaining]; omega
  | case3 rest inductionHypothesis =>
      have fewer := inductionHypothesis unfinished
      simp only [remaining, List.length_nil]
      omega
  | case4 byte bytes rest =>
      simp only [remaining, List.length_drop, List.length_cons]
      omega

theorem remaining_readN_le (size : Nat) (arrivals : List Arrival) :
    remaining (readN size arrivals).rest ≤ remaining arrivals := by
  fun_induction readN size arrivals with
  | case1 => exact Nat.le_refl _
  | case2 => exact Nat.le_refl _
  | case3 => simp only [remaining]; omega
  | case4 size bytes rest short later inductionHypothesis =>
      change remaining later.rest ≤ _ at inductionHypothesis
      simp only [remaining]
      omega
  | case5 size bytes rest long =>
      simp only [remaining, List.length_drop]
      omega

/-- A connection on which no read fails. -/
def delivered (segments : List Bytes) : List Arrival :=
  segments.map .segment

@[simp] theorem delivered_cons (segment : Bytes) (segments : List Bytes) :
    delivered (segment :: segments) = .segment segment :: delivered segments := rfl

theorem delivered_injective : Function.Injective delivered :=
  List.map_injective_iff.mpr (fun _ _ same => Arrival.segment.inj same)

theorem read_delivered (size : Nat) (segments : List Bytes) :
    Exists fun rest => (read size (delivered segments)).rest = delivered rest ∧
      segments.flatten = (read size (delivered segments)).bytes ++ rest.flatten ∧
      (read size (delivered segments)).count = (read size (delivered segments)).bytes.length := by
  induction segments with
  | nil => exact ⟨[], rfl, rfl, rfl⟩
  | cons segment segments inductionHypothesis =>
      cases segment with
      | nil => exact inductionHypothesis
      | cons byte bytes =>
          refine ⟨(byte :: bytes).drop size :: segments, rfl, ?_, rfl⟩
          simp only [delivered_cons, read, List.flatten_cons, ← List.append_assoc,
            List.take_append_drop]

/-- A read that returns as many bytes as a buffer has that was sent first
returns that buffer. -/
theorem read_whole {size : Nat} {segments : List Bytes} {frame : Frame size} {tail : Bytes}
    (stream : segments.flatten = frame.data ++ tail)
    (whole : (read size (delivered segments)).count = size) :
    Exists fun rest => read size (delivered segments) = ⟨size, frame.data, delivered rest⟩ ∧
      rest.flatten = tail := by
  rcases read_delivered size segments with ⟨rest, left, split, counted⟩
  rw [counted] at whole
  have sameLength : (read size (delivered segments)).bytes.length = frame.data.length := by
    rw [frame.size_eq]
    exact_mod_cast whole
  rcases List.append_inj (split.symm.trans stream) sameLength with ⟨sameBytes, sameRest⟩
  refine ⟨rest, ?_, sameRest⟩
  cases result : read size (delivered segments) with
  | mk count bytes remains =>
      rw [result] at left counted whole sameBytes
      dsimp only at left counted whole sameBytes
      rw [counted, whole, sameBytes, left]

/-- `readN` takes the bytes it is asked for off the front, or all there are. -/
theorem readN_split (size : Nat) (segments : List Bytes) :
    Exists fun rest => readN size (delivered segments) =
        ⟨(segments.flatten.take size).length, segments.flatten.take size, delivered rest⟩ ∧
      rest.flatten = segments.flatten.drop size := by
  induction segments generalizing size with
  | nil => exact ⟨[], by rw [List.flatten_nil, List.take_nil]; rfl, by
      rw [List.flatten_nil, List.drop_nil]⟩
  | cons segment segments inductionHypothesis =>
      simp only [delivered_cons, readN, List.flatten_cons]
      split
      · rename_i short
        rcases inductionHypothesis (size - segment.length) with ⟨rest, later, remains⟩
        refine ⟨rest, ?_, ?_⟩
        · rw [later, List.take_append, List.take_of_length_le (Nat.le_of_lt short),
            List.length_append]
          split
          · rename_i empty
            simp only [empty, List.length_nil, Nat.zero_add]
          · simp only [ReadResult.mk.injEq, and_true]
            omega
        · rw [remains, List.drop_append, List.drop_of_length_le (Nat.le_of_lt short),
            List.nil_append]
      · rename_i long
        have inside : size ≤ segment.length := Nat.le_of_not_lt long
        refine ⟨segment.drop size :: segments, ?_, ?_⟩
        · rw [List.take_append_of_le_length inside, List.length_take, Nat.min_eq_left inside]
          rfl
        · rw [List.flatten_cons, List.drop_append_of_le_length inside]

/-- With enough bytes before whatever follows, `readN` looks no further. -/
theorem readN_front (size : Nat) (segments : List Bytes) (later : List Arrival)
    (enough : size ≤ segments.flatten.length) (positive : 0 < size) :
    Exists fun rest => readN size (delivered segments ++ later) =
        ⟨size, segments.flatten.take size, delivered rest ++ later⟩ ∧
      rest.flatten = segments.flatten.drop size := by
  induction segments generalizing size with
  | nil => exact False.elim (Nat.not_le_of_lt positive enough)
  | cons segment segments inductionHypothesis =>
      simp only [delivered_cons, List.cons_append, readN, List.flatten_cons] at enough ⊢
      rw [List.length_append] at enough
      split
      · rename_i short
        rcases inductionHypothesis (size - segment.length) (by omega) (by omega) with
          ⟨rest, result, remains⟩
        refine ⟨rest, ?_, ?_⟩
        · rw [result, List.take_append, List.take_of_length_le (Nat.le_of_lt short)]
          split
          · rename_i empty
            simp only [empty, List.length_nil, Nat.sub_zero]
          · simp only [ReadResult.mk.injEq, and_true]
            omega
        · rw [remains, List.drop_append, List.drop_of_length_le (Nat.le_of_lt short),
            List.nil_append]
      · rename_i long
        have inside : size ≤ segment.length := Nat.le_of_not_lt long
        refine ⟨segment.drop size :: segments, ?_, ?_⟩
        · rw [List.take_append_of_le_length inside]
          rfl
        · rw [List.flatten_cons, List.drop_append_of_le_length inside]

theorem readN_failure (size : Nat) (segments : List Bytes) (later : List Arrival)
    (empty : segments.flatten = []) (positive : 0 < size) :
    readN size (delivered segments ++ .failure :: later) = ⟨-1, [], later⟩ := by
  induction segments with
  | nil => exact if_neg (Nat.ne_of_gt positive)
  | cons segment segments inductionHypothesis =>
      rw [List.flatten_cons, List.append_eq_nil_iff] at empty
      simp only [delivered_cons, List.cons_append, readN, empty.1, List.length_nil, positive,
        if_true, Nat.sub_zero, List.nil_append, inductionHypothesis empty.2]

theorem readN_delivered (size : Nat) (segments : List Bytes)
    (enough : size ≤ segments.flatten.length) :
    (readN size (delivered segments)).count = size ∧
      (readN size (delivered segments)).bytes = segments.flatten.take size := by
  rcases readN_split size segments with ⟨rest, result, _⟩
  rw [result, List.length_take, Nat.min_eq_left enough]
  exact ⟨rfl, rfl⟩

theorem readN_zero (arrivals : List Arrival) : (readN 0 arrivals).rest = arrivals := by
  cases arrivals with
  | nil => rfl
  | cons arrival rest => cases arrival <;> rfl

end Library
end Praas
