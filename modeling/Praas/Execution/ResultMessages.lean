import Praas.Execution.Output

namespace Praas
namespace Execution

open Library

/-!
# What a client makes of the header of a result message

The header of `FunctionMessage` documents three kinds of messages, told apart
by the magic number and a flag.  The flag of a final message is the return code
of the function, cut to 16 bits, and the flag `-1` marks a message that is not
final.  A function that returns `-1` is therefore taken for one that announces
empty data, and a return code that needs more than 16 bits arrives as another
one.  Everything else is recovered.
-/

namespace Output

/-- The documented interpretation of a header: a message that is not final and
has a payload, the return code of an invocation, or an error. -/
inductive Meaning
  | final (returnCode : Int)
  | upcoming (size : Int)
  | systemError (number : Int)
  deriving DecidableEq

/-- The client's reading of a header, with the identifier.  Nothing is said
about a negative number. -/
def FunctionMessage.interpret (message : FunctionMessage) : Option (Meaning × Bytes) :=
  if 0 < message.number then some (.systemError message.number, message.functionId)
  else if message.number = 0 then
    if message.flag = -1 then some (.upcoming message.payloadSize, message.functionId)
    else some (.final message.flag, message.functionId)
  else none

/-- The calls of the three fill functions.  A return code is an `int`, and so
is the size of a payload. -/
inductive Fill
  | fillEnd (returnCode : Int32)
  | fillPayload (size : Int32)
  | fillError (status : Status)

def Fill.apply (message : FunctionMessage) (functionId : Bytes) : Fill -> FunctionMessage
  | .fillEnd returnCode => FunctionMessage.fillEnd message returnCode.toInt functionId
  | .fillPayload size => FunctionMessage.fillPayload message size.toInt functionId
  | .fillError status => FunctionMessage.fillError message status functionId

def Fill.meaning : Fill -> Meaning
  | .fillEnd returnCode => .final returnCode.toInt
  | .fillPayload size => .upcoming size.toInt
  | .fillError status => .systemError status.code

/-- A return code of 16 bits other than `-1`; any size; an error other than the
number of a payload. -/
def Fill.recoverable : Fill -> Bool
  | .fillEnd returnCode => decide (IsSigned 2 returnCode.toInt ∧ returnCode.toInt ≠ -1)
  | .fillPayload _ => true
  | .fillError status => decide (status ≠ .payload)

section Interpret

variable (message : FunctionMessage) (id : InvocationId)

theorem functionId_interpreted (number flag size : Int) :
    (FunctionMessage.fill message number flag size id.bytes).functionId = id.bytes := by
  rw [FunctionMessage.functionId_fill, untilNul_paddedField id.nulFree id.fits]

/-- The two kinds of messages with number zero, as the client reads them. -/
theorem interpret_zero (flag size : Int) :
    (FunctionMessage.fill message 0 flag size id.bytes).interpret =
      some (if Int.bmod flag (256 ^ 2) = -1 then .upcoming (Int.bmod size (256 ^ 4))
        else .final (Int.bmod flag (256 ^ 2)), id.bytes) := by
  have zero : Int.bmod 0 (256 ^ 2) = 0 := rfl
  simp only [FunctionMessage.interpret, FunctionMessage.number_fill, FunctionMessage.flag_fill,
    FunctionMessage.payloadSize_fill, functionId_interpreted, zero, Int.lt_irrefl, if_false, if_true]
  split <;> rfl

/-- The field of a return code keeps those of 16 bits. -/
theorem bmod_eq_self_iff (returnCode : Int) :
    Int.bmod returnCode (256 ^ 2) = returnCode ↔ IsSigned 2 returnCode := by
  have low : -(256 ^ 2 / 2 : Int) ≤ Int.bmod returnCode (256 ^ 2) := Int.le_bmod (by decide)
  have high : Int.bmod returnCode (256 ^ 2) < (256 ^ 2 + 1 : Int) / 2 := Int.bmod_lt (by decide)
  constructor
  · intro kept
    rw [kept] at low high
    unfold IsSigned
    omega
  · intro fits
    rw [← decodeInt_encodeInt, decodeInt_encodeInt_of_signed fits]

/-- What is read from the field of a return code is that code exactly if it has
16 bits and is not the flag of a message that is not final. -/
theorem meaning_ending_iff (returnCode size : Int) :
    (if Int.bmod returnCode (256 ^ 2) = -1 then Meaning.upcoming size
      else .final (Int.bmod returnCode (256 ^ 2))) = .final returnCode ↔
        IsSigned 2 returnCode ∧ returnCode ≠ -1 := by
  rw [← bmod_eq_self_iff]
  constructor
  · intro recovered
    split at recovered
    · cases recovered
    · rename_i final
      have kept : Int.bmod returnCode (256 ^ 2) = returnCode := Meaning.final.inj recovered
      exact ⟨kept, kept ▸ final⟩
  · rintro ⟨kept, final⟩
    rw [kept, if_neg final]

theorem interpret_ending_iff (returnCode : Int) :
    (FunctionMessage.fillEnd message returnCode id.bytes).interpret =
      some (.final returnCode, id.bytes) ↔ IsSigned 2 returnCode ∧ returnCode ≠ -1 := by
  have read : (FunctionMessage.fillEnd message returnCode id.bytes).interpret = _ :=
    interpret_zero message id returnCode 0
  rw [read, Option.some.injEq, Prod.mk.injEq, and_iff_left rfl]
  exact meaning_ending_iff returnCode _

theorem interpret_payload (size : Int32) :
    (FunctionMessage.fillPayload message size.toInt id.bytes).interpret =
      some (.upcoming size.toInt, id.bytes) := by
  have low := size.le_toInt
  have high := size.toInt_lt
  have kept : Int.bmod size.toInt (256 ^ 4) = size.toInt := by
    rw [Int.bmod_eq_iff (by decide)]
    omega
  have read : (FunctionMessage.fillPayload message size.toInt id.bytes).interpret = _ :=
    interpret_zero message id (-1) size.toInt
  have marked : Int.bmod (-1) (256 ^ 2) = -1 := rfl
  rw [read, kept, marked, if_pos rfl]

theorem interpret_error_iff (status : Status) :
    (FunctionMessage.fillError message status id.bytes).interpret =
      some (.systemError status.code, id.bytes) ↔ status ≠ .payload := by
  have number : (FunctionMessage.fillError message status id.bytes).number = status.code := by
    unfold FunctionMessage.fillError
    rw [FunctionMessage.number_fill]
    cases status <;> rfl
  have own : (FunctionMessage.fillError message status id.bytes).functionId = id.bytes :=
    functionId_interpreted message id _ _ _
  unfold FunctionMessage.interpret
  rw [number, own]
  cases status with
  | payload =>
      simp only [Status.code, Int.lt_irrefl, if_false, if_true, ne_eq, not_true_eq_false, iff_false]
      split <;> simp only [Option.some.injEq, Prod.mk.injEq, reduceCtorEq, false_and,
        not_false_eq_true]
  | unknownRequest => simp [Status.code]
  | outOfMemory => simp [Status.code]
  | unknownFunction => simp [Status.code]

/-- A client recovers kind, value and identifier of a message exactly if its
return code is one of 16 bits other than `-1`, or its error is a real one. -/
theorem result_recovered_iff (fill : Fill) :
    (fill.apply message id.bytes).interpret = some (fill.meaning, id.bytes) ↔
      fill.recoverable = true := by
  cases fill with
  | fillEnd returnCode =>
      rw [Fill.recoverable, decide_eq_true_eq]
      exact interpret_ending_iff message id returnCode.toInt
  | fillPayload size => exact iff_of_true (interpret_payload message id size) rfl
  | fillError status =>
      rw [Fill.recoverable, decide_eq_true_eq]
      exact interpret_error_iff message id status

end Interpret

/-- A function that returns `-1` and one that announces no data write the same
bytes, so a client cannot recover both. -/
theorem minus_one_not_recovered :
    (Fill.fillEnd (-1)).apply (Frame.zeros bufSize) (ascii "1") =
        (Fill.fillPayload 0).apply (Frame.zeros bufSize) (ascii "1") ∧
      ((Fill.fillEnd (-1)).apply (Frame.zeros bufSize) (ascii "1")).interpret ≠
        some ((Fill.fillEnd (-1)).meaning, ascii "1") := by
  refine ⟨?_, ?_⟩
  · apply Frame.ext
    decide
  · decide

/-! ## Messages on the stream -/

/-- The documented interpretation of a message that was taken off the stream,
with the data that followed its header. -/
def Message.interpret (message : Message) : Option (Meaning × Bytes) :=
  if 0 < message.number then some (.systemError message.number, message.payload)
  else if message.number = 0 then
    if message.flag = -1 then some (.upcoming message.payload.length, message.payload)
    else some (.final message.flag, message.payload)
  else none

/-- What a function means by a call on its channel: data, its return code, or
an error. -/
def Call.intended : Call -> Meaning × Bytes
  | .send payload => (.upcoming payload.bytes.length, payload.bytes)
  | .markEnd returnCode => (.final returnCode, [])
  | .sendError status => (.systemError status.code, [])

/-- Any data, a return code of 16 bits other than `-1`, and a real error. -/
def Call.recoverable : Call -> Bool
  | .send _ => true
  | .markEnd returnCode => decide (IsSigned 2 returnCode ∧ returnCode ≠ -1)
  | .sendError status => decide (status ≠ .payload)

/-- The client reads what was meant by a call exactly if the call is
recoverable. -/
theorem interpret_message_iff (call : Call) :
    call.message.interpret = some call.intended ↔ call.recoverable = true := by
  cases call with
  | send payload => exact iff_of_true rfl rfl
  | markEnd returnCode =>
      have read : (Call.markEnd returnCode).message.interpret =
          some (if Int.bmod returnCode (256 ^ 2) = -1 then .upcoming 0
            else .final (Int.bmod returnCode (256 ^ 2)), []) := by
        have cut : (2 : Nat) ^ 16 = 256 ^ 2 := rfl
        simp only [Call.message, Message.interpret, Status.code, Int.lt_irrefl, if_false, if_true,
          cut]
        split <;> rfl
      rw [read, Call.intended, Call.recoverable, decide_eq_true_eq, Option.some.injEq,
        Prod.mk.injEq, and_iff_left rfl]
      exact meaning_ending_iff returnCode 0
  | sendError status => cases status <;> decide

end Output
end Execution
end Praas
