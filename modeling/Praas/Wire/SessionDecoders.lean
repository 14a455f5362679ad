import Praas.Wire.ProcessLink

namespace Praas
namespace Wire

open Library

/-!
# The two decoders of a session request

The layout of a session request is written down three times: by the `fill` of
`praas::common::SessionRequest`, by the accessors of the same class, and by the
runtime's `SessionRequestMsg`.  The comment above the class reserves four bytes
for the number of functions and four for the memory size, and `fill` and the
runtime keep to it.  The accessors of the class still count two bytes for the
number of functions: their memory size begins two bytes early, in the upper
half of the number of functions.
-/

/-! ## The accessors of `praas::common::SessionRequest` -/

namespace SessionRequest

def maxFunctions (request : Request) : Int := decodeInt (request.load 2 2)

def memorySize (request : Request) : Int := decodeInt (request.load 4 4)

def sessionId (request : Request) : Bytes := request.load 10 16

end SessionRequest

namespace SessionAllocation

/-- The accessors of `praas::common` return what was filled in. -/
def ReadBack (allocation : SessionAllocation) (packet : Request) : Prop :=
  SessionRequest.sessionId packet = allocation.sessionId.text ∧
    SessionRequest.maxFunctions packet = allocation.maxFunctions ∧
    SessionRequest.memorySize packet = allocation.memorySize

variable (allocation : SessionAllocation) (request : Request)

/-! ## The halves of the two numbers -/

theorem load_functions_halves :
    (allocation.fill request).load 2 2 = encodeInt 2 allocation.maxFunctions ∧
      (allocation.fill request).load 4 2 = encodeInt 2 (allocation.maxFunctions / 256 ^ 2) := by
  have whole : (allocation.fill request).load 2 4 = encodeInt 4 allocation.maxFunctions :=
    SessionRequest.load_functions_fill _ _ _ _
  rw [Frame.load_append _ 2 2 2, encodeInt_add 2 2] at whole
  apply List.append_inj whole
  rw [Frame.load_length _ 2 2 (by decide), encodeInt_length]

theorem load_memory_low :
    (allocation.fill request).load 6 2 = encodeInt 2 allocation.memorySize := by
  have whole : (allocation.fill request).load 6 4 = encodeInt 4 allocation.memorySize :=
    SessionRequest.load_memory_fill _ _ _ _
  rw [Frame.load_append _ 6 2 2, encodeInt_add 2 2] at whole
  apply (List.append_inj whole _).1
  rw [Frame.load_length _ 6 2 (by decide), encodeInt_length]

/-- What the accessor takes for the memory size: the upper half of the number
of functions with the lower half of the memory size above it. -/
theorem memorySize_fill :
    SessionRequest.memorySize (allocation.fill request) =
      Int.bmod (allocation.maxFunctions / 65536 % 65536 + 65536 * (allocation.memorySize % 65536))
        (2 ^ 32) := by
  rw [SessionRequest.memorySize, Frame.load_append _ 4 2 2,
    (load_functions_halves allocation request).2, load_memory_low, decodeInt, List.length_append,
    encodeInt_length, encodeInt_length, littleEndian_append, encodeInt_length, Nat.cast_add,
    Nat.cast_mul, littleEndian_encodeInt, littleEndian_encodeInt]
  rfl

/-- The upper half of a number that fits the lower half repeats its sign. -/
theorem upper_half_of_short {value : Int} (short : IsSigned 2 value) :
    (0 ≤ value ∧ value / 65536 % 65536 = 0) ∨ (value < 0 ∧ value / 65536 % 65536 = 65535) := by
  have bounds : -65536 ≤ 2 * value ∧ 2 * value < 65536 := short
  omega

theorem memorySize_fill_iff (short : IsSigned 2 allocation.maxFunctions) :
    SessionRequest.memorySize (allocation.fill request) = allocation.memorySize ↔
      (0 ≤ allocation.maxFunctions ∧ allocation.memorySize = 0) ∨
        (allocation.maxFunctions < 0 ∧ allocation.memorySize = -1) := by
  have fits : -2 ^ 32 ≤ 2 * allocation.memorySize ∧ 2 * allocation.memorySize < 2 ^ 32 :=
    allocation.memoryFits
  rw [memorySize_fill, Int.bmod_eq_iff (by decide)]
  rcases upper_half_of_short short with ⟨sign, upper⟩ | ⟨sign, upper⟩
  · rw [upper]
    omega
  · rw [upper]
    omega

end SessionAllocation

/-! ## When the decoders agree -/

/-- For a number of functions of 16 bits, both decoders return the three
values filled in, whatever the request object held before, exactly when the
upper half of the number of functions followed by the lower half of the memory
size happens to spell the memory size. -/
theorem session_request_decoders_agree_iff (allocation : SessionAllocation) (request : Request)
    (short : IsSigned 2 allocation.maxFunctions) :
    (allocation.ReadBack (allocation.fill request) ∧
        allocation.ReadFrom (allocation.fill request)) ↔
      (0 ≤ allocation.maxFunctions ∧ allocation.memorySize = 0) ∨
        (allocation.maxFunctions < 0 ∧ allocation.memorySize = -1) := by
  rw [← allocation.memorySize_fill_iff request short]
  constructor
  · intro agree
    exact agree.1.2.2
  · intro memory
    refine ⟨⟨?_, ?_, memory⟩, allocation.readFrom_fill request⟩
    · rw [SessionRequest.sessionId, SessionAllocation.fill, SessionRequest.load_id_fill,
        allocation.sessionId.padded]
    · rw [SessionRequest.maxFunctions, (allocation.load_functions_halves request).1,
        decodeInt_encodeInt_of_signed short]

/-- A request for one function and the given memory. -/
def smallAllocation (memorySize : Int) (fits : IsSigned 4 memorySize) : SessionAllocation where
  sessionId := ⟨ascii "0123456789abcdef", by decide, by decide⟩
  maxFunctions := 1
  memorySize := memorySize
  functionsFit := by decide
  memoryFits := fits

theorem session_request_decoders_agree_without_memory :
    (smallAllocation 0 (by decide)).ReadBack ((smallAllocation 0 (by decide)).fill Request.new) ∧
      (smallAllocation 0 (by decide)).ReadFrom
        ((smallAllocation 0 (by decide)).fill Request.new) :=
  (session_request_decoders_agree_iff (smallAllocation 0 (by decide)) Request.new
    (by decide)).mpr (Or.inl ⟨by decide, rfl⟩)

/-- A request for 1024 bytes: the runtime reads 1024, and the accessor of the
common library 2^26. -/
theorem session_request_decoders_differ :
    (smallAllocation 1024 (by decide)).ReadFrom
        ((smallAllocation 1024 (by decide)).fill Request.new) ∧
      SessionRequest.memorySize ((smallAllocation 1024 (by decide)).fill Request.new) = 67108864 ∧
      ¬ (smallAllocation 1024 (by decide)).ReadBack
        ((smallAllocation 1024 (by decide)).fill Request.new) := by
  have read : SessionRequest.memorySize ((smallAllocation 1024 (by decide)).fill Request.new) =
      67108864 := SessionAllocation.memorySize_fill _ _
  refine ⟨SessionAllocation.readFrom_fill _ _, read, ?_⟩
  intro back
  have wrong : (67108864 : Int) = 1024 := read.symm.trans back.2.2
  cases wrong

end Wire
end Praas
