import Praas.Wire.Messages

namespace Praas
namespace Wire

open Library

/-!
# The invocation header across the two message libraries

One `FunctionRequest` object is filled once for every pending invocation of a
session.  The names are padded to their whole field by every fill, so nothing
of an earlier name survives.  Of the four bytes that the runtime reads as the
payload size, a fill writes the lower two; the upper two keep the zeros of the
constructor.  The runtime therefore receives the payload size modulo `65536`.
-/

/-- The arguments of one fill of an invocation request. -/
structure InvocationHeader where
  functionName : Bytes
  functionId : Bytes
  payloadSize : Int

def InvocationHeader.fill (header : InvocationHeader) (request : Request) : Request :=
  FunctionRequest.fill request header.functionName header.functionId header.payloadSize

def refilled (earlier : List InvocationHeader) : Request :=
  earlier.foldl (fun request header => header.fill request) Request.new

/-- The runtime reads back exactly the header that was filled in: the name, the
identifier and the size of the payload. -/
def InvocationHeader.RoundTrips (header : InvocationHeader) (request : Request) : Prop :=
  Exists fun message : FunctionRequestMsg =>
    parse (header.fill request) expectedLength = some (.invocationRequest message) ∧
      message.functionName = header.functionName ∧
      message.functionId = header.functionId ∧
      message.payload = header.payloadSize

/-- The bytes that no fill writes are the ones the constructor cleared. -/
theorem refilled_gap (earlier : List InvocationHeader) :
    (refilled earlier).load 4 2 = List.replicate 2 0 := by
  unfold refilled
  have cleared : (Request.new).load 4 2 = List.replicate 2 0 := Frame.load_zeros 4 2 (by decide)
  generalize Request.new = request at cleared ⊢
  induction earlier generalizing request with
  | nil => exact cleared
  | cons header rest inductionHypothesis =>
      apply inductionHypothesis
      simp only [InvocationHeader.fill, FunctionRequest.load_gap_fill, cleared]

theorem functionName_fill (header : InvocationHeader) (request : Request)
    (free : NulFree header.functionName) (fits : header.functionName.length ≤ 16) :
    (FunctionRequestMsg.mk (header.fill request)).functionName = header.functionName := by
  change untilNul ((header.fill request).load 6 16) = _
  rw [InvocationHeader.fill, FunctionRequest.load_name_fill, untilNul_paddedField free fits]

theorem functionId_fill (header : InvocationHeader) (request : Request)
    (free : NulFree header.functionId) (fits : header.functionId.length ≤ 16) :
    (FunctionRequestMsg.mk (header.fill request)).functionId = header.functionId := by
  change untilNul ((header.fill request).load 22 16) = _
  rw [InvocationHeader.fill, FunctionRequest.load_id_fill, untilNul_paddedField free fits]

theorem payload_fill (header : InvocationHeader) (request : Request)
    (cleared : request.load 4 2 = List.replicate 2 0) :
    (FunctionRequestMsg.mk (header.fill request)).payload = header.payloadSize % 65536 := by
  have field : (header.fill request).load 2 4 =
      encodeInt 2 header.payloadSize ++ List.replicate 2 0 := by
    rw [show (4 : Nat) = 2 + 2 from rfl, Frame.load_append, InvocationHeader.fill,
      FunctionRequest.load_payload_fill, FunctionRequest.load_gap_fill, cleared]
  have lower := littleEndian_encodeInt 2 header.payloadSize
  change decodeInt ((header.fill request).load 2 4) = _
  rw [field, decodeInt, littleEndian_append_zeros, lower]
  simp only [List.length_append, encodeInt_length, List.length_replicate]
  rw [Int.bmod_eq_emod_of_lt] <;> omega

/-- Whatever the object carried before, a header with names that fit their
fields is read back exactly when its payload size fits in 16 bits. -/
theorem roundTrips_iff (header : InvocationHeader) (request : Request)
    (cleared : request.load 4 2 = List.replicate 2 0)
    (nameFree : NulFree header.functionName) (nameFits : header.functionName.length ≤ 16)
    (idFree : NulFree header.functionId) (idFits : header.functionId.length ≤ 16)
    (nonnegative : 0 ≤ header.payloadSize) :
    header.RoundTrips request ↔ header.payloadSize < 65536 := by
  have seen := payload_fill header request cleared
  constructor
  · rintro ⟨message, parsed, _, _, payload⟩
    have same := parsed.symm.trans (FunctionRequest.parse_fill _ _ _ _)
    rw [RecvMessage.invocationRequest.inj (Option.some.inj same)] at payload
    have size : header.payloadSize % 65536 = header.payloadSize := seen.symm.trans payload
    omega
  · intro small
    refine ⟨⟨header.fill request⟩, FunctionRequest.parse_fill _ _ _ _,
      functionName_fill header request nameFree nameFits,
      functionId_fill header request idFree idFits, ?_⟩
    rw [seen]
    omega

/-- An invocation request survives the wire, after any earlier fills of the
same object, exactly when its payload is shorter than `65536` bytes. -/
theorem functionRequest_survives_iff (earlier : List InvocationHeader) (header : InvocationHeader)
    (nameFree : NulFree header.functionName) (nameFits : header.functionName.length ≤ 16)
    (idFree : NulFree header.functionId) (idFits : header.functionId.length ≤ 16)
    (nonnegative : 0 ≤ header.payloadSize) (_int32 : header.payloadSize < 2 ^ 31) :
    header.RoundTrips (refilled earlier) ↔ header.payloadSize < 65536 :=
  roundTrips_iff header (refilled earlier) (refilled_gap earlier) nameFree nameFits idFree idFits
    nonnegative

/-- A header with a one-byte name and id and the given payload size. -/
def shortHeader (payloadSize : Int) : InvocationHeader :=
  ⟨ascii "f", ascii "1", payloadSize⟩

theorem shortHeader_survives : (shortHeader 40).RoundTrips (refilled [shortHeader 7]) :=
  (functionRequest_survives_iff [shortHeader 7] (shortHeader 40) (by decide) (by decide)
    (by decide) (by decide) (by decide) (by decide)).mpr (by decide)

/-- A payload of `65536` bytes is announced to the session as an empty one. -/
theorem functionRequest_loses_long_payload :
    ¬ forall (earlier : List InvocationHeader) (header : InvocationHeader),
      NulFree header.functionName -> header.functionName.length ≤ 16 ->
      NulFree header.functionId -> header.functionId.length ≤ 16 ->
      0 ≤ header.payloadSize -> header.payloadSize < 2 ^ 31 ->
      header.RoundTrips (refilled earlier) := by
  intro always
  rcases always [] (shortHeader 65536) (by decide) (by decide) (by decide) (by decide)
    (by decide) (by decide) with ⟨message, parsed, _, _, payload⟩
  have same := parsed.symm.trans (FunctionRequest.parse_fill _ _ _ _)
  rw [RecvMessage.invocationRequest.inj (Option.some.inj same)] at payload
  have seen := payload_fill (shortHeader 65536) Request.new (refilled_gap [])
  exact absurd (seen.symm.trans payload) (by decide)

end Wire
end Praas
