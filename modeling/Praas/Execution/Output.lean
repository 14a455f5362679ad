import Mathlib.Data.List.Nodup
import Praas.Library.Bytes
import Praas.Library.FirstMatch
import Praas.Library.Framing
import Praas.Library.TransitionSystem

namespace Praas
namespace Execution

open Library

/-!
# The output of the functions of a session

All functions of a session write to one socket of the data plane.  A message
is a header of 24 bytes and, when it announces one, a payload; the channel
sends the two with separate system calls and takes no lock.  A client reads a
header, the payload that it announces, and so on.

An action of a thread is one system call, which sends all of its bytes.  Any
number of invocations, each with an identifier of its own, run at the same
time, and their system calls are interleaved in any order.
-/

namespace Output

/-! ## Messages -/

abbrev bufSize : Nat := 24

abbrev FunctionMessage := Frame bufSize

inductive Status
  | payload
  | unknownRequest
  | outOfMemory
  | unknownFunction
  deriving DecidableEq

def Status.code : Status -> Int
  | .payload => 0
  | .unknownRequest => 1
  | .outOfMemory => 2
  | .unknownFunction => 3

namespace FunctionMessage

theorem functionId_fits (functionId : Bytes) :
    8 + (paddedField 16 functionId).length ≤ bufSize := by
  rw [paddedField_length]

/-- The common part of the fill functions; all bytes of the buffer are
written. -/
def fill (message : FunctionMessage) (number flag size : Int) (functionId : Bytes) :
    FunctionMessage :=
  (((message.store 0 (encodeInt 2 number) (by simp [bufSize])).store 2 (encodeInt 2 flag)
    (by simp [bufSize])).store 4 (encodeInt 4 size)
    (by simp [bufSize])).store 8 (paddedField 16 functionId) (functionId_fits functionId)

def fillPayload (message : FunctionMessage) (size : Int) (functionId : Bytes) : FunctionMessage :=
  fill message Status.payload.code (-1) size functionId

def fillError (message : FunctionMessage) (status : Status) (functionId : Bytes) :
    FunctionMessage :=
  fill message status.code (-1) 0 functionId

/-- `fill_end`; the return code of a function is cut to 16 bits.  A code of `-1`
gives the same header as a payload of no bytes. -/
def fillEnd (message : FunctionMessage) (returnCode : Int) (functionId : Bytes) :
    FunctionMessage :=
  fill message Status.payload.code returnCode 0 functionId

def number (message : FunctionMessage) : Int := decodeInt (message.load 0 2)

def flag (message : FunctionMessage) : Int := decodeInt (message.load 2 2)

def payloadSize (message : FunctionMessage) : Int := decodeInt (message.load 4 4)

def functionId (message : FunctionMessage) : Bytes := untilNul (message.load 8 16)

section Fill

variable (message : FunctionMessage) (numberValue flagValue size : Int) (id : Bytes)

theorem number_fill :
    (fill message numberValue flagValue size id).number = Int.bmod numberValue (256 ^ 2) := by
  unfold number fill
  rw [Frame.load_store_disjoint _ 0 2 8 _ _ (by omega),
    Frame.load_store_disjoint _ 0 2 4 _ _ (by omega),
    Frame.load_store_disjoint _ 0 2 2 _ _ (by omega),
    Frame.load_store_same _ 0 2 _ _ (encodeInt_length _ _), decodeInt_encodeInt]

theorem flag_fill :
    (fill message numberValue flagValue size id).flag = Int.bmod flagValue (256 ^ 2) := by
  unfold flag fill
  rw [Frame.load_store_disjoint _ 2 2 8 _ _ (by omega),
    Frame.load_store_disjoint _ 2 2 4 _ _ (by omega),
    Frame.load_store_same _ 2 2 _ _ (encodeInt_length _ _), decodeInt_encodeInt]

theorem payloadSize_fill :
    (fill message numberValue flagValue size id).payloadSize = Int.bmod size (256 ^ 4) := by
  unfold payloadSize fill
  rw [Frame.load_store_disjoint _ 4 4 8 _ _ (by omega),
    Frame.load_store_same _ 4 4 _ _ (encodeInt_length _ _), decodeInt_encodeInt]

theorem functionId_fill :
    (fill message numberValue flagValue size id).functionId = untilNul (paddedField 16 id) := by
  unfold functionId fill
  rw [Frame.load_store_same _ 8 16 _ _ (paddedField_length _ _)]

end Fill

end FunctionMessage

/-! ## Calls on the channel -/

/-- The identifier of an invocation, as the session has parsed it. -/
structure InvocationId where
  bytes : Bytes
  nulFree : NulFree bytes
  fits : bytes.length ≤ 16

/-- The data of a `send`; its size is an `int`. -/
structure Payload where
  bytes : Bytes
  fits : bytes.length < 2 ^ 31

/-- The calls of a function on its channel. -/
inductive Call
  | send (payload : Payload)
  | markEnd (returnCode : Int)
  | sendError (status : Status)

def Call.header (id : Bytes) : Call -> FunctionMessage
  | .send payload => FunctionMessage.fillPayload (Frame.zeros bufSize) payload.bytes.length id
  | .markEnd returnCode => FunctionMessage.fillEnd (Frame.zeros bufSize) returnCode id
  | .sendError status => FunctionMessage.fillError (Frame.zeros bufSize) status id

/-- The bytes that a call sends after the header; without any there is no
second system call. -/
def Call.payload : Call -> Bytes
  | .send payload => payload.bytes
  | .markEnd _ => []
  | .sendError _ => []

/-- A message as its receiver sees it. -/
structure Message where
  number : Int
  flag : Int
  payload : Bytes
  deriving DecidableEq

def Call.message : Call -> Message
  | .send payload => ⟨Status.payload.code, -1, payload.bytes⟩
  | .markEnd returnCode => ⟨Status.payload.code, Int.bmod returnCode (2 ^ 16), []⟩
  | .sendError status => ⟨status.code, -1, []⟩

/-- What an invocation does: a function sends any number of payloads and its
end is marked, or the invocation fails and an error is sent. -/
inductive Invocation
  | function (payloads : List Payload) (returnCode : Int)
  | failed (status : Status)

def Invocation.calls : Invocation -> List Call
  | .function payloads returnCode => payloads.map Call.send ++ [.markEnd returnCode]
  | .failed status => [.sendError status]

/-! ## The client -/

/-- The client takes a header and the payload that it announces. -/
def takeMessage (stream : Bytes) : Option ((Bytes × Message) × Bytes) :=
  if long : bufSize ≤ stream.length then
    let header : FunctionMessage := ⟨stream.take bufSize, List.length_take_of_le long⟩
    let rest := stream.drop bufSize
    let size := header.payloadSize.toNat
    if size ≤ rest.length then
      some ((header.functionId, ⟨header.number, header.flag, rest.take size⟩), rest.drop size)
    else none
  else none

/-- The messages that the client has received for an invocation. -/
def messagesOf (id : Bytes) (stream : Bytes) : List Message :=
  ((decodeStream takeMessage stream).filter (fun entry => decide (entry.1 = id))).map Prod.snd

/-! ## Concurrent invocations -/

/-- A thread of the pool with its invocation: the number of calls that it has
begun, and the payload of the last one if it has not been sent. -/
structure Thread where
  functionId : InvocationId
  invocation : Invocation
  begun : Nat
  unsent : Bytes

/-- The calls that a thread has begun. -/
def Thread.made (thread : Thread) : List Call :=
  thread.invocation.calls.take thread.begun

structure State where
  threads : List Thread
  stream : Bytes

/-- A new invocation, or the next system call of a thread. -/
inductive Action
  | invoke (functionId : InvocationId) (invocation : Invocation)
  | transmit (index : Nat)

/-- The next system call of a thread: the bytes it sends and the thread after
it. -/
def Thread.next (thread : Thread) : Option (Bytes × Thread) :=
  if thread.unsent ≠ [] then some (thread.unsent, { thread with unsent := [] })
  else match thread.invocation.calls[thread.begun]? with
    | none => none
    | some call => some ((call.header thread.functionId.bytes).data,
        { thread with begun := thread.begun + 1, unsent := call.payload })

/-- A function is begun under an identifier that no other function of the
session has used, or one that is running makes its next system call.  An
identifier names one invocation; a client that uses it twice cannot tell the
two apart, and such a run is not considered. -/
def step (state : State) : Action -> Option State
  | .invoke functionId invocation =>
      if state.threads.any (fun thread => decide (thread.functionId.bytes = functionId.bytes)) then
        none
      else some { state with threads := state.threads ++ [⟨functionId, invocation, 0, []⟩] }
  | .transmit index =>
      match state.threads[index]? with
      | none => none
      | some thread =>
          match thread.next with
          | none => none
          | some (bytes, after) =>
              some ⟨state.threads.set index after, state.stream ++ bytes⟩

def system : TransitionSystem State Action where
  initial := ⟨[], []⟩
  step := step

/-! ## What the client recovers -/

/-- No thread is between the header and the payload of a message, so that nothing
that was announced is still missing. -/
def Settled (state : State) : Prop :=
  forall thread, thread ∈ state.threads -> thread.unsent = []

/-- The client has received from every invocation the messages that it has
produced so far, in order and with their payloads. -/
def Recovered (state : State) : Prop :=
  forall thread, thread ∈ state.threads ->
    messagesOf thread.functionId.bytes state.stream = thread.made.map Call.message

/-- A thread makes a system call only while no other thread is between the
header and the payload of a message. -/
def transmitsAlone (state : State) (action : Action) : Bool :=
  match action with
  | .invoke _ _ => true
  | .transmit index =>
      (state.threads.eraseIdx index).all (fun thread => decide (thread.unsent = []))

/-! ## One message -/

/-- A call of an invocation. -/
abbrev Entry := InvocationId × Call

/-- The bytes of a call whose header and payload are sent one after the
other. -/
def encode (entry : Entry) : Bytes :=
  (entry.2.header entry.1.bytes).data ++ entry.2.payload

/-- What the client makes of it. -/
def meaning (entry : Entry) : Bytes × Message := (entry.1.bytes, entry.2.message)

section Header

variable (call : Call) (id : InvocationId)

theorem header_fill : Exists fun flag =>
    call.header id.bytes = FunctionMessage.fill (Frame.zeros bufSize) call.message.number flag
      call.payload.length id.bytes ∧ Int.bmod flag (256 ^ 2) = call.message.flag := by
  cases call with
  | send payload => exact ⟨-1, rfl, rfl⟩
  | markEnd returnCode => exact ⟨returnCode, rfl, rfl⟩
  | sendError status => exact ⟨-1, rfl, rfl⟩

theorem functionId_header :
    FunctionMessage.functionId (call.header id.bytes) = id.bytes := by
  rcases header_fill call id with ⟨flag, filled, _⟩
  rw [filled, FunctionMessage.functionId_fill, untilNul_paddedField id.nulFree id.fits]

theorem payload_length : call.payload.length < 2 ^ 31 := by
  cases call with
  | send payload => exact payload.fits
  | markEnd returnCode => exact Nat.zero_lt_succ _
  | sendError status => exact Nat.zero_lt_succ _

theorem payloadSize_header :
    FunctionMessage.payloadSize (call.header id.bytes) = call.payload.length := by
  have fits := payload_length call
  rcases header_fill call id with ⟨flag, filled, _⟩
  rw [filled, FunctionMessage.payloadSize_fill, Int.bmod_eq_iff (by decide)]
  omega

theorem number_header :
    FunctionMessage.number (call.header id.bytes) = call.message.number := by
  rcases header_fill call id with ⟨flag, filled, _⟩
  rw [filled, FunctionMessage.number_fill]
  cases call with
  | send payload => rfl
  | markEnd returnCode => rfl
  | sendError status => cases status <;> rfl

theorem flag_header : FunctionMessage.flag (call.header id.bytes) = call.message.flag := by
  rcases header_fill call id with ⟨flag, filled, same⟩
  rw [filled, FunctionMessage.flag_fill, same]

theorem payload_message : call.message.payload = call.payload := by
  cases call <;> rfl

end Header

/-- The client takes exactly one message off the front. -/
theorem takeMessage_encode (entry : Entry) (rest : Bytes) :
    takeMessage (encode entry ++ rest) = some (meaning entry, rest) := by
  rcases entry with ⟨id, call⟩
  let header := call.header id.bytes
  have size : header.data.length = bufSize := header.size_eq
  have whole : encode (id, call) ++ rest = header.data ++ (call.payload ++ rest) :=
    List.append_assoc _ _ _
  have front : (encode (id, call) ++ rest).take bufSize = header.data := by
    rw [whole]
    exact List.take_left' size
  have back : (encode (id, call) ++ rest).drop bufSize = call.payload ++ rest := by
    rw [whole]
    exact List.drop_left' size
  have long : bufSize ≤ (encode (id, call) ++ rest).length := by
    rw [whole, List.length_append, size]
    exact Nat.le_add_right _ _
  have read : (⟨(encode (id, call) ++ rest).take bufSize, List.length_take_of_le long⟩ :
      FunctionMessage) = header := Frame.ext front
  unfold takeMessage
  rw [dif_pos long, read, back]
  dsimp only
  rw [payloadSize_header, functionId_header, number_header, flag_header, Int.toNat_natCast,
    if_pos (by
      rw [List.length_append]
      exact Nat.le_add_right _ _), List.take_left, List.drop_left, ← payload_message]
  rfl

/-- The client reads a stream of whole messages. -/
theorem messagesOf_flatMap (id : Bytes) (log : List Entry) :
    messagesOf id (log.flatMap encode) =
      ((log.filter (fun entry => decide (entry.1.bytes = id))).map Prod.snd).map Call.message := by
  unfold messagesOf
  rw [decodeStream_flatMap takeMessage_encode rfl, List.filter_map, List.map_map, List.map_map]
  rfl

/-! ## Whole runs -/

/-- The identifiers of the invocations so far. -/
def State.identifiers (state : State) : List Bytes :=
  state.threads.map (fun thread => thread.functionId.bytes)

/-- The log holds the calls in the order of their headers.  With the payload
that is still to be sent, the stream is the concatenation of their messages,
and the calls of every thread are those logged under its identifier. -/
structure Framed (log : List Entry) (state : State) : Prop where
  stream : state.stream ++ state.threads.flatMap Thread.unsent = log.flatMap encode
  made : forall thread, thread ∈ state.threads ->
    (log.filter (fun entry => decide (entry.1.bytes = thread.functionId.bytes))).map Prod.snd =
      thread.made
  known : forall entry, entry ∈ log -> entry.1.bytes ∈ state.identifiers
  distinct : state.identifiers.Nodup

theorem framed_invoke {log : List Entry} {state : State} (framed : Framed log state)
    {functionId : InvocationId}
    (fresh : ¬ state.threads.any
      (fun thread => decide (thread.functionId.bytes = functionId.bytes)) = true)
    (invocation : Invocation) :
    Framed log { state with threads := state.threads ++ [⟨functionId, invocation, 0, []⟩] } := by
  have unused : functionId.bytes ∉ state.identifiers := by
    intro member
    rcases List.mem_map.mp member with ⟨thread, inside, same⟩
    exact fresh (List.any_eq_true.mpr ⟨thread, inside, decide_eq_true same⟩)
  have identifiers : State.identifiers { state with
      threads := state.threads ++ [⟨functionId, invocation, 0, []⟩] } =
        state.identifiers ++ [functionId.bytes] := List.map_append
  refine ⟨?_, ?_, ?_, ?_⟩
  · rw [List.flatMap_append, List.flatMap_singleton, List.append_nil]
    exact framed.stream
  · intro thread member
    rcases List.mem_append.mp member with old | new
    · exact framed.made thread old
    · rw [List.mem_singleton.mp new]
      have none : log.filter (fun entry => decide (entry.1.bytes = functionId.bytes)) = [] := by
        refine List.filter_eq_nil_iff.mpr ?_
        intro entry logged same
        exact unused (of_decide_eq_true same ▸ framed.known entry logged)
      rw [none]
      rfl
  · intro entry logged
    rw [identifiers]
    exact List.mem_append_left _ (framed.known entry logged)
  · rw [identifiers]
    refine List.nodup_append.mpr ⟨framed.distinct, List.nodup_singleton _, ?_⟩
    intro first old second new same
    exact unused (List.mem_singleton.mp new ▸ same ▸ old)

theorem next_cases {thread after : Thread} {bytes : Bytes}
    (next : thread.next = some (bytes, after)) :
    (bytes = thread.unsent ∧ after = { thread with unsent := [] }) ∨
    (thread.unsent = [] ∧ Exists fun call => thread.invocation.calls[thread.begun]? = some call ∧
      bytes = (call.header thread.functionId.bytes).data ∧
      after = { thread with begun := thread.begun + 1, unsent := call.payload }) := by
  unfold Thread.next at next
  split at next
  · cases next
    exact Or.inl ⟨rfl, rfl⟩
  · rename_i sent
    split at next
    · cases next
    · rename_i call found
      cases next
      exact Or.inr ⟨Decidable.not_not.mp sent, call, found, rfl, rfl⟩

theorem made_next {thread : Thread} {call : Call}
    (found : thread.invocation.calls[thread.begun]? = some call) (unsent : Bytes) :
    Thread.made { thread with begun := thread.begun + 1, unsent := unsent } =
      thread.made ++ [call] := by
  unfold Thread.made
  rw [List.take_add_one, found]
  rfl

theorem flatMap_unsent_of_all {threads : List Thread}
    (sent : threads.all (fun thread => decide (thread.unsent = [])) = true) :
    threads.flatMap Thread.unsent = [] := by
  refine List.flatMap_eq_nil_iff.mpr ?_
  intro thread member
  exact of_decide_eq_true (List.all_eq_true.mp sent thread member)

/-- The bytes still to be sent when all other threads have sent theirs. -/
theorem flatMap_unsent_alone {before later : List Thread}
    (alone : (before ++ later).flatMap Thread.unsent = []) (thread : Thread) :
    (before ++ thread :: later).flatMap Thread.unsent = thread.unsent := by
  rw [List.flatMap_append, List.append_eq_nil_iff] at alone
  rw [List.flatMap_append, List.flatMap_cons, alone.1, alone.2, List.nil_append, List.append_nil]

section Transmit

variable {log : List Entry} {state : State} (framed : Framed log state) {before later : List Thread}
  {thread : Thread} (whole : state.threads = before ++ thread :: later)
  (alone : (before ++ later).flatMap Thread.unsent = [])

include framed whole alone

theorem framed_payload :
    Framed log ⟨before ++ { thread with unsent := [] } :: later, state.stream ++ thread.unsent⟩ := by
  have identifiers : State.identifiers ⟨before ++ { thread with unsent := [] } :: later,
      state.stream ++ thread.unsent⟩ = state.identifiers := by
    unfold State.identifiers
    rw [whole, List.map_append, List.map_cons, List.map_append, List.map_cons]
  refine ⟨?_, ?_, ?_, ?_⟩
  · have stream := framed.stream
    rw [whole, flatMap_unsent_alone alone] at stream
    rw [flatMap_unsent_alone alone, List.append_nil]
    exact stream
  · exact forall_mem_middle whole framed.made (framed.made thread (mem_middle whole))
  · rw [identifiers]
    exact framed.known
  · rw [identifiers]
    exact framed.distinct

/-- A header is sent while nothing is left to send, and its call is logged. -/
theorem framed_header (sent : thread.unsent = []) {call : Call}
    (found : thread.invocation.calls[thread.begun]? = some call) :
    Framed (log ++ [(thread.functionId, call)])
      ⟨before ++ { thread with begun := thread.begun + 1, unsent := call.payload } :: later,
        state.stream ++ (call.header thread.functionId.bytes).data⟩ := by
  have identifiers : State.identifiers
      ⟨before ++ { thread with begun := thread.begun + 1, unsent := call.payload } :: later,
        state.stream ++ (call.header thread.functionId.bytes).data⟩ = state.identifiers := by
    unfold State.identifiers
    rw [whole, List.map_append, List.map_cons, List.map_append, List.map_cons]
  have others (other : Thread) (member : other ∈ before ++ later) :
      thread.functionId.bytes ≠ other.functionId.bytes := by
    intro same
    have distinct := framed.distinct
    unfold State.identifiers at distinct
    rw [whole] at distinct
    have moved := (List.perm_middle.map (fun thread : Thread => thread.functionId.bytes)).nodup_iff.mp
      distinct
    exact (List.nodup_cons.mp moved).1 (List.mem_map.mpr ⟨other, member, same.symm⟩)
  refine ⟨?_, ?_, ?_, ?_⟩
  · have stream := framed.stream
    rw [whole, flatMap_unsent_alone alone, sent, List.append_nil] at stream
    rw [flatMap_unsent_alone alone, stream, List.flatMap_append, List.flatMap_singleton,
      List.append_assoc]
    rfl
  · intro other member
    rw [List.filter_append, List.map_append]
    rcases List.mem_cons.mp (List.perm_middle.mem_iff.mp member) with same | elsewhere
    · rw [same, made_next found, ← framed.made thread (mem_middle whole),
        List.filter_cons_of_pos (by simp), List.filter_nil]
      rfl
    · have inside : other ∈ state.threads := by
        rw [whole]
        exact List.perm_middle.mem_iff.mpr (List.mem_cons_of_mem _ elsewhere)
      rw [framed.made other inside, List.filter_cons_of_neg (by
        simpa using others other elsewhere), List.filter_nil, List.map_nil, List.append_nil]
  · intro entry logged
    rw [identifiers]
    rcases List.mem_append.mp logged with old | new
    · exact framed.known entry old
    · rw [List.mem_singleton.mp new]
      unfold State.identifiers
      exact List.mem_map.mpr ⟨thread, mem_middle whole, rfl⟩
  · rw [identifiers]
    exact framed.distinct

end Transmit

theorem framed_step {log : List Entry} {source target : State} {action : Action}
    (framed : Framed log source) (alone : transmitsAlone source action = true)
    (stepped : step source action = some target) :
    Exists fun log => Framed log target := by
  cases action with
  | invoke functionId invocation =>
      dsimp only [step] at stepped
      split at stepped
      · cases stepped
      · rename_i fresh
        cases stepped
        exact ⟨log, framed_invoke framed fresh invocation⟩
  | transmit index =>
      dsimp only [step] at stepped
      split at stepped
      · cases stepped
      · rename_i thread found
        rcases split_of_getElem found with ⟨before, later, whole, length, replaced⟩
        have quiet : (before ++ later).flatMap Thread.unsent = [] := by
          apply flatMap_unsent_of_all
          have erased : source.threads.eraseIdx index = before ++ later := by
            rw [← length, eraseIdx_middle whole]
          rw [← erased]
          exact alone
        split at stepped
        · cases stepped
        · rename_i bytes after next
          cases stepped
          rw [replaced]
          rcases next_cases next with ⟨rfl, rfl⟩ | ⟨sent, call, called, rfl, rfl⟩
          · exact ⟨log, framed_payload framed whole quiet⟩
          · exact ⟨_, framed_header framed whole quiet sent called⟩

/-- The client recovers what has been logged. -/
theorem recovered_of_framed {log : List Entry} {state : State} (framed : Framed log state)
    (settled : Settled state) : Recovered state := by
  intro thread member
  have stream := framed.stream
  rw [List.flatMap_eq_nil_iff.mpr settled, List.append_nil] at stream
  rw [stream, messagesOf_flatMap, framed.made thread member]

/-- In every run in which no thread makes a system call while another one is
between the header and the payload of a message, the client recovers the
messages of every invocation whenever no payload is left to send. -/
theorem output_recovered {trace : List (State × Action)} {final : State}
    (run : TransitionSystem.Run system system.initial trace final)
    (alone : TransitionSystem.Guarded (fun state action => transmitsAlone state action = true) trace)
    (settled : Settled final) : Recovered final := by
  have framed : Exists fun log => Framed log final := by
    apply run.guarded_invariant (fun state => Exists fun log => Framed log state) _ _ alone
    · refine ⟨[], rfl, ?_, ?_, List.nodup_nil⟩
      · intro thread member
        cases member
      · intro entry member
        cases member
    · intro source action target framed guarded stepped
      rcases framed with ⟨log, framed⟩
      exact framed_step framed guarded stepped
  rcases framed with ⟨log, framed⟩
  exact recovered_of_framed framed settled

def firstId : InvocationId := ⟨ascii "1", by decide, by decide⟩

def secondId : InvocationId := ⟨ascii "2", by decide, by decide⟩

/-- A function that sends three bytes is invoked, and one that only ends. -/
def invokeTwo : List Action :=
  [.invoke firstId (.function [⟨[1, 2, 3], by decide⟩] 0), .invoke secondId (.function [] 0)]

def Thread.finished (thread : Thread) : Bool :=
  decide (thread.begun = thread.invocation.calls.length ∧ thread.unsent = [])

theorem settled_of_finished {state : State} (finished : state.threads.all Thread.finished = true) :
    Settled state := by
  intro thread member
  exact (of_decide_eq_true (List.all_eq_true.mp finished thread member)).2

theorem output_recovered_first :
    Exists fun trace => Exists fun final => TransitionSystem.Run system system.initial trace final ∧
      final.threads.length = 2 ∧ final.threads.all Thread.finished = true ∧ Recovered final := by
  have found := TransitionSystem.exists_run system system.initial
    (invokeTwo ++ [.transmit 0, .transmit 0, .transmit 1, .transmit 0])
    (fun trace final => trace.all (fun entry => transmitsAlone entry.1 entry.2) &&
      decide (final.threads.length = 2 ∧ final.threads.all Thread.finished = true))
    (by decide +kernel)
  rcases found with ⟨trace, final, run, tested⟩
  simp only [Bool.and_eq_true, decide_eq_true_eq] at tested
  exact ⟨trace, final, run, tested.2.1, tested.2.2,
    output_recovered run (TransitionSystem.guarded_of_all tested.1)
      (settled_of_finished tested.2.2)⟩

/-- The end of the second function is sent between the header and the payload
of the first, and the client takes its bytes for the payload. -/
theorem output_interleaved :
    ¬ forall (trace : List (State × Action)) (final : State),
      TransitionSystem.Run system system.initial trace final -> Settled final ->
      Recovered final := by
  intro always
  have found := TransitionSystem.exists_run system system.initial
    (invokeTwo ++ [.transmit 0, .transmit 1, .transmit 0, .transmit 0])
    (fun _ final => final.threads.all Thread.finished &&
      final.threads.any (fun thread =>
        decide (messagesOf thread.functionId.bytes final.stream ≠ thread.made.map Call.message)))
    (by decide +kernel)
  rcases found with ⟨trace, final, run, tested⟩
  rcases Bool.and_eq_true_iff.mp tested with ⟨finished, different⟩
  rcases List.any_eq_true.mp different with ⟨thread, member, wrong⟩
  exact of_decide_eq_true wrong
    (always trace final run (settled_of_finished finished) thread member)

end Output
end Execution
end Praas
