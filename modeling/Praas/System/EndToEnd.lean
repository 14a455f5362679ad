import Praas.Execution.SingleThread
import Praas.System.Invocations

namespace Praas
namespace System
namespace EndToEnd

open Library
open Wire
open ControlPlane
open Praas.Runtime
open Execution (Packet requestStream headersWhole sessionStream)
open Execution.SingleThread (Functions answers Answered Sent HoldsNext)
open Invocations (createsSession placed placedFor placedBy pending calls)

/-!
# An invocation from its call to the answer

A call of `/invoke` that creates a session leaves its invocation in the queue of
the session.  A child of the session connects, gets the queue, and runs the
invocation; the results go to the client on the data plane, before those of the
requests that the client sends there.  Here the stages are put together for
children with one thread: the interleavings of the control plane, the encoding
of the queue, the receive loop of the child with its thread, and the client
that takes the messages off the stream.
-/

/-! ## A child on its connection -/

/-- A child with one thread on a connection that carries a queue.  However the
bytes arrive, and however its loop and its thread interleave, it answers the
queue and then the requests of its client.  `Answered` says what the client
reads: of the return codes, those of 16 bits other than `-1`. -/
def AnswersQueue (queue : List PendingAllocation) (stream : Bytes) : Prop :=
  Exists fun first : Packet => first.bytes = stream ∧
    forall (Memory : Type) (functions : Functions Memory) (memory : Memory)
      (segments parts : List Bytes) (packets : List Packet),
      segments.flatten = stream ->
      (read expectedLength (delivered segments)).count = expectedLength ->
      parts.flatten = requestStream packets -> headersWhole packets (delivered parts) ->
      forall trace final,
        TransitionSystem.Run
          (Execution.SingleThread.system functions memory (delivered segments) (delivered parts))
          (Execution.SingleThread.State.initial memory (delivered segments) (delivered parts))
          trace final ->
        TransitionSystem.Guarded (HoldsNext first packets) trace -> 0 < final.received ->
        Answered final (answers functions memory
          (queue ++ Execution.requested (packets.take (final.received - 1))))

/-- A first packet that stands for the queue is all that is needed. -/
theorem answersQueue_of_packet {queue : List PendingAllocation} (first : Packet)
    (asks : Execution.requested [first] = queue) : AnswersQueue queue first.bytes := by
  refine ⟨first, rfl, ?_⟩
  intro Memory functions memory segments parts packets arrives whole onData headers trace final run
    holds started
  have sent : Sent first packets (delivered segments) (delivered parts) :=
    ⟨⟨segments, [], rfl, by rw [arrives, List.append_nil]; rfl, whole⟩, ⟨parts, rfl, onData⟩,
      headers⟩
  have served := Execution.SingleThread.served_run sent run holds
  have received : Execution.requested ((first :: packets).take final.received) =
      queue ++ Execution.requested (packets.take (final.received - 1)) := by
    rcases Nat.exists_eq_succ_of_ne_zero (Nat.ne_of_gt started) with ⟨count, counted⟩
    rw [counted, Nat.succ_sub_one, List.take_succ_cons, Execution.requested_cons, asks]
  rw [← received]
  exact served.answered

/-! ## The queue on the wire -/

def queuedPacket (item : PendingAllocation)
    (survives : (Execution.header item).RoundTrips Request.new) : Packet where
  header := (Execution.header item).fill Request.new
  payload := item.payload
  typed := by
    unfold InvocationHeader.fill
    rw [FunctionRequest.load_type_fill, decodeInt_encodeInt]
    rfl
  announced := (Execution.fields_of_roundTrips survives).2.2

theorem requested_queuedPacket {item : PendingAllocation}
    (survives : (Execution.header item).RoundTrips Request.new) :
    Execution.requested [queuedPacket item survives] =
      if item.functionName = [] then [] else [item] := by
  have fields := Execution.fields_of_roundTrips survives
  have name : (queuedPacket item survives).request.functionName = item.functionName := fields.1
  have id : (queuedPacket item survives).request.functionId = item.functionId := fields.2.1
  rw [Execution.requested_singleton, Packet.invocation, name, id]
  rfl

/-- An empty queue is written as one header without a name. -/
theorem unnamed_survives : (Execution.header ⟨[], [], []⟩).RoundTrips Request.new :=
  (roundTrips_iff (Execution.header ⟨[], [], []⟩) Request.new (refilled_gap []) (by decide)
    (by decide) (by decide) (by decide) (by decide)).mpr (by decide)

/-- A queue with at most one invocation is answered by the child that gets
it. -/
theorem answersQueue_of_short {queue : List PendingAllocation} (short : queue.length ≤ 1)
    (proper : forall item, item ∈ queue -> item.functionName ≠ [] ∧
      (Execution.header item).RoundTrips Request.new) :
    AnswersQueue queue (sessionStream queue) := by
  cases queue with
  | nil =>
      have written : sessionStream [] = (queuedPacket ⟨[], [], []⟩ unnamed_survives).bytes :=
        (List.append_nil _).symm
      rw [written]
      exact answersQueue_of_packet _ (requested_queuedPacket unnamed_survives)
  | cons item more =>
      have alone : more = [] :=
        List.eq_nil_of_length_eq_zero (Nat.le_zero.mp (Nat.le_of_succ_le_succ short))
      subst alone
      rcases proper item List.mem_cons_self with ⟨named, survives⟩
      have written : sessionStream [item] = (queuedPacket item survives).bytes := by
        change _ ++ (item.payload ++ []) = _ ++ item.payload
        rw [List.append_nil]
        rfl
      rw [written]
      refine answersQueue_of_packet _ ?_
      rw [requested_queuedPacket, if_neg named]

/-! ## The invocation of a call -/

def invocation (call : ClientCall) : PendingAllocation :=
  ⟨call.payload, call.functionName, call.functionId⟩

/-- When every call creates its session, a call that names a function and is
answered with a session has put the only invocation into its queue. -/
theorem placedFor_returned {trace : List (Invocations.State × Invocations.Action)}
    {final : Invocations.State} (run : Invocations.Run trace final)
    (created : TransitionSystem.Guarded (fun _ action => createsSession action = true) trace)
    {index : Nat} {call : ClientCall} {sessionId : Bytes}
    (made : (calls trace)[index]? = some call) (named : call.functionName ≠ [])
    (returned : final.system.clients[index]? = some (.returned (.session sessionId))) :
    placedFor sessionId (placed trace) = [invocation call] := by
  rcases Invocations.placedBy_returned run returned with ⟨other, same, settled⟩
  cases Option.some.inj (made.symm.trans same)
  have entry : ⟨index, sessionId, invocation call⟩ ∈ placedBy index (placed trace) := by
    rw [settled]
    change _ ∈ Invocations.entries _ _ _ _ _
    rw [Invocations.entries, if_neg named]
    exact List.mem_singleton_self _
  have queued : invocation call ∈ placedFor sessionId (placed trace) :=
    List.mem_map.mpr ⟨⟨index, sessionId, invocation call⟩,
      List.mem_filter.mpr ⟨(List.mem_filter.mp entry).1, decide_eq_true rfl⟩, rfl⟩
  have short := Invocations.length_placedFor_created run created sessionId
  have one := Nat.le_antisymm short (List.length_pos_of_mem queued)
  rcases List.length_eq_one_iff.mp one with ⟨only, alone⟩
  rw [alone] at queued ⊢
  rw [List.mem_singleton.mp queued]

/-- An invocation from its call to its answer.  When every call creates its
session, however the control plane interleaves its steps, a call that names a
function and is answered with a session has its invocation, and nothing else,
in the queues written to the connections of that session, or it still waits.
On each of these connections a child with one thread answers what it gets there
and then the requests of its client. -/
theorem invocation_answered {trace : List (Invocations.State × Invocations.Action)}
    {final : Invocations.State} (run : Invocations.Run trace final)
    (created : TransitionSystem.Guarded (fun _ action => createsSession action = true) trace)
    {index : Nat} {call : ClientCall} {sessionId : Bytes}
    (made : (calls trace)[index]? = some call) (named : call.functionName ≠ [])
    (returned : final.system.clients[index]? = some (.returned (.session sessionId)))
    (survives : (Execution.header (invocation call)).RoundTrips Request.new) :
    Exists fun queues =>
      queues.flatten ++ pending final.system sessionId = [invocation call] ∧
        List.Forall₂ AnswersQueue queues (final.sent sessionId) := by
  rcases (Invocations.kept_of_run run).queues sessionId with ⟨queues, written, whole⟩
  rw [placedFor_returned run created made named returned] at whole
  refine ⟨queues, whole, ?_⟩
  rw [written, List.forall₂_map_right_iff, List.forall₂_same]
  intro queue member
  refine answersQueue_of_short (Invocations.length_queue_le whole member) ?_
  intro item inside
  have queued : item ∈ queues.flatten ++ pending final.system sessionId :=
    List.mem_append_left _ (List.mem_flatten.mpr ⟨queue, member, inside⟩)
  rw [whole] at queued
  rw [List.mem_singleton.mp queued]
  exact ⟨named, survives⟩

/-! ## A session with one invocation -/

def onlyInvocation : PendingAllocation := Execution.pendingInvocation []

theorem onlyInvocation_survives : (Execution.header onlyInvocation).RoundTrips Request.new :=
  Execution.pendingInvocation_survives (by decide) (by decide)

theorem invocation_answered_once :
    Exists fun trace => Exists fun final => Invocations.Run trace final ∧
      final.sent [2] = [sessionStream [onlyInvocation]] ∧
      Exists fun queues => queues.flatten ++ pending final.system [2] = [onlyInvocation] ∧
        List.Forall₂ AnswersQueue queues (final.sent [2]) := by
  have found := TransitionSystem.exists_run Invocations.system Invocations.State.initial
    Invocations.invokeOnce
    (fun trace final => trace.all (fun entry => createsSession entry.2) &&
      decide (final.sent [2] = [sessionStream [onlyInvocation]] ∧
        (calls trace)[0]?.map invocation = some onlyInvocation ∧
        final.system.clients[0]? = some (.returned (.session [2])))) (by decide +kernel)
  rcases found with ⟨trace, final, run, tested⟩
  rw [Bool.and_eq_true, decide_eq_true_eq] at tested
  rcases tested with ⟨created, sent, called, returned⟩
  rcases Option.map_eq_some_iff.mp called with ⟨call, made, asked⟩
  have named : call.functionName ≠ [] := by
    rw [show call.functionName = (invocation call).functionName from rfl, asked]
    decide
  have answered := invocation_answered run (TransitionSystem.guarded_of_all created) made named
    returned (by rw [asked]; exact onlyInvocation_survives)
  rw [asked] at answered
  exact ⟨trace, final, run, sent, answered⟩

end EndToEnd
end System
end Praas
