import Praas.Library.Connection
import Praas.Runtime.SessionList
import Praas.Wire.ProcessLink

namespace Praas
namespace Runtime

open Library
open Wire

/-!
# The main loop of a process worker

`Process::start` identifies the worker to the control plane and then reads one
request after the other, until the connection ends or the worker is shut down.
A session request is answered with a status; every other message is only
logged.  Signals run `session_deleted` in threads of their own meanwhile.

The loop reads into one buffer and fills its answers into one object, which
both keep their contents from one turn to the next.
-/

namespace ProcessLoop

/-- What a turn of the loop meets: whether the worker is shut down before the
read or during it, the sessions that are deleted during the read, and the
object store and the system calls that an allocation meets. -/
structure Turn where
  endingBefore : Bool
  endingAfter : Bool
  deletions : List (Int × Bool)
  store : ObjectStore
  calls : Syscalls

/-- The flag `_ending` is seen in this turn. -/
def Turn.ends (turn : Turn) : Bool := turn.endingBefore || turn.endingAfter

/-- The worker after the deletions of a turn. -/
def Turn.meanwhile (turn : Turn) (worker : Worker) : Worker :=
  turn.deletions.foldl
    (fun worker deletion => (worker.sessionDeleted turn.store deletion.1 deletion.2).1) worker

/-- The variables of the loop, what is left on the connection and what the loop
has written to it. -/
structure Loop where
  message : Frame expectedLength
  sendMessage : SendMessage
  worker : Worker
  connection : List Arrival
  written : Bytes

/-- The loop after some turns: it may still go on, or it has ended by a
shutdown or at the end of the connection. -/
structure Served where
  ended : Bool
  loop : Loop

/-- `allocate_session` and the answer, for a message that is a session
request. -/
def handle (turn : Turn) (loop : Loop) (readSize : Int) : Loop :=
  match parse loop.message readSize with
  | some (.sessionRequest request) =>
      let allocated := loop.worker.allocateSession turn.store (requestOf request) turn.calls
      let reply := SendMessage.fillSessionStatus loop.sendMessage allocated.1.value
        request.sessionId
      { loop with
        worker := allocated.2
        sendMessage := reply
        written := loop.written ++ reply.data }
  | _ => loop

def serve : List Turn -> Loop -> Served
  | [], loop => ⟨false, loop⟩
  | turn :: turns, loop =>
      if turn.endingBefore then ⟨true, loop⟩
      else
        let received := readN expectedLength loop.connection
        let loop := { loop with
          message := loop.message.store 0 received.bytes (by
            rw [Nat.zero_add]
            exact readN_length_le _ _)
          worker := turn.meanwhile loop.worker
          connection := received.rest }
        if turn.endingAfter then ⟨true, loop⟩
        else if received.count = -1 then serve turns loop
        else if received.count = 0 then ⟨true, loop⟩
        else serve turns (handle turn loop received.count)

def start (connected : Bool) (processId : Bytes) (turns : List Turn) (worker : Worker)
    (connection : List Arrival) : Served :=
  let loop := Loop.mk (Frame.zeros expectedLength) SendMessage.new worker connection []
  if connected then
    serve turns { loop with
      written := (SendMessage.fillProcessIdentification SendMessage.new processId).data }
  else ⟨true, loop⟩

/-! ## What the control plane sent -/

/-- A packet of the size of a request, or a read that fails. -/
abbrev Event := Option (Frame expectedLength)

/-- The connection brings packets in any segments, and reads only fail between
two packets.  A part of a packet may be left at its end. -/
inductive Arrives : List Event -> Bytes -> List Arrival -> Prop
  | last (segments : List Bytes) (packets : List (Frame expectedLength)) (tail : Bytes) :
      segments.flatten = packets.flatMap Frame.data ++ tail ->
      Arrives (packets.map some) tail (delivered segments)
  | failed (segments : List Bytes) (packets : List (Frame expectedLength)) {events : List Event}
      {tail : Bytes} {later : List Arrival} :
      segments.flatten = packets.flatMap Frame.data -> Arrives events tail later ->
      Arrives (packets.map some ++ none :: events) tail (delivered segments ++ .failure :: later)

theorem arrives_failure {events : List Event} {tail : Bytes} {connection : List Arrival}
    (arrives : Arrives (none :: events) tail connection) :
    Exists fun rest => readN expectedLength connection = ⟨-1, [], rest⟩ ∧
      Arrives events tail rest := by
  generalize shape : none :: events = all at arrives
  cases arrives with
  | last segments packets =>
      cases packets with
      | nil => cases shape
      | cons packet packets => cases shape
  | @failed segments packets _ _ later whole others =>
      cases packets with
      | nil =>
          cases shape
          exact ⟨later, readN_failure _ segments later whole (by decide), others⟩
      | cons packet packets => cases shape

theorem arrives_packet {packet : Frame expectedLength} {events : List Event} {tail : Bytes}
    {connection : List Arrival} (arrives : Arrives (some packet :: events) tail connection) :
    Exists fun rest => readN expectedLength connection = ⟨expectedLength, packet.data, rest⟩ ∧
      Arrives events tail rest := by
  have size := packet.size_eq
  generalize shape : some packet :: events = all at arrives
  cases arrives with
  | last segments packets tail whole =>
      cases packets with
      | nil => cases shape
      | cons first packets =>
          cases shape
          rw [List.flatMap_cons, List.append_assoc] at whole
          have enough : expectedLength ≤ segments.flatten.length := by
            rw [whole, List.length_append, size]
            exact Nat.le_add_right _ _
          rcases readN_front expectedLength segments [] enough (by decide) with
            ⟨rest, result, remains⟩
          rw [List.append_nil, List.append_nil] at result
          rw [whole, List.drop_left' size] at remains
          refine ⟨_, ?_, .last rest packets tail remains⟩
          rw [result, whole, List.take_left' size]
  | @failed segments packets _ _ later whole others =>
      cases packets with
      | nil => cases shape
      | cons first packets =>
          cases shape
          rw [List.flatMap_cons] at whole
          have enough : expectedLength ≤ segments.flatten.length := by
            rw [whole, List.length_append, size]
            exact Nat.le_add_right _ _
          rcases readN_front expectedLength segments (.failure :: later) enough (by decide) with
            ⟨rest, result, remains⟩
          rw [whole, List.drop_left' size] at remains
          refine ⟨_, ?_, .failed rest packets remains others⟩
          rw [result, whole, List.take_left' size]

/-- The part of a packet at the end is read as such, and then nothing. -/
theorem arrives_end {tail : Bytes} {connection : List Arrival}
    (arrives : Arrives [] tail connection) (short : tail.length < expectedLength) :
    Exists fun rest => readN expectedLength connection = ⟨tail.length, tail, rest⟩ ∧
      Arrives [] [] rest := by
  generalize shape : ([] : List Event) = all at arrives
  cases arrives with
  | last segments packets tail whole =>
      cases packets with
      | cons packet packets => cases shape
      | nil =>
          rw [List.flatMap_nil, List.nil_append] at whole
          rcases readN_split expectedLength segments with ⟨rest, result, remains⟩
          rw [whole, List.take_of_length_le (Nat.le_of_lt short)] at result
          rw [whole, List.drop_of_length_le (Nat.le_of_lt short)] at remains
          exact ⟨_, result, .last rest [] [] remains⟩
  | failed segments packets => cases packets <;> cases shape

/-! ## What the worker answers -/

def sessionRequest : Event -> Option SessionRequestMsg
  | none => none
  | some packet =>
      match parse packet expectedLength with
      | some (.sessionRequest request) => some request
      | _ => none

/-- One event: the deletions of the turn, and the allocation of a request.  For a
packet that is no session request, and for a read that fails, there are only the
deletions. -/
def attend (turn : Turn) (worker : Worker) (event : Event) : Worker × Option StatusMessage :=
  match sessionRequest event with
  | none => (turn.meanwhile worker, none)
  | some request =>
      let allocated := (turn.meanwhile worker).allocateSession turn.store (requestOf request)
        turn.calls
      (allocated.2, some (StatusMessage.answer allocated.1 request.sessionId))

/-- The events one after the other, each in a turn of its own. -/
def attendAll : List Turn -> List Event -> Worker -> List StatusMessage
  | turn :: turns, event :: events, worker =>
      let attended := attend turn worker event
      attended.2.toList ++ attendAll turns events attended.1
  | _, _, _ => []

def statusPacket (message : StatusMessage) : Bytes :=
  (SendMessage.fillStatus SendMessage.new message.memorySize message.status message.sessionId).data

/-- The answers carry the sessions of the requests in their order. -/
theorem sessionIds_attendAll (turns : List Turn) (events : List Event) (worker : Worker) :
    (attendAll turns events worker).map StatusMessage.sessionId =
      ((events.take turns.length).filterMap sessionRequest).map SessionRequestMsg.sessionId := by
  induction turns generalizing events worker with
  | nil =>
      rw [List.length_nil, List.take_zero]
      cases events <;> rfl
  | cons turn turns inductionHypothesis =>
      cases events with
      | nil => rfl
      | cons event events =>
          rw [List.length_cons, List.take_succ_cons, attendAll, List.map_append,
            inductionHypothesis]
          unfold attend
          cases requested : sessionRequest event with
          | none =>
              rw [List.filterMap_cons_none requested]
              rfl
          | some request =>
              rw [List.filterMap_cons_some requested]
              rfl

/-! ## The loop -/

theorem serve_ending {turn : Turn} (ends : turn.ends = true) (turns : List Turn) (loop : Loop) :
    (serve (turn :: turns) loop).ended = true ∧
      (serve (turn :: turns) loop).loop.written = loop.written := by
  rcases Bool.or_eq_true_iff.mp ends with before | after
  · simp only [serve, before, if_true, and_self]
  · simp only [serve, after, if_true]
    split <;> exact ⟨rfl, rfl⟩

theorem handle_whole (turn : Turn) (loop : Loop) :
    (handle turn { loop with worker := turn.meanwhile loop.worker } expectedLength).connection =
        loop.connection ∧
      (handle turn { loop with worker := turn.meanwhile loop.worker } expectedLength).worker =
        (attend turn loop.worker (some loop.message)).1 ∧
      (handle turn { loop with worker := turn.meanwhile loop.worker } expectedLength).written =
        loop.written ++
          (attend turn loop.worker (some loop.message)).2.toList.flatMap statusPacket := by
  unfold handle attend sessionRequest
  dsimp only
  cases parsed : parse loop.message expectedLength with
  | none => exact ⟨rfl, rfl, (List.append_nil _).symm⟩
  | some message =>
      cases message with
      | invocationRequest request => exact ⟨rfl, rfl, (List.append_nil _).symm⟩
      | sessionRequest request =>
          refine ⟨rfl, rfl, ?_⟩
          dsimp only
          rw [Option.toList_some, List.flatMap_singleton, SendMessage.fillSessionStatus,
            SendMessage.fillStatus_reused _ _ _ _ SendMessage.new]
          rfl

theorem handle_partial (turn : Turn) (loop : Loop) {readSize : Int}
    (short : readSize ≠ expectedLength) : handle turn loop readSize = loop := by
  unfold handle parse
  rw [if_pos short]

/-- The variables after a read. -/
def Loop.received (loop : Loop) (turn : Turn) (result : ReadResult)
    (fits : 0 + result.bytes.length ≤ expectedLength) : Loop :=
  { loop with
    message := loop.message.store 0 result.bytes fits
    worker := turn.meanwhile loop.worker
    connection := result.rest }

theorem serve_cons {turn : Turn} (goes : turn.ends = false) (turns : List Turn) {loop : Loop}
    {result : ReadResult} (read : readN expectedLength loop.connection = result) :
    Exists fun fits => serve (turn :: turns) loop =
      if result.count = -1 then serve turns (loop.received turn result fits)
      else if result.count = 0 then ⟨true, loop.received turn result fits⟩
      else serve turns (handle turn (loop.received turn result fits) result.count) := by
  subst read
  have flags := Bool.or_eq_false_iff.mp goes
  refine ⟨by rw [Nat.zero_add]; exact readN_length_le _ _, ?_⟩
  simp only [serve, flags.1, flags.2, Bool.false_eq_true, if_false]
  rfl

/-- The turn of an event: a failed read is passed over, and a packet is
answered if it is a session request. -/
theorem serve_event {turn : Turn} (goes : turn.ends = false) (turns : List Turn) {event : Event}
    {events : List Event} {tail : Bytes} {loop : Loop}
    (arrives : Arrives (event :: events) tail loop.connection) :
    Exists fun next => serve (turn :: turns) loop = serve turns next ∧
      Arrives events tail next.connection ∧ next.worker = (attend turn loop.worker event).1 ∧
      next.written =
        loop.written ++ (attend turn loop.worker event).2.toList.flatMap statusPacket := by
  cases event with
  | none =>
      rcases arrives_failure arrives with ⟨rest, read, later⟩
      rcases serve_cons goes turns read with ⟨fits, served⟩
      rw [if_pos rfl] at served
      exact ⟨_, served, later, rfl, (List.append_nil _).symm⟩
  | some packet =>
      rcases arrives_packet arrives with ⟨rest, read, later⟩
      rcases serve_cons goes turns read with ⟨fits, served⟩
      dsimp only at served
      rw [if_neg (by decide), if_neg (by decide)] at served
      have stored : loop.message.store 0 packet.data fits = packet := Frame.store_whole _ _ _
      have handled := handle_whole turn { loop with message := packet, connection := rest }
      refine ⟨_, served, ?_, ?_, ?_⟩
      · rw [Loop.received, stored, handled.1]
        exact later
      · rw [Loop.received, stored]
        exact handled.2.1
      · rw [Loop.received, stored]
        exact handled.2.2

theorem serve_tail {turn : Turn} (goes : turn.ends = false) (turns : List Turn) {tail : Bytes}
    {loop : Loop} (arrives : Arrives [] tail loop.connection) (short : tail.length < expectedLength)
    (present : tail ≠ []) :
    Exists fun next => serve (turn :: turns) loop = serve turns next ∧
      Arrives [] [] next.connection ∧ next.written = loop.written := by
  have positive : 0 < tail.length := List.length_pos_iff.mpr present
  rcases arrives_end arrives short with ⟨rest, read, later⟩
  rcases serve_cons goes turns read with ⟨fits, served⟩
  have different : (tail.length : Int) ≠ expectedLength := fun same => by
    have equal : tail.length = expectedLength := Int.ofNat.inj same
    rw [equal] at short
    exact Nat.lt_irrefl _ short
  have counted : (tail.length : Int) ≠ -1 ∧ (tail.length : Int) ≠ 0 := by omega
  rw [if_neg counted.1, if_neg counted.2, handle_partial _ _ different] at served
  exact ⟨_, served, later, rfl⟩

theorem serve_end {turn : Turn} (goes : turn.ends = false) (turns : List Turn) {loop : Loop}
    (arrives : Arrives [] [] loop.connection) :
    (serve (turn :: turns) loop).ended = true ∧
      (serve (turn :: turns) loop).loop.written = loop.written := by
  rcases arrives_end arrives (by decide) with ⟨rest, read, _⟩
  rcases serve_cons goes turns read with ⟨fits, served⟩
  dsimp only at served
  rw [if_neg (by decide), if_pos (by decide)] at served
  rw [served]
  exact ⟨rfl, rfl⟩

/-- The turns before the one in which the worker is shut down. -/
def untilEnding (turns : List Turn) : List Turn :=
  turns.takeWhile (fun turn => !turn.ends)

/-- How many turns the loop takes before the one that finds the connection at
its end. -/
def turnsOf (events : List Event) (tail : Bytes) : Nat :=
  events.length + if tail = [] then 0 else 1

/-- The closed form of the loop: the answers are those to the events of the
turns before the shutdown, and the loop ends by a shutdown or at the end of
the connection. -/
theorem serve_arrives (turns : List Turn) {events : List Event} {tail : Bytes} {loop : Loop}
    (arrives : Arrives events tail loop.connection) (short : tail.length < expectedLength) :
    (serve turns loop).loop.written = loop.written ++
        (attendAll (untilEnding turns) events loop.worker).flatMap statusPacket ∧
      ((serve turns loop).ended = true ↔
        (Exists fun turn => turn ∈ turns ∧ turn.ends = true) ∨ turnsOf events tail < turns.length) := by
  induction turns generalizing events tail loop with
  | nil =>
      refine ⟨(List.append_nil _).symm, ?_⟩
      constructor
      · intro never
        cases never
      · rintro (⟨turn, member, _⟩ | more)
        · cases member
        · cases more
  | cons turn turns inductionHypothesis =>
      by_cases ends : turn.ends = true
      · have stopped : untilEnding (turn :: turns) = [] := by
          rw [untilEnding, List.takeWhile_cons, ends]
          rfl
        have outcome := serve_ending ends turns loop
        rw [stopped, outcome.1, outcome.2]
        refine ⟨(List.append_nil _).symm, ?_⟩
        simp only [true_iff]
        exact Or.inl ⟨turn, List.mem_cons_self, ends⟩
      · have lives := Bool.eq_false_iff.mpr ends
        have goes : untilEnding (turn :: turns) = turn :: untilEnding turns := by
          rw [untilEnding, List.takeWhile_cons, lives]
          rfl
        have others : (Exists fun other => other ∈ turn :: turns ∧ other.ends = true) ↔
            Exists fun other => other ∈ turns ∧ other.ends = true := by
          simp only [List.mem_cons, exists_eq_or_imp, ends, Bool.false_eq_true, false_or]
        have silent : forall live worker, attendAll live [] worker = [] := by
          intro live worker
          cases live <;> rfl
        rw [goes, others, List.length_cons]
        cases events with
        | cons event events =>
            rcases serve_event lives turns arrives with ⟨next, served, later, worker, written⟩
            have onward := inductionHypothesis later short
            have counted : turnsOf (event :: events) tail = turnsOf events tail + 1 := by
              simp only [turnsOf, List.length_cons]
              omega
            rw [served, onward.1, onward.2, worker, written, attendAll, List.flatMap_append,
              List.append_assoc, counted, Nat.add_lt_add_iff_right]
            exact ⟨rfl, Iff.rfl⟩
        | nil =>
            rw [silent]
            by_cases empty : tail = []
            · subst empty
              have outcome := serve_end lives turns arrives
              rw [outcome.1, outcome.2]
              refine ⟨(List.append_nil _).symm, ?_⟩
              simp only [true_iff]
              exact Or.inr (Nat.succ_pos _)
            · rcases serve_tail lives turns arrives short empty with ⟨next, served, later, written⟩
              have onward := inductionHypothesis later (by decide)
              have counted : turnsOf [] tail = turnsOf [] [] + 1 := by
                simp only [turnsOf, empty, if_true, if_false]
              rw [served, onward.1, onward.2, silent, written, counted, Nat.add_lt_add_iff_right]
              exact ⟨rfl, Iff.rfl⟩

/-- A worker that has connected identifies itself and then answers the session
requests that it reads before it is shut down, each once and in their order,
whatever other packets lie between them, however the bytes are cut into
segments and whichever reads fail between two packets.  It stops when it is
shut down or when the connection ends, also in the middle of a packet, and
not before. -/
theorem answers_in_order (processId : Bytes) (turns : List Turn) (worker : Worker)
    {events : List Event} {tail : Bytes} {connection : List Arrival}
    (arrives : Arrives events tail connection) (short : tail.length < expectedLength) :
    (start true processId turns worker connection).loop.written =
        (SendMessage.fillProcessIdentification SendMessage.new processId).data ++
          (attendAll (untilEnding turns) events worker).flatMap statusPacket ∧
      (attendAll (untilEnding turns) events worker).map StatusMessage.sessionId =
        ((events.take (untilEnding turns).length).filterMap sessionRequest).map
          SessionRequestMsg.sessionId ∧
      ((start true processId turns worker connection).ended = true ↔
        (Exists fun turn => turn ∈ turns ∧ turn.ends = true) ∨
          turnsOf events tail < turns.length) := by
  let loop := Loop.mk (Frame.zeros expectedLength) SendMessage.new worker connection
    (SendMessage.fillProcessIdentification SendMessage.new processId).data
  have served : start true processId turns worker connection = serve turns loop := rfl
  have closed : Arrives events tail loop.connection := arrives
  rw [served]
  exact ⟨(serve_arrives turns closed short).1, sessionIds_attendAll _ _ _,
    (serve_arrives turns closed short).2⟩

/-- A request for a session with one kilobyte. -/
def firstRequest : Request :=
  Wire.SessionRequest.fill Request.new (ascii "aaaabbbbccccdddd") 1 1

/-- The request arrives in two segments, a read fails, and the connection ends
in the middle of the next packet. -/
theorem arrives_firstRequest :
    Arrives [some firstRequest, none] [13]
      (delivered [firstRequest.data.take 20, firstRequest.data.drop 20] ++
        .failure :: delivered [[13]]) := by
  refine Arrives.failed _ [firstRequest] ?_ (.last [[13]] [] [13] rfl)
  rw [List.flatten_cons, List.flatten_singleton, List.take_append_drop, List.flatMap_singleton]

/-- A turn without a shutdown or a deletion. -/
def quietTurn : Turn := ⟨false, false, [], fun _ => none, ⟨3, true, true, true, 100⟩⟩

theorem answers_in_order_first :
    (start true (ascii "p") [quietTurn, quietTurn, quietTurn, quietTurn]
      (Worker.start 4 S3Swapper.new)
      (delivered [firstRequest.data.take 20, firstRequest.data.drop 20] ++
        .failure :: delivered [[13]])).ended = true ∧
      (attendAll (untilEnding [quietTurn, quietTurn, quietTurn, quietTurn])
        [some firstRequest, none] (Worker.start 4 S3Swapper.new)).map StatusMessage.sessionId =
          [ascii "aaaabbbbccccdddd"] := by
  have outcome := answers_in_order (ascii "p") [quietTurn, quietTurn, quietTurn, quietTurn]
    (Worker.start 4 S3Swapper.new) arrives_firstRequest (by decide)
  refine ⟨outcome.2.2.mpr (Or.inr (by decide)), ?_⟩
  rw [outcome.2.1]
  decide +kernel

end ProcessLoop
end Runtime
end Praas
