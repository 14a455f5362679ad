import Praas.System.Model

namespace Praas
namespace System

open Library
open ControlPlane
open Praas.Runtime

/-!
# What one step can do

`Transition` lists the steps of the system, each with the condition under
which it is taken and the state it leads to.  `step_transition` says that the
step function takes no other steps, so that an invariant is proved by one case
for every constructor and the step function is not unfolded again.

A thread that moves is shown in its place, between the threads before and
after it.  The moves of a client that touch neither the database nor the
tables are collected in `Client.Quiet`.
-/

/-- The moves of a client that only change the client itself. -/
inductive Client.Quiet (plane : Plane) : Client -> Client -> Prop
  | missing (call : ClientCall) :
      Quiet plane (.getProcess call) (.returned .processMissing)
  | known (call : ClientCall) (processName : Bytes) :
      plane.redis.get (.process call.processId) = some processName ->
      Quiet plane (.getProcess call) (.checkAlive call processName)
  | fresh (call : ClientCall) (processName : Bytes) :
      plane.redis.get (.process call.processId) = some processName ->
      Quiet plane (.getProcess call) (.recordDetails call processName)
  | alive (call : ClientCall) (processName : Bytes) :
      Quiet plane (.checkAlive call processName) (.returned .alreadyAlive)
  | notAlive (call : ClientCall) (processName : Bytes) :
      Quiet plane (.checkAlive call processName) (.takeSwapped call processName)
  | unknown (call : ClientCall) (processName : Bytes) :
      Quiet plane (.takeSwapped call processName) (.returned .sessionUnknown)
  | detailsMissing (call : ClientCall) (processName : Bytes) :
      plane.redis.get (.session call.sessionId) = none ->
      Quiet plane (.readDetails call processName) (.returned .detailsMissing)
  | details (call : ClientCall) (processName details : Bytes) :
      plane.redis.get (.session call.sessionId) = some details ->
      Quiet plane (.readDetails call processName) (.findProcess (call.restored processName details))

inductive Transition (state : State) : Action -> State -> Prop
  | allocate (processName uuid : Bytes) : uuid ∉ state.used ->
      Transition state (.allocate processName uuid) { state with
        plane := state.plane.processAllocation processName uuid
        used := uuid :: state.used }
  | call (call : ClientCall) :
      Transition state (.call call) { state with clients := state.clients ++ [.getProcess call] }
  | quiet {before after : List Client} {client next : Client} {uuid : Bytes} :
      state.clients = before ++ client :: after ->
      client.Quiet state.plane next ->
      Transition state (.client before.length uuid)
        { state with clients := before ++ next :: after }
  | takeSwapped {before after : List Client} {call : ClientCall} {processName uuid : Bytes} :
      state.clients = before ++ .takeSwapped call processName :: after ->
      (state.plane.redis.srem (.sessionsSwapped call.processId) call.sessionId).1 = 1 ->
      Transition state (.client before.length uuid)
        (({ state with clients := before ++ .readDetails call processName :: after } : State).setRedis
          (state.plane.redis.srem (.sessionsSwapped call.processId) call.sessionId).2)
  | recordDetails {before after : List Client} {call : ClientCall} {processName uuid : Bytes} :
      state.clients = before ++ .recordDetails call processName :: after ->
      uuid ∉ state.used ->
      Transition state (.client before.length uuid)
        { ({ state with
            clients := before ++ .findProcess (call.created processName uuid) :: after } :
              State).setRedis (state.plane.redis.set (.session uuid) call.details) with
          used := uuid :: state.used }
  | reserve {before after : List Client} {placement : Placement} {process : Process}
      {uuid : Bytes} :
      state.clients = before ++ .findProcess placement :: after ->
      state.plane.resources.processes.find? Process.hasFreeSlot = some process ->
      Transition state (.client before.length uuid)
        (({ state with
            clients := before ++ .addExisting placement process.processId :: after } :
              State).setResources (state.plane.resources.getFreeProcess placement.processId).2)
  | allBusy {before after : List Client} {placement : Placement} {uuid : Bytes} :
      state.clients = before ++ .findProcess placement :: after ->
      state.plane.resources.processes.find? Process.hasFreeSlot = none ->
      Transition state (.client before.length uuid)
        { state with clients := before ++ .addProcess placement :: after }
  | addExisting {before after : List Client} {placement : Placement} {processId uuid : Bytes} :
      state.clients = before ++ .addExisting placement processId :: after ->
      state.mutex = none -> (state.plane.resources.getProcess processId).isSome ->
      Transition state (.client before.length uuid) { state with
        clients := before ++ .inSection :: after
        plane := state.plane.addSession placement processId
        mutex := some (.writeRequest before.length placement processId) }
  | addProcess {before after : List Client} {placement : Placement} {uuid : Bytes} :
      state.clients = before ++ .addProcess placement :: after ->
      state.mutex = none -> uuid ∉ state.used ->
      Transition state (.client before.length uuid) { state with
        clients := before ++ .inSection :: after
        plane := state.plane.addProcess placement uuid
        mutex := some (.addSession before.length placement uuid)
        used := uuid :: state.used }
  | writeRequest {before after : List Client} {placement : Placement} {processId uuid : Bytes} :
      state.clients = before ++ .inSection :: after ->
      state.mutex = some (.writeRequest before.length placement processId) ->
      Transition state (.client before.length uuid) { state with
        clients := before ++ .markAlive placement :: after
        plane := state.plane.writeRequest processId placement.sessionId
        mutex := none }
  | addSession {before after : List Client} {placement : Placement} {processId uuid : Bytes} :
      state.clients = before ++ .inSection :: after ->
      state.mutex = some (.addSession before.length placement processId) ->
      Transition state (.client before.length uuid) { state with
        plane := state.plane.addSession placement processId
        mutex := some (.allocateProcess before.length placement processId) }
  | allocateProcess {before after : List Client} {placement : Placement}
      {processId uuid : Bytes} :
      state.clients = before ++ .inSection :: after ->
      state.mutex = some (.allocateProcess before.length placement processId) ->
      Transition state (.client before.length uuid) { state with
        clients := before ++ .markAlive placement :: after
        plane := state.plane.allocateProcess processId
        mutex := none }
  | markAlive {before after : List Client} {placement : Placement} {uuid : Bytes} :
      state.clients = before ++ .markAlive placement :: after ->
      Transition state (.client before.length uuid) { state with
        clients := before ++ .returned (.session placement.sessionId) :: after
        plane := state.plane.markAlive placement }
  | connect {processId : Bytes} {swapper : S3Swapper} {entry : Bytes × Int} :
      state.plane.started.find? (fun entry => decide (entry.1 = processId)) = some entry ->
      (state.nodes processId).up = false ->
      Transition state (.connect processId swapper) { state.setNode processId
        { state.nodes processId with up := true, worker := Worker.start entry.2 swapper } with
          plane := state.plane.connect processId }
  | enterPending {processId : Bytes} {process : Process} :
      state.plane.resources.getProcess processId = some process ->
      state.mutex = none -> process.connected = true -> process.polled = false ->
      Transition state (.enterPending processId)
        { state with mutex := some (.sendPending processId 0) }
  | sendPending {processId sessionId : Bytes} {index : Nat} {process : Process} :
      state.mutex = some (.sendPending processId index) ->
      state.plane.resources.getProcess processId = some process ->
      process.sessions[index]? = some sessionId ->
      Transition state .sendPending { state with
        plane := state.plane.sendPending processId sessionId
        mutex := some (.sendPending processId (index + 1)) }
  | poll {processId : Bytes} {index : Nat} {process : Process} :
      state.mutex = some (.sendPending processId index) ->
      state.plane.resources.getProcess processId = some process ->
      process.sessions.length ≤ index ->
      Transition state .sendPending
        { state with plane := state.plane.poll processId, mutex := none }
  | receive {processId : Bytes} {calls : Syscalls} {request : SessionRequest} :
      (state.nodes processId).up = true ->
      (state.plane.outgoing processId)[(state.nodes processId).consumed]? = some request ->
      Transition state (.receive processId calls) (state.setNode processId
        { state.nodes processId with
          worker := ((state.nodes processId).worker.allocateSession state.store request calls).2
          consumed := (state.nodes processId).consumed + 1
          answering := some
            (((state.nodes processId).worker.allocateSession state.store request calls).1,
              request.sessionId) })
  | answer {processId sessionId : Bytes} {result : ErrorCode} :
      (state.nodes processId).answering = some (result, sessionId) ->
      Transition state (.answer processId) (state.setNode processId
        { state.nodes processId with
          answering := none
          outbox := (state.nodes processId).outbox ++ [StatusMessage.answer result sessionId] })
  | touch {processId path contents : Bytes} :
      ((state.nodes processId).worker.objects path).map List.length = some contents.length ->
      Transition state (.touch processId path contents) (state.setNode processId
        { state.nodes processId with
          worker := { (state.nodes processId).worker with
            objects := Function.update (state.nodes processId).worker.objects path
              (some contents) } })
  | deletedNothing {processId : Bytes} {pid : Int} {putObject : Bool} :
      (state.nodes processId).worker.deletedEntry pid = none ->
      Transition state (.sessionDeleted processId pid putObject) state
  | sessionDeleted {processId : Bytes} {pid : Int} {putObject : Bool} {entry : SessionFork}
      {message : StatusMessage} :
      (state.nodes processId).up = true ->
      (state.nodes processId).worker.deletedEntry pid = some entry ->
      ((state.nodes processId).worker.sessionDeleted state.store pid putObject).2.2 =
        some message ->
      Transition state (.sessionDeleted processId pid putObject)
        { state.setNode processId { state.nodes processId with
            worker := ((state.nodes processId).worker.sessionDeleted state.store pid putObject).1
            closing := (state.nodes processId).closing ++ [message] } with
          store :=
            ((state.nodes processId).worker.sessionDeleted state.store pid putObject).2.1 }
  | writeClosure {processId : Bytes} {before after : List StatusMessage}
      {message : StatusMessage} :
      (state.nodes processId).closing = before ++ message :: after ->
      Transition state (.writeClosure processId before.length) (state.setNode processId
        { state.nodes processId with
          closing := before ++ after
          outbox := (state.nodes processId).outbox ++ [message] })
  | deliverAnswer {processId : Bytes} {message : StatusMessage} {rest : List StatusMessage} :
      (state.nodes processId).outbox = message :: rest ->
      message.isClosure = false ->
      Transition state (.deliver processId)
        (state.setNode processId { state.nodes processId with outbox := rest })
  | deliverClosure {processId : Bytes} {process : Process} {message : StatusMessage}
      {rest : List StatusMessage} :
      state.plane.resources.getProcess processId = some process ->
      (state.nodes processId).outbox = message :: rest ->
      message.isClosure = true ->
      Transition state (.deliver processId)
        { state.setNode processId { state.nodes processId with outbox := rest } with
          closures := state.closures ++
            [⟨process.processId, process.globalProcessId, message.sessionId, .remove⟩] }
  | remove {before after : List Closure} {closure : Closure} :
      state.closures = before ++ closure :: after ->
      closure.stage = .remove -> state.mutex = none ->
      Transition state (.closure before.length)
        (({ state with
            closures := before ++ { closure with stage := .unmarkOwn } :: after } :
              State).setResources
          (state.plane.resources.removeSession closure.processId closure.sessionId))
  | unmarkOwn {before after : List Closure} {closure : Closure} :
      state.closures = before ++ closure :: after ->
      closure.stage = .unmarkOwn ->
      Transition state (.closure before.length)
        (({ state with
            closures := before ++ { closure with stage := .addSwapped } :: after } :
              State).setRedis
          (state.plane.redis.srem (.sessionsAlive closure.processId) closure.sessionId).2)
  | addSwapped {before after : List Closure} {closure : Closure} :
      state.closures = before ++ closure :: after ->
      closure.stage = .addSwapped ->
      Transition state (.closure before.length)
        (({ state with
            closures := before ++ { closure with stage := .unmark } :: after } :
              State).setRedis
          (state.plane.redis.sadd (.sessionsSwapped closure.globalProcessId) closure.sessionId))
  | unmark {before after : List Closure} {closure : Closure} :
      state.closures = before ++ closure :: after ->
      closure.stage = .unmark ->
      Transition state (.closure before.length)
        (({ state with
            closures := before ++ { closure with stage := .finished } :: after } :
              State).setRedis
          (state.plane.redis.srem (.sessionsAlive closure.globalProcessId) closure.sessionId).2)
  | reorder {processes : List Process} :
      processes.Perm state.plane.resources.processes ->
      Transition state (.reorder processes)
        (state.setResources { state.plane.resources with processes := processes })

/-! ## The step function takes no other steps -/

theorem clientStep_transition {state next : State} {index : Nat} {uuid : Bytes} {client : Client}
    (present : state.clients[index]? = some client)
    (stepped : clientStep state index uuid client = some next) :
    Transition state (.client index uuid) next := by
  rcases split_of_getElem present with ⟨before, after, whole, rfl, replaced⟩
  cases client with
  | getProcess call =>
      simp only [clientStep, replaced] at stepped
      split at stepped
      · cases stepped
        exact .quiet whole (.missing call)
      · rename_i processName found
        split at stepped
        · cases stepped
          exact .quiet whole (.known call processName found)
        · cases stepped
          exact .quiet whole (.fresh call processName found)
  | checkAlive call processName =>
      simp only [clientStep, replaced] at stepped
      split at stepped
      · cases stepped
        exact .quiet whole (.alive call processName)
      · cases stepped
        exact .quiet whole (.notAlive call processName)
  | takeSwapped call processName =>
      simp only [clientStep, replaced] at stepped
      split at stepped
      · rename_i removed
        cases stepped
        exact .takeSwapped whole removed
      · rename_i absent
        rw [Redis.srem_reply] at absent
        rw [Redis.srem_absent _ _ _ absent] at stepped
        cases stepped
        exact .quiet whole (.unknown call processName)
  | readDetails call processName =>
      simp only [clientStep, replaced] at stepped
      split at stepped
      · rename_i absent
        cases stepped
        exact .quiet whole (.detailsMissing call processName absent)
      · rename_i details found
        cases stepped
        exact .quiet whole (.details call processName details found)
  | recordDetails call processName =>
      simp only [clientStep, replaced] at stepped
      split at stepped
      · cases stepped
      · rename_i unused
        cases stepped
        exact .recordDetails whole unused
  | findProcess placement =>
      simp only [clientStep, replaced] at stepped
      cases free : state.plane.resources.processes.find? Process.hasFreeSlot with
      | none =>
          simp only [Resources.getFreeProcess, free, Option.some.injEq] at stepped
          subst stepped
          exact .allBusy whole free
      | some process =>
          have taken : (state.plane.resources.getFreeProcess placement.processId).1 =
              some process.processId := by
            simp only [Resources.getFreeProcess, free]
          rw [taken] at stepped
          cases stepped
          exact .reserve whole free
  | addExisting placement processId =>
      simp only [clientStep, replaced] at stepped
      split at stepped
      · cases stepped
      · rename_i allowed
        simp only [not_or, Option.not_isSome_iff_eq_none, Option.isNone_iff_eq_none,
          ← Option.isSome_iff_ne_none] at allowed
        cases stepped
        exact .addExisting whole allowed.1 allowed.2
  | addProcess placement =>
      simp only [clientStep, replaced] at stepped
      split at stepped
      · cases stepped
      · rename_i allowed
        simp only [not_or, Option.not_isSome_iff_eq_none] at allowed
        cases stepped
        exact .addProcess whole allowed.1 allowed.2
  | inSection =>
      simp only [clientStep, replaced] at stepped
      split at stepped
      · rename_i owner placement processId held
        split at stepped
        · rename_i same
          subst same
          cases stepped
          exact .writeRequest whole held
        · cases stepped
      · rename_i owner placement processId held
        split at stepped
        · rename_i same
          subst same
          cases stepped
          exact .addSession whole held
        · cases stepped
      · rename_i owner placement processId held
        split at stepped
        · rename_i same
          subst same
          cases stepped
          exact .allocateProcess whole held
        · cases stepped
      · cases stepped
  | markAlive placement =>
      simp only [clientStep, replaced] at stepped
      cases stepped
      exact .markAlive whole
  | returned reply => cases stepped

theorem closureStep_transition {state next : State} {index : Nat} {closure : Closure}
    (present : state.closures[index]? = some closure)
    (stepped : closureStep state index closure = some next) :
    Transition state (.closure index) next := by
  rcases split_of_getElem present with ⟨before, after, whole, rfl, replaced⟩
  cases stage : closure.stage with
  | remove =>
      simp only [closureStep, stage, replaced] at stepped
      split at stepped
      · cases stepped
      · rename_i free
        rw [Option.not_isSome_iff_eq_none] at free
        cases stepped
        exact .remove whole stage free
  | unmarkOwn =>
      simp only [closureStep, stage, replaced] at stepped
      cases stepped
      exact .unmarkOwn whole stage
  | addSwapped =>
      simp only [closureStep, stage, replaced] at stepped
      cases stepped
      exact .addSwapped whole stage
  | unmark =>
      simp only [closureStep, stage, replaced] at stepped
      cases stepped
      exact .unmark whole stage
  | finished =>
      simp only [closureStep, stage, reduceCtorEq] at stepped

theorem pendingStep_transition {state next : State} (stepped : pendingStep state = some next) :
    Transition state .sendPending next := by
  unfold pendingStep at stepped
  split at stepped
  · rename_i processId index held
    split at stepped
    · cases stepped
    · rename_i process found
      split at stepped
      · rename_i sessionId pending
        cases stepped
        exact .sendPending held found pending
      · rename_i ended
        cases stepped
        exact .poll held found (List.getElem?_eq_none_iff.mp ended)
  · cases stepped

theorem receiveStep_transition {state next : State} {processId : Bytes} {calls : Syscalls}
    (stepped : receiveStep state processId calls = some next) :
    Transition state (.receive processId calls) next := by
  unfold receiveStep at stepped
  dsimp only at stepped
  split at stepped
  · cases stepped
  · rename_i allowed
    simp only [not_or, Bool.not_eq_false] at allowed
    split at stepped
    · cases stepped
    · rename_i request found
      cases stepped
      exact .receive allowed.1 found

theorem deletedStep_transition {state next : State} {processId : Bytes} {pid : Int}
    {putObject : Bool} (stepped : deletedStep state processId pid putObject = some next) :
    Transition state (.sessionDeleted processId pid putObject) next := by
  unfold deletedStep at stepped
  dsimp only at stepped
  split at stepped
  · cases stepped
  · rename_i down
    rw [Bool.not_eq_false] at down
    cases found : (state.nodes processId).worker.deletedEntry pid with
    | none =>
        have unchanged : next = state := by
          simp only [Worker.sessionDeleted_none found, Option.toList_none, List.append_nil,
            State.setNode, Function.update_eq_self, Option.some.injEq] at stepped
          exact stepped.symm
        rw [unchanged]
        exact .deletedNothing found
    | some entry =>
        rcases Worker.message_sessionDeleted found state.store putObject with ⟨size, message⟩
        have moved := Transition.sessionDeleted down found message
        rw [message] at stepped
        cases stepped
        exact moved

theorem deliverStep_transition {state next : State} {processId : Bytes}
    (stepped : deliverStep state processId = some next) :
    Transition state (.deliver processId) next := by
  unfold deliverStep at stepped
  dsimp only at stepped
  split at stepped
  · rename_i process message rest found queued
    split at stepped
    · cases stepped
    · split at stepped
      · rename_i closes
        cases stepped
        exact .deliverClosure found queued closes
      · rename_i open_
        cases stepped
        exact .deliverAnswer queued (Bool.eq_false_iff.mpr open_)
  · cases stepped

theorem step_transition {state next : State} {action : Action}
    (stepped : step state action = some next) : Transition state action next := by
  cases action with
  | allocate processName uuid =>
      simp only [step] at stepped
      split at stepped
      · cases stepped
      · rename_i unused
        cases stepped
        exact .allocate processName uuid unused
  | call call =>
      cases stepped
      exact .call call
  | client index uuid =>
      simp only [step] at stepped
      split at stepped
      · cases stepped
      · rename_i client present
        exact clientStep_transition present stepped
  | connect processId swapper =>
      simp only [step] at stepped
      split at stepped
      · cases stepped
      · rename_i entry found
        split at stepped
        · cases stepped
        · rename_i down
          cases stepped
          exact .connect found (Bool.eq_false_iff.mpr down)
  | enterPending processId =>
      simp only [step] at stepped
      split at stepped
      · cases stepped
      · rename_i process found
        split at stepped
        · cases stepped
        · rename_i allowed
          simp only [not_or, Bool.not_eq_false, Bool.not_eq_true, Option.isSome_eq_false_iff,
            Option.isNone_iff_eq_none] at allowed
          cases stepped
          exact .enterPending found allowed.1 allowed.2.1 allowed.2.2
  | sendPending => exact pendingStep_transition stepped
  | receive processId calls => exact receiveStep_transition stepped
  | answer processId =>
      simp only [step] at stepped
      split at stepped
      · cases stepped
      · rename_i result sessionId waiting
        cases stepped
        exact .answer waiting
  | touch processId path contents =>
      simp only [step] at stepped
      split at stepped
      · rename_i sized
        cases stepped
        exact .touch sized
      · cases stepped
  | sessionDeleted processId pid putObject => exact deletedStep_transition stepped
  | writeClosure processId index =>
      simp only [step] at stepped
      split at stepped
      · cases stepped
      · rename_i message present
        rcases split_of_getElem present with ⟨before, after, whole, rfl, _⟩
        have moved := Transition.writeClosure whole
        rw [eraseIdx_middle whole] at stepped
        cases stepped
        exact moved
  | deliver processId => exact deliverStep_transition stepped
  | closure index =>
      simp only [step] at stepped
      split at stepped
      · cases stepped
      · rename_i closure present
        exact closureStep_transition present stepped
  | reorder processes =>
      simp only [step] at stepped
      split at stepped
      · rename_i permuted
        cases stepped
        exact .reorder (List.isPerm_iff.mp permuted)
      · cases stepped

/-! ## The owner of the mutex -/

/-- The mutex is held by a section of the thread. -/
def Opened (index : Nat) : Option Section -> Prop
  | some (.writeRequest owner _ _) => owner = index
  | some (.addSession owner _ _) => owner = index
  | some (.allocateProcess owner _ _) => owner = index
  | _ => False

theorem not_opened_of_free {index : Nat} {mutex : Option Section} (free : mutex = none) :
    ¬ Opened index mutex := by
  rw [free]
  exact id

end System
end Praas
