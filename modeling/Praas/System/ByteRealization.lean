import Praas.System.ByteRefinement

namespace Praas
namespace System

open Library
open ControlPlane
open Praas.Runtime
open Wire

/-!
# Every run on messages happens on bytes

The system on bytes can do nothing that the system on messages cannot.  Here is
the other direction.  However the bytes of the connections are split at some
moment, a reader can take what is missing of its packet and then act on it, so
whatever the system on messages can do next is still possible.

The steps on bytes that are enabled are looked for; what they lead to is known
from the refinement, since the system on messages has one outcome for every
action.
-/

namespace Link

/-- The states of the system on messages that can be reached with the values
that the source's types and its generator allow. -/
def MessageReachable (state : System.State) : Prop :=
  Exists fun trace => System.Run trace state ∧
    TransitionSystem.Guarded (fun _ action => admissible action = true) trace

/-- A state on bytes and one on messages that it carries. -/
structure Matches (bytes : State) (state : System.State) : Prop where
  carries : Carries bytes state
  reachable : MessageReachable state

theorem Matches.formed {bytes : State} {state : System.State} (both : Matches bytes state) :
    Formed state := by
  rcases both.reachable with ⟨trace, run, allowed⟩
  exact formed_of_run run allowed

theorem MessageReachable.step {state next : System.State} (reachable : MessageReachable state)
    {action : System.Action} (allowed : admissible action = true)
    (moved : System.step state action = some next) : MessageReachable next := by
  rcases reachable with ⟨trace, run, guarded⟩
  exact ⟨_, run.extend moved, TransitionSystem.guarded_append_iff.mpr ⟨guarded, allowed⟩⟩

variable {bytes : State} {state next : System.State} {processId : Bytes}

theorem leads_step {action : Action} {target : State} (stepped : step bytes action = some target) :
    system.Leads bytes target :=
  TransitionSystem.Leads.step stepped (.refl target)

/-- An action on bytes that is answered by an action on messages realizes it. -/
theorem leads_of_answered {action : Action} {message : System.Action} {target : State}
    (stepped : step bytes action = some target)
    (answered : Exists fun next => System.step state message = some next ∧ Carries target next)
    (moved : System.step state message = some next) :
    Exists fun target => system.Leads bytes target ∧ Carries target next := by
  rcases answered with ⟨other, same, carries⟩
  cases same.symm.trans moved
  exact ⟨target, leads_step stepped, carries⟩

/-! ## Completing a packet -/

theorem requestBytes_cons (request : SessionRequest) (rest : List SessionRequest) :
    requestBytes (request :: rest) = requestPacket request ++ requestBytes rest :=
  List.flatMap_cons

theorem complete_request (carries : Carries bytes state) {request : SessionRequest}
    (pending : (state.plane.outgoing processId)[(state.nodes processId).consumed]? = some request)
    (ready : ¬((state.nodes processId).up = false ∨
      (state.nodes processId).answering.isSome = true)) :
    Exists fun middle => system.Leads bytes middle ∧ Carries middle state ∧
      (middle.nodes processId).request.length = expectedLength := by
  have node := carries.nodes processId
  by_cases full : (bytes.nodes processId).request.length = expectedLength
  · exact ⟨bytes, .refl bytes, carries, full⟩
  have fits := node.requestFits
  have whole := congrArg List.length node.requests
  rcases List.getElem?_eq_some_iff.mp pending with ⟨inside, _⟩
  rw [List.drop_eq_getElem_cons inside, requestBytes_cons, List.length_append, List.length_append,
    requestPacket_length, ← carries.plane] at whole
  let missing := expectedLength - (bytes.nodes processId).request.length
  let more := ((requestBytes (bytes.plane.outgoing processId)).drop
    (bytes.nodes processId).taken).take missing
  have size : more.length = missing := List.length_take_of_le (by omega)
  have allowed : ¬((bytes.nodes processId).up = false ∨
      (bytes.nodes processId).answering.isSome = true ∨ more = [] ∨
      expectedLength < (bytes.nodes processId).request.length + more.length) := by
    rw [node.up, node.answering, ← List.length_eq_zero_iff]
    rintro (down | answering | empty | long)
    · exact ready (Or.inl down)
    · exact ready (Or.inr answering)
    · omega
    · omega
  have stepped : step bytes (.readRequest processId missing) = some (bytes.setNode processId
      { bytes.nodes processId with
        taken := (bytes.nodes processId).taken + more.length
        request := (bytes.nodes processId).request ++ more }) := if_neg allowed
  refine ⟨_, leads_step stepped, carries_readRequest carries stepped, ?_⟩
  change (Function.update bytes.nodes processId _ processId).request.length = _
  rw [Function.update_self, List.length_append]
  omega

theorem statusBytes_cons (message : StatusMessage) (rest : List StatusMessage) :
    statusBytes (message :: rest) = (packet message).data ++ statusBytes rest :=
  List.flatMap_cons

/-- The control plane can take the rest of a packet from a connection that is
armed. -/
theorem complete_header (carries : Carries bytes state) {message : StatusMessage}
    {rest : List StatusMessage} (queued : (state.nodes processId).outbox = message :: rest)
    (ready : armed bytes processId = true) :
    Exists fun middle => system.Leads bytes middle ∧ Carries middle state ∧
      (middle.nodes processId).header.length = headerLength := by
  have node := carries.nodes processId
  by_cases full : (bytes.nodes processId).header.length = headerLength
  · exact ⟨bytes, .refl bytes, carries, full⟩
  have fits := node.headerFits
  have whole := congrArg List.length node.messages
  rw [queued, statusBytes_cons, List.length_append, List.length_append, packet_length] at whole
  let missing := headerLength - (bytes.nodes processId).header.length
  let more := (bytes.nodes processId).written.take missing
  have size : more.length = missing := List.length_take_of_le (by omega)
  have allowed : ¬(armed bytes processId = false ∨ more = [] ∨
      headerLength < (bytes.nodes processId).header.length + more.length) := by
    rw [ready, ← List.length_eq_zero_iff]
    rintro (unarmed | empty | long)
    · cases unarmed
    · omega
    · omega
  have stepped : step bytes (.readHeader processId missing) = some (bytes.setNode processId
      { bytes.nodes processId with
        written := (bytes.nodes processId).written.drop more.length
        header := (bytes.nodes processId).header ++ more }) := if_neg allowed
  refine ⟨_, leads_step stepped, carries_readHeader carries stepped, ?_⟩
  change (Function.update bytes.nodes processId _ processId).header.length = _
  rw [Function.update_self, List.length_append]
  omega

/-! ## Steps that are enabled -/

theorem realize_control (carries : Carries bytes state) (control : Control)
    (allowed : admissible control.action = true)
    (moved : System.step state control.action = some next) :
    Exists fun target => system.Leads bytes target ∧ Carries target next := by
  have stepped : step bytes (.control control) = some (bytes.adopt (bare next)) := by
    simp only [step]
    rw [if_pos allowed, carries.front, step_bare, moved]
    rfl
  rcases carries_control carries stepped with ⟨other, ⟨_, same⟩, kept⟩
  exact leads_of_answered stepped ⟨other, same, kept⟩ moved

theorem realize_connect (carries : Carries bytes state) {swapper : S3Swapper}
    (moved : System.step state (.connect processId swapper) = some next) :
    Exists fun target => system.Leads bytes target ∧ Carries target next := by
  have node := carries.nodes processId
  cases stepped : step bytes (.connect processId swapper) with
  | some target => exact leads_of_answered stepped (carries_connect carries stepped) moved
  | none =>
      simp only [step, System.step, carries.plane, node.up] at stepped moved
      cases found : state.plane.started.find? (fun entry => decide (entry.1 = processId)) with
      | none => simp only [found, reduceCtorEq] at moved
      | some entry =>
          simp only [found] at stepped moved
          split at stepped
          · rename_i up
            rw [if_pos up] at moved
            cases moved
          · cases stepped

/-- A worker takes the rest of a request and allocates its session. -/
theorem realize_receive (carries : Carries bytes state) (formed : Formed state) {calls : Syscalls}
    (moved : System.step state (.receive processId calls) = some next) :
    Exists fun target => system.Leads bytes target ∧ Carries target next := by
  have received := moved
  simp only [System.step, System.receiveStep] at received
  split at received
  · cases received
  rename_i ready
  split at received
  · cases received
  rename_i request pending
  rcases complete_request carries pending ready with ⟨middle, leads, kept, full⟩
  have node := kept.nodes processId
  rcases first_request node full with ⟨first, found, same, _⟩
  rcases parse_requestPacket (formed.requests processId first (List.mem_of_getElem? found)) same
    full with ⟨message, parsed, _⟩
  rw [← node.up, ← node.answering] at ready
  cases stepped : step middle (.receive processId calls) with
  | some target =>
      rcases leads_of_answered stepped (carries_receive kept formed stepped) moved with
        ⟨target, later, done⟩
      exact ⟨target, leads.trans later, done⟩
  | none =>
      simp only [step, Link.receiveStep, dif_pos full, if_neg ready, parsed, reduceCtorEq]
        at stepped

/-- The control plane takes the rest of a packet and acts on its message. -/
theorem realize_deliver (carries : Carries bytes state) (formed : Formed state)
    (moved : System.step state (.deliver processId) = some next) :
    Exists fun target => system.Leads bytes target ∧ Carries target next := by
  have delivered := moved
  simp only [System.step, System.deliverStep] at delivered
  split at delivered
  · rename_i process message rest known queued
    split at delivered
    · cases delivered
    rename_i ready
    have isArmed : armed bytes processId = true := by
      rw [armed, carries.plane, known, handling_front carries, Option.any_some]
      cases polled : process.polled <;> cases handled : handling state processId <;>
        simp only [polled, handled, true_or, or_true, not_true_eq_false] at ready
      rfl
    rcases complete_header carries queued isArmed with ⟨middle, leads, kept, full⟩
    rcases split_first_packet packet_length (by decide : 0 < headerLength) full
      (kept.nodes processId).messages with ⟨first, others, same, front, _⟩
    have fits := (formed.nodes processId).outbox first (same ▸ List.mem_cons_self)
    have buffer : (⟨(middle.nodes processId).header, full⟩ : Header) = packet first :=
      Frame.ext front
    rcases read_packet fits with ⟨parsed, _⟩
    cases stepped : step middle (.deliver processId) with
    | some target =>
        rcases leads_of_answered stepped (carries_deliver kept formed stepped) moved with
          ⟨target, later, done⟩
        exact ⟨target, leads.trans later, done⟩
    | none =>
        simp only [step, Link.deliverStep, dif_pos full, kept.plane, known, handling_front kept,
          if_neg ready, buffer, parsed] at stepped
        split at stepped
        · cases stepped
        · cases stepped
  · cases delivered

theorem realize_answer (carries : Carries bytes state)
    (moved : System.step state (.answer processId) = some next) :
    Exists fun target => system.Leads bytes target ∧ Carries target next := by
  cases stepped : step bytes (.answer processId) with
  | some target => exact leads_of_answered stepped (carries_answer carries stepped) moved
  | none =>
      simp only [step, answerStep, (carries.nodes processId).answering] at stepped
      simp only [System.step] at moved
      split at moved
      · cases moved
      · rename_i waiting
        simp only [waiting, reduceCtorEq] at stepped

theorem realize_touch {path contents : Bytes} (carries : Carries bytes state)
    (moved : System.step state (.touch processId path contents) = some next) :
    Exists fun target => system.Leads bytes target ∧ Carries target next := by
  cases stepped : step bytes (.touch processId path contents) with
  | some target => exact leads_of_answered stepped (carries_touch carries stepped) moved
  | none =>
      simp only [step, (carries.nodes processId).worker] at stepped
      simp only [System.step] at moved
      split at moved
      · rename_i sized
        simp only [if_pos sized, reduceCtorEq] at stepped
      · cases moved

theorem realize_sessionDeleted {pid : Int} {putObject : Bool} (carries : Carries bytes state)
    (moved : System.step state (.sessionDeleted processId pid putObject) = some next) :
    Exists fun target => system.Leads bytes target ∧ Carries target next := by
  cases stepped : step bytes (.sessionDeleted processId pid putObject) with
  | some target => exact leads_of_answered stepped (carries_sessionDeleted carries stepped) moved
  | none =>
      simp only [step, Link.deletedStep, (carries.nodes processId).up] at stepped
      simp only [System.step, System.deletedStep] at moved
      split at moved
      · cases moved
      · rename_i up
        simp only [if_neg up, reduceCtorEq] at stepped

theorem realize_writeClosure {index : Nat} (carries : Carries bytes state)
    (moved : System.step state (.writeClosure processId index) = some next) :
    Exists fun target => system.Leads bytes target ∧ Carries target next := by
  cases stepped : step bytes (.writeClosure processId index) with
  | some target => exact leads_of_answered stepped (carries_writeClosure carries stepped) moved
  | none =>
      simp only [step, writeClosureStep, (carries.nodes processId).closing] at stepped
      simp only [System.step] at moved
      split at moved
      · cases moved
      · rename_i known
        simp only [known, reduceCtorEq] at stepped

/-! ## The realization -/

/-- Whatever the system on messages can do next, the system on bytes can. -/
theorem step_realized (both : Matches bytes state) {action : System.Action}
    (allowed : admissible action = true) (moved : System.step state action = some next) :
    Exists fun target => system.Leads bytes target ∧ Matches target next := by
  have reachable := both.reachable.step allowed moved
  suffices realized : Exists fun target => system.Leads bytes target ∧ Carries target next by
    rcases realized with ⟨target, leads, carries⟩
    exact ⟨target, leads, carries, reachable⟩
  have carries := both.carries
  have formed := both.formed
  cases action with
  | allocate processName uuid => exact realize_control carries (.allocate _ _) allowed moved
  | call asked => exact realize_control carries (.call _) allowed moved
  | client index uuid => exact realize_control carries (.client _ _) allowed moved
  | connect processId swapper => exact realize_connect carries moved
  | enterPending processId => exact realize_control carries (.enterPending _) allowed moved
  | sendPending => exact realize_control carries .sendPending allowed moved
  | receive processId calls => exact realize_receive carries formed moved
  | answer processId => exact realize_answer carries moved
  | touch processId path contents => exact realize_touch carries moved
  | sessionDeleted processId pid putObject => exact realize_sessionDeleted carries moved
  | writeClosure processId index => exact realize_writeClosure carries moved
  | deliver processId => exact realize_deliver carries formed moved
  | closure index => exact realize_control carries (.closure _) allowed moved
  | reorder processes => exact realize_control carries (.reorder _) allowed moved

/-- Every run on messages happens on bytes.  At any moment, however the packets
of the connections have been split so far, the system on bytes can go on to
carry whatever the system on messages can come to from there. -/
theorem messages_realized (both : Matches bytes state)
    {trace : List (System.State × System.Action)} {final : System.State}
    (run : TransitionSystem.Run System.system state trace final)
    (allowed : TransitionSystem.Guarded (fun _ action => admissible action = true) trace) :
    Exists fun target => system.Leads bytes target ∧ Matches target final := by
  apply run.realized Matches both _ allowed
  intro source middle action target related fits stepped
  exact step_realized related fits stepped

/-- What a run on bytes reaches carries a state that is reachable on messages. -/
theorem matches_of_run {trace : List (State × Action)} {final : State} (run : Link.Run trace final) :
    Exists fun reached => Matches final reached := by
  have simulated : Exists fun messages => Exists fun reached => System.Run messages reached ∧
      TransitionSystem.Guarded (fun _ action => admissible action = true) messages ∧
      Carries final reached := by
    apply TransitionSystem.Run.simulated Carries carries_initial _ run
    intro earlier source middle action target reached guarded related stepped
    exact step_answered related (formed_of_run reached guarded) stepped
  rcases simulated with ⟨messages, reached, made, allowed, carries⟩
  exact ⟨reached, carries, messages, made, allowed⟩

/-- A request of which a part has been read is not read on the other level. -/
theorem consumed_of_partial (carries : Carries bytes state)
    (one : (bytes.plane.outgoing processId).length = 1)
    (partly : 0 < (bytes.nodes processId).request.length) : (state.nodes processId).consumed = 0 := by
  have node := carries.nodes processId
  rw [carries.plane] at one
  by_contra read
  have whole : (state.plane.outgoing processId).drop (state.nodes processId).consumed = [] :=
    List.drop_eq_nil_of_le (by omega)
  have left := congrArg List.length node.requests
  rw [whole, List.length_append] at left
  change _ = 0 at left
  omega

/-- A client of the process `1…1` creates the session `2…2` on the new process
worker `3…3`, which has read 20 bytes of the request. -/
def halfRead : List Action :=
  ([.allocate [] (uniform 1), .call { newSessionCall with processId := uniform 1 },
    .client 0 (uniform 2), .client 0 (uniform 2), .client 0 (uniform 3), .client 0 (uniform 3),
    .client 0 (uniform 3), .client 0 (uniform 3)] : List Control).map .control ++
  [.connect (uniform 3) (S3Swapper.enableSwapping none), .control (.enterPending (uniform 3)),
    .control .sendPending, .control .sendPending, .readRequest (uniform 3) 20]

/-- From there the worker can read the rest and serve the request, as it does on
messages. -/
theorem messages_realized_served :
    Exists fun trace => Exists fun middle => Link.Run trace middle ∧
      (middle.nodes (uniform 3)).request.length = 20 ∧
      Exists fun target => system.Leads middle target ∧ Exists fun final =>
        (final.nodes (uniform 3)).consumed = 1 ∧ Matches target final := by
  have found := TransitionSystem.exists_run system State.initial halfRead
    (fun _ middle => decide ((middle.nodes (uniform 3)).request.length = 20 ∧
      (middle.nodes (uniform 3)).up = true ∧ (middle.nodes (uniform 3)).answering = none ∧
      (middle.plane.outgoing (uniform 3)).length = 1)) (by decide +kernel)
  rcases found with ⟨trace, middle, run, tested⟩
  rcases of_decide_eq_true tested with ⟨partly, up, idle, one⟩
  rcases matches_of_run run with ⟨state, both⟩
  have node := both.carries.nodes (uniform 3)
  have unread := consumed_of_partial both.carries one (by omega)
  rw [both.carries.plane] at one
  rcases List.length_eq_one_iff.mp one with ⟨request, only⟩
  have served : Exists fun next =>
      System.step state (.receive (uniform 3) succeedingCalls) = some next ∧
        (next.nodes (uniform 3)).consumed = 1 := by
    have running := node.up.symm.trans up
    have waiting := node.answering.symm.trans idle
    simp only [System.step, System.receiveStep, running, waiting, unread, only,
      List.getElem?_cons_zero, Bool.true_eq_false, Option.isSome_none, Bool.false_eq_true, or_self,
      if_false, Option.some.injEq, exists_eq_left', System.State.setNode, Function.update_self]
  rcases served with ⟨next, stepped, consumed⟩
  have onward : TransitionSystem.Run System.system state
      [(state, .receive (uniform 3) succeedingCalls)] next := .extend .start stepped
  rcases messages_realized both onward (by
    intro entry member
    rw [List.mem_singleton.mp member]
    rfl) with ⟨target, leads, matched⟩
  exact ⟨trace, middle, run, partly, target, leads, next, consumed, matched⟩

end Link
end System
end Praas
