import Praas.Execution.Pool

namespace Praas
namespace Execution

open Library
open Wire

/-!
# Every invocation ends with one terminal message

A terminal call is made in three places: `receive` refuses a request for which
it finds no buffer, `_invoke` reports an unknown function, and `_invoke` marks
the end of a function that has returned.  Each request takes exactly one of
these ways, whatever the threads of the pool do in between.  The fate of a
request is read off from the tasks and the calls that carry its number.
-/

namespace Pool

def State.jobsFor (state : State) (number : Nat) : List Job :=
  state.jobs.filter (fun job => decide (job.task.number = number))

def State.sentFor (state : State) (number : Nat) : List Terminal :=
  state.sent.filter (fun terminal => decide (terminal.number = number))

/-- The call carries the identifier of the request; the end is marked for a
known function, and an error is one of two kinds. -/
def Terminal.Ends (known : Bytes -> Bool) (request : FunctionRequestMsg) (terminal : Terminal) :
    Prop :=
  terminal.functionId = request.functionId ∧
    match terminal.outcome with
    | .markEnd _ => known request.functionName = true
    | .sendError .outOfMemory => 0 < request.payload
    | .sendError .unknownFunction => known request.functionName = false
    | .sendError _ => False

/-- The tasks and terminal calls that belong to a request, from its arrival to
the return of its task.  A number that has not been reached has none. -/
inductive Fate (known : Bytes -> Bool) :
    Option FunctionRequestMsg -> List Job -> List Terminal -> Prop
  | unhandled : Fate known none [] []
  | ignored {request : FunctionRequestMsg} :
      request.functionName = [] -> Fate known (some request) [] []
  | pending {request : FunctionRequestMsg} {job : Job} :
      request.functionName ≠ [] -> job.stage ≠ .ended ->
      job.task.functionName = request.functionName ->
      job.task.functionId = request.functionId -> Fate known (some request) [job] []
  | ended {request : FunctionRequestMsg} {job : Job} {terminal : Terminal} :
      request.functionName ≠ [] -> job.stage = .ended ->
      terminal.Ends known request -> Fate known (some request) [job] [terminal]
  | returned {request : FunctionRequestMsg} {terminal : Terminal} :
      request.functionName ≠ [] -> terminal.Ends known request ->
      Fate known (some request) [] [terminal]

/-- Every number has its fate: at any time the tasks and terminal calls of a
request are those of one of the cases of `Fate`, whatever the other requests
do. -/
def Accounted (known : Bytes -> Bool) (state : State) : Prop :=
  forall number, Fate known state.handled[number]? (state.jobsFor number) (state.sentFor number)

/-! ## One request -/

variable {known : Bytes -> Bool}

theorem fate_unhandled {jobs : List Job} {sent : List Terminal} (fate : Fate known none jobs sent) :
    jobs = [] ∧ sent = [] := by
  cases fate
  exact ⟨rfl, rfl⟩

theorem fate_alone {request : Option FunctionRequestMsg} {before after : List Job} {job : Job}
    {sent : List Terminal} (fate : Fate known request (before ++ job :: after) sent) :
    before = [] ∧ after = [] := by
  have single : (before ++ job :: after).length ≤ 1 := by
    generalize before ++ job :: after = jobs at fate
    cases fate <;> simp only [List.length_nil, List.length_singleton, Nat.zero_le, Nat.le_refl]
  rw [List.length_append, List.length_cons] at single
  exact ⟨List.length_eq_zero_iff.mp (by omega), List.length_eq_zero_iff.mp (by omega)⟩

/-- The call of `_invoke` ends the request of its task. -/
theorem outcome_ends {request : FunctionRequestMsg} {task : Task} (returnCode : Int)
    (name : task.functionName = request.functionName)
    (id : task.functionId = request.functionId) :
    Terminal.Ends known request ⟨task.number, task.functionId, outcome known task returnCode⟩ := by
  refine ⟨id, ?_⟩
  unfold outcome
  rw [name]
  cases found : known request.functionName with
  | true => rfl
  | false => rfl

theorem fate_begin {request : Option FunctionRequestMsg} {task : Task} {sent : List Terminal}
    (fate : Fate known request [⟨task, .waiting⟩] sent) :
    Fate known request [⟨task, .running⟩] sent := by
  cases fate with
  | pending named _ name id => exact .pending named (fun same => by cases same) name id
  | ended _ stage => cases stage

theorem fate_complete {request : Option FunctionRequestMsg} {task : Task} {sent : List Terminal}
    (fate : Fate known request [⟨task, .running⟩] sent) (returnCode : Int) :
    Fate known request [⟨task, .ended⟩]
      (sent ++ [⟨task.number, task.functionId, outcome known task returnCode⟩]) := by
  cases fate with
  | pending named _ name id => exact .ended named rfl (outcome_ends returnCode name id)
  | ended _ stage => cases stage

theorem fate_giveBack {request : Option FunctionRequestMsg} {task : Task} {sent : List Terminal}
    (fate : Fate known request [⟨task, .ended⟩] sent) : Fate known request [] sent := by
  cases fate with
  | pending _ stage => exact False.elim (stage rfl)
  | ended named _ ends => exact .returned named ends

/-! ## The lists of a number -/

section Numbered

variable {α : Type} {number : α -> Nat} {values : List α} {own : Nat}
variable (numbered : forall value, value ∈ values -> number value = own)

include numbered

theorem filter_own : values.filter (fun value => decide (number value = own)) = values :=
  List.filter_eq_self.mpr (fun value member => decide_eq_true (numbered value member))

theorem filter_other {other : Nat} (different : own ≠ other) :
    values.filter (fun value => decide (number value = other)) = [] := by
  apply List.filter_eq_nil_iff.mpr
  intro value member
  rw [numbered value member]
  simpa using different

end Numbered

theorem handled_append (handled : List FunctionRequestMsg) (request : FunctionRequestMsg)
    (number : Nat) :
    (handled ++ [request])[number]? =
      if handled.length = number then some request else handled[number]? := by
  rcases Nat.lt_trichotomy number handled.length with earlier | same | later
  · rw [List.getElem?_append_left earlier, if_neg (Nat.ne_of_gt earlier)]
  · rw [same, List.getElem?_concat_length, if_pos rfl]
  · rw [if_neg (Nat.ne_of_lt later), List.getElem?_eq_none (by
      rw [List.length_append, List.length_singleton]
      exact later), List.getElem?_eq_none (Nat.le_of_lt later)]

/-! ## One step -/

section Step

variable {state : State} (accounted : Accounted known state)

include accounted

/-- A request that has just arrived has neither tasks nor calls. -/
theorem nothing_before :
    state.jobsFor state.handled.length = [] ∧ state.sentFor state.handled.length = [] := by
  have fate := accounted state.handled.length
  rw [List.getElem?_eq_none (Nat.le_refl _)] at fate
  exact fate_unhandled fate

/-- A new request: the tasks and calls that it adds carry its number and give
it its fate. -/
theorem accounted_arrival (request : FunctionRequestMsg) (jobs : List Job) (sent : List Terminal)
    (queue : BufferQueue)
    (jobNumbers : forall job, job ∈ jobs -> job.task.number = state.handled.length)
    (sentNumbers : forall terminal, terminal ∈ sent -> terminal.number = state.handled.length)
    (fate : Fate known (some request) jobs sent) :
    Accounted known ⟨queue, state.jobs ++ jobs, state.handled ++ [request], state.sent ++ sent⟩ := by
  intro number
  have old := accounted number
  simp only [State.jobsFor, State.sentFor, List.filter_append, handled_append]
  by_cases same : state.handled.length = number
  · subst same
    have before := nothing_before accounted
    simp only [State.jobsFor, State.sentFor] at before
    rw [if_pos rfl, before.1, before.2, List.nil_append, List.nil_append, filter_own jobNumbers,
      filter_own sentNumbers]
    exact fate
  · rw [if_neg same, filter_other jobNumbers same, filter_other sentNumbers same, List.append_nil,
      List.append_nil]
    exact old

/-- A step of the task of one request leaves the others alone. -/
theorem accounted_task {before after : List Job} {job : Job}
    (whole : state.jobs = before ++ job :: after) (queue : BufferQueue) (replaced : List Job)
    (sent : List Terminal)
    (jobNumbers : forall other, other ∈ replaced -> other.task.number = job.task.number)
    (sentNumbers : forall terminal, terminal ∈ sent -> terminal.number = job.task.number)
    (fate : forall request, Fate known request [job] (state.sentFor job.task.number) ->
      Fate known request replaced (state.sentFor job.task.number ++ sent)) :
    Accounted known ⟨queue, before ++ (replaced ++ after), state.handled, state.sent ++ sent⟩ := by
  intro number
  have old := accounted number
  simp only [State.jobsFor, whole] at old
  by_cases same : job.task.number = number
  · subst same
    rw [List.filter_append, List.filter_cons_of_pos (by simp)] at old
    rcases fate_alone old with ⟨noBefore, noAfter⟩
    rw [noBefore, noAfter] at old
    have next := fate _ old
    simp only [State.jobsFor, State.sentFor, List.filter_append, noBefore, noAfter,
      List.nil_append, List.append_nil, filter_own jobNumbers, filter_own sentNumbers]
    exact next
  · rw [List.filter_append, List.filter_cons_of_neg (by simpa using same)] at old
    simp only [State.jobsFor, State.sentFor, List.filter_append, filter_other jobNumbers same,
      filter_other sentNumbers same, List.nil_append, List.append_nil]
    exact old

end Step

theorem accounted_step {state next : State} {action : Action} (accounted : Accounted known state)
    (stepped : step known state action = some next) : Accounted known next := by
  cases step_transition stepped with
  | ignore unnamed =>
      have arrived := accounted_arrival accounted _ [] [] state.queue (List.forall_mem_nil _)
        (List.forall_mem_nil _) (.ignored unnamed)
      rw [List.append_nil, List.append_nil] at arrived
      exact arrived
  | @refuse request _ named payload _ =>
      have arrived := accounted_arrival accounted request []
        [⟨state.handled.length, request.functionId, .sendError .outOfMemory⟩]
        (state.queue.retrieveBuffer request.payload.toNat).2 (List.forall_mem_nil _)
        (List.forall_mem_singleton.mpr rfl) (.returned named ⟨rfl, payload⟩)
      rw [List.append_nil] at arrived
      exact arrived
  | @push request _ payloadBytes named _ _ =>
      have arrived := accounted_arrival accounted request
        [⟨state.taskFor request payloadBytes
          (state.queue.retrieveBuffer request.payload.toNat).1, .waiting⟩] []
        (state.queue.retrieveBuffer request.payload.toNat).2
        (List.forall_mem_singleton.mpr rfl) (List.forall_mem_nil _)
        (.pending named (fun same => by cases same) rfl rfl)
      rw [List.append_nil] at arrived
      exact arrived
  | @pushEmpty request _ named _ =>
      have arrived := accounted_arrival accounted request
        [⟨state.taskFor request 0 BufferQueue.Buffer.null, .waiting⟩] [] state.queue
        (List.forall_mem_singleton.mpr rfl) (List.forall_mem_nil _)
        (.pending named (fun same => by cases same) rfl rfl)
      rw [List.append_nil] at arrived
      exact arrived
  | @begin _ _ task whole =>
      have moved := accounted_task accounted whole state.queue [⟨task, .running⟩] []
        (List.forall_mem_singleton.mpr rfl) (List.forall_mem_nil _) (fun _ fate => by
          rw [List.append_nil]
          exact fate_begin fate)
      rw [List.append_nil] at moved
      exact moved
  | @complete _ _ task returnCode whole =>
      exact accounted_task accounted whole state.queue [⟨task, .ended⟩]
        [⟨task.number, task.functionId, outcome known task returnCode⟩]
        (List.forall_mem_singleton.mpr rfl) (List.forall_mem_singleton.mpr rfl)
        (fun _ fate => fate_complete fate returnCode)
  | @giveBack _ _ task whole =>
      have moved := accounted_task accounted whole (state.queue.returnBuffer task.buffer) [] []
        (List.forall_mem_nil _) (List.forall_mem_nil _) (fun _ fate => by
          rw [List.append_nil]
          exact fate_giveBack fate)
      rw [List.append_nil] at moved
      exact moved

theorem accounted_of_run {maxFunctions : Int} {trace : List (State × Action)} {final : State}
    (run : Run known maxFunctions trace final) : Accounted known final := by
  apply run.invariant
  · intro number
    rw [show (initial maxFunctions).handled[number]? = none from List.getElem?_nil]
    exact .unhandled
  · intro source action target accounted stepped
    exact accounted_step accounted stepped

/-! ## The pool comes to rest -/

section Rest

variable (known : Bytes -> Bool) (maxFunctions : Int)

/-- All tasks can return without another request. -/
def Settles (state : State) : Prop :=
  Exists fun settled => TransitionSystem.Leads (system known maxFunctions) state settled ∧
    settled.jobs = [] ∧ settled.handled = state.handled

variable {known maxFunctions}

theorem settles_step {state next : State} {action : Action}
    (stepped : step known state action = some next) (handled : next.handled = state.handled)
    (later : Settles known maxFunctions next) : Settles known maxFunctions state := by
  rcases later with ⟨settled, leads, rest, same⟩
  exact ⟨settled, leads.step stepped, rest, same.trans handled⟩

theorem settles (jobs : List Job) (state : State) (listed : state.jobs = jobs) :
    Settles known maxFunctions state := by
  induction jobs generalizing state with
  | nil => exact ⟨state, TransitionSystem.Leads.refl state, listed, rfl⟩
  | cons job rest inductionHypothesis =>
      rcases job with ⟨task, stage⟩
      have ended : forall state : State, state.jobs = ⟨task, .ended⟩ :: rest ->
          Settles known maxFunctions state := by
        intro state listed
        have stepped : step known state (.giveBack 0) = some { state with
            queue := state.queue.returnBuffer task.buffer, jobs := rest } := by
          simp only [step, listed, List.getElem?_cons_zero, List.eraseIdx_cons_zero]
        exact settles_step stepped rfl (inductionHypothesis _ rfl)
      have running : forall state : State, state.jobs = ⟨task, .running⟩ :: rest ->
          Settles known maxFunctions state := by
        intro state listed
        have stepped : step known state (.complete 0 0) =
            some (({ state with jobs := ⟨task, .ended⟩ :: rest } : State).send
              ⟨task.number, task.functionId, outcome known task 0⟩) := by
          simp only [step, listed, List.getElem?_cons_zero, List.set_cons_zero]
        exact settles_step stepped rfl (ended _ rfl)
      cases stage with
      | waiting =>
          have stepped : step known state (.begin 0) =
              some { state with jobs := ⟨task, .running⟩ :: rest } := by
            simp only [step, listed, List.getElem?_cons_zero, List.set_cons_zero]
          exact settles_step stepped rfl (running _ rfl)
      | running => exact running state listed
      | ended => exact ended state listed

end Rest

/-! ## Exactly one terminal message -/

/-- In every state reached, a request without a name has no terminal call, and
any other at most one.  Once the tasks have returned, which they can from every
state, it has exactly one: the end of a known function, or an error. -/
theorem one_terminal_message {maxFunctions : Int} {trace : List (State × Action)} {final : State}
    (run : Run known maxFunctions trace final) :
    Settles known maxFunctions final ∧
      forall number request, final.handled[number]? = some request ->
        (request.functionName = [] -> final.sentFor number = []) ∧
          (request.functionName ≠ [] -> (final.sentFor number).length ≤ 1 ∧
            (final.jobs = [] -> Exists fun terminal =>
              final.sentFor number = [terminal] ∧ terminal.Ends known request)) := by
  refine ⟨settles final.jobs final rfl, ?_⟩
  intro number request present
  have fate := accounted_of_run run number
  rw [present] at fate
  have finished : final.jobs = [] -> final.jobsFor number = [] := by
    intro rest
    rw [State.jobsFor, rest, List.filter_nil]
  generalize final.sentFor number = sent at fate ⊢
  generalize final.jobsFor number = jobs at fate finished
  cases fate with
  | ignored unnamed =>
      exact ⟨fun _ => rfl, fun named => False.elim (named unnamed)⟩
  | pending named =>
      refine ⟨fun unnamed => False.elim (named unnamed), fun _ => ⟨Nat.zero_le _, ?_⟩⟩
      intro rest
      exact False.elim (List.cons_ne_nil _ _ (finished rest))
  | ended named _ ends =>
      exact ⟨fun unnamed => False.elim (named unnamed),
        fun _ => ⟨Nat.le_refl _, fun _ => ⟨_, rfl, ends⟩⟩⟩
  | returned named ends =>
      exact ⟨fun unnamed => False.elim (named unnamed),
        fun _ => ⟨Nat.le_refl _, fun _ => ⟨_, rfl, ends⟩⟩⟩

def namedRequest (name : Bytes) (payloadSize : Int) : FunctionRequestMsg :=
  ⟨FunctionRequest.fill Request.new name (ascii "7") payloadSize⟩

theorem request_data_injective :
    Function.Injective (fun request : FunctionRequestMsg => request.data.data) := by
  rintro ⟨first⟩ ⟨second⟩ same
  exact congrArg FunctionRequestMsg.mk (Frame.ext same)

/-- Two requests with one identifier, the second for an unknown function. -/
theorem one_terminal_message_each :
    Exists fun trace => Exists fun final =>
      Run (fun name => decide (name = ascii "f")) 1 trace final ∧
        (Exists fun terminal => final.sentFor 0 = [terminal] ∧
          terminal.Ends (fun name => decide (name = ascii "f")) (namedRequest (ascii "f") 3)) ∧
        (Exists fun terminal => final.sentFor 1 = [terminal] ∧
          terminal.Ends (fun name => decide (name = ascii "f")) (namedRequest (ascii "g") 0)) := by
  let handled := [namedRequest (ascii "f") 3, namedRequest (ascii "g") 0]
  rcases TransitionSystem.exists_run (system (fun name => decide (name = ascii "f")) 1) (initial 1)
    [.handle (namedRequest (ascii "f") 3) [], .handle (namedRequest (ascii "g") 0) [], .begin 1,
      .begin 0, .complete 1 0, .complete 0 5, .giveBack 0, .giveBack 0]
    (fun _ final => decide (final.jobs = []) &&
      decide (final.handled.map (fun request => request.data.data) =
        handled.map (fun request => request.data.data))) (by decide) with
    ⟨trace, final, run, tested⟩
  rw [Bool.and_eq_true, decide_eq_true_eq, decide_eq_true_eq] at tested
  have arrived : final.handled = handled :=
    List.map_injective_iff.mpr request_data_injective tested.2
  have each := (one_terminal_message run).2
  rw [arrived] at each
  exact ⟨trace, final, run, ((each 0 _ rfl).2 (by decide)).2 tested.1,
    ((each 1 _ rfl).2 (by decide)).2 tested.1⟩

end Pool
end Execution
end Praas
