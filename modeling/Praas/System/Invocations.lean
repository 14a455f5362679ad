import Praas.ControlPlane.Listing
import Praas.Execution.PendingInvocations
import Praas.System.SessionTable

namespace Praas
namespace System

open Library
open ControlPlane
open Praas.Runtime
open Praas.Execution (processSession sessionStream)

/-!
# An invocation from its call to its session

A call of `/invoke` leaves its invocation in the queue of a session, under the
mutex of the tables and in one of two sections of `process_client`.  When a
child of the session connects, `process_session` takes the mutex, writes the
whole queue to the connection, empties it and closes the connection.  This
module adds `process_session` to the steps of the system and follows every
invocation through all interleavings.
-/

namespace Invocations

/-- The system with everything that was written to the connections of each
session, one entry for a connection. -/
structure State where
  system : System.State
  sent : Bytes -> List Bytes

def State.initial : State := ⟨System.State.initial, fun _ => []⟩

inductive Action
  | own (action : System.Action)
  | processSession (sessionId : Bytes)

/-- `process_session` holds the mutex from the lookup to the end.  A connection
of an unknown session is closed. -/
def processSessionStep (state : State) (sessionId : Bytes) : Option State :=
  if state.system.mutex.isSome then none
  else
    let handled := processSession state.system.plane.resources sessionId
    match handled.1 with
    | none => some state
    | some stream => some
        { system := state.system.setResources handled.2
          sent := Function.update state.sent sessionId (state.sent sessionId ++ [stream]) }

def step (state : State) : Action -> Option State
  | .own action => (System.step state.system action).map (fun next => { state with system := next })
  | .processSession sessionId => processSessionStep state sessionId

def system : TransitionSystem State Action where
  initial := State.initial
  step := step

abbrev Run (trace : List (State × Action)) (final : State) : Prop :=
  TransitionSystem.Run system State.initial trace final

/-! ## The ledger -/

/-- An invocation that was put into a queue, with the thread that did it and the
session whose queue it is.  The ledger of a run lists these in order, and what
was delivered is compared with it. -/
structure Placing where
  client : Nat
  sessionId : Bytes
  invocation : PendingAllocation
  deriving DecidableEq

/-- The queue entry of a call.  A call without a function name, as
`/add_session` makes it, has none. -/
def entries (functionName functionId payload : Bytes) (client : Nat) (sessionId : Bytes) :
    List Placing :=
  if functionName = [] then [] else [⟨client, sessionId, ⟨payload, functionName, functionId⟩⟩]

/-- What a call asks to be executed. -/
def asks (call : ClientCall) (client : Nat) (sessionId : Bytes) : List Placing :=
  entries call.functionName call.functionId call.payload client sessionId

def brings (placement : Placement) (client : Nat) : List Placing :=
  entries placement.functionName placement.functionId placement.payload client placement.sessionId

/-- What the next step of a thread puts into the queues: a session is added to
a process that has room, or to the new one. -/
def contribution (mutex : Option Section) (client : Nat) : Client -> List Placing
  | .addExisting placement _ => brings placement client
  | .inSection =>
      match mutex with
      | some (.addSession _ placement _) => brings placement client
      | _ => []
  | _ => []

/-- What a step of the control plane puts into the queues. -/
def placing (state : System.State) : System.Action -> List Placing
  | .client index _ =>
      match state.clients[index]? with
      | none => []
      | some client => contribution state.mutex index client
  | _ => []

def placed (trace : List (State × Action)) : List Placing :=
  trace.flatMap (fun entry =>
    match entry.2 with
    | .own action => placing entry.1.system action
    | .processSession _ => [])

/-- The invocations that were put into the queue of a session. -/
def placedFor (sessionId : Bytes) (entries : List Placing) : List PendingAllocation :=
  (entries.filter (fun entry => decide (entry.sessionId = sessionId))).map Placing.invocation

/-- What a thread put into the queues. -/
def placedBy (client : Nat) (entries : List Placing) : List Placing :=
  entries.filter (fun entry => decide (entry.client = client))

def calls (trace : List (State × Action)) : List ClientCall :=
  trace.filterMap (fun entry =>
    match entry.2 with
    | .own (.call call) => some call
    | _ => none)

def pending (state : System.State) (sessionId : Bytes) : List PendingAllocation :=
  match state.plane.resources.getSession sessionId with
  | none => []
  | some session => session.allocations

@[simp] theorem placed_append (trace : List (State × Action)) (state : State)
    (action : System.Action) :
    placed (trace ++ [(state, .own action)]) = placed trace ++ placing state.system action := by
  rw [placed, List.flatMap_append, List.flatMap_singleton]
  rfl

@[simp] theorem placed_processSession (trace : List (State × Action)) (state : State)
    (sessionId : Bytes) :
    placed (trace ++ [(state, .processSession sessionId)]) = placed trace := by
  rw [placed, List.flatMap_append, List.flatMap_singleton]
  exact List.append_nil _

theorem placedFor_append (sessionId : Bytes) (left right : List Placing) :
    placedFor sessionId (left ++ right) = placedFor sessionId left ++ placedFor sessionId right := by
  rw [placedFor, List.filter_append, List.map_append]
  rfl

theorem placedBy_append (client : Nat) (left right : List Placing) :
    placedBy client (left ++ right) = placedBy client left ++ placedBy client right :=
  List.filter_append left right

theorem placedFor_brings (placement : Placement) (client : Nat) (sessionId : Bytes) :
    placedFor sessionId (brings placement client) =
      if placement.sessionId = sessionId ∧ placement.functionName ≠ [] then
        [⟨placement.payload, placement.functionName, placement.functionId⟩]
      else [] := by
  unfold placedFor brings entries
  by_cases unnamed : placement.functionName = []
  · rw [if_pos unnamed, if_neg (fun both => both.2 unnamed)]
    rfl
  · by_cases same : placement.sessionId = sessionId
    · simp [same, unnamed]
    · simp [same, unnamed]

/-- A thread only puts entries of its own into the queues. -/
theorem placedBy_brings (placement : Placement) (client other : Nat) :
    placedBy other (brings placement client) =
      if client = other then brings placement client else [] := by
  unfold placedBy brings entries
  by_cases unnamed : placement.functionName = []
  · rw [if_pos unnamed, ite_self]
    rfl
  · by_cases same : client = other
    · simp [same, unnamed]
    · simp [same, unnamed]

/-! ## The queues -/

section Queues

variable {state next : System.State} {action : System.Action}

theorem placing_client {before after : List Client} {client : Client}
    (whole : state.clients = before ++ client :: after) (uuid : Bytes) :
    placing state (.client before.length uuid) =
      contribution state.mutex before.length client := by
  simp only [placing, getElem?_middle whole]

theorem pending_congr (same : next.plane.resources.sessions = state.plane.resources.sessions)
    (sessionId : Bytes) : pending next sessionId = pending state sessionId := by
  unfold pending Resources.getSession
  rw [same]

theorem pending_added (placement : Placement)
    (sessions : next.plane.resources.sessions = Function.update state.plane.resources.sessions
      placement.sessionId (some (state.plane.added placement))) (client : Nat) (sessionId : Bytes) :
    pending next sessionId =
      pending state sessionId ++ placedFor sessionId (brings placement client) := by
  unfold pending Resources.getSession
  rw [sessions, placedFor_brings]
  by_cases same : sessionId = placement.sessionId
  · subst same
    rw [Function.update_self]
    by_cases unnamed : placement.functionName = []
    · cases known : state.plane.resources.sessions placement.sessionId <;>
        simp [Plane.added, Plane.configure, known, unnamed, Session.new]
    · cases known : state.plane.resources.sessions placement.sessionId <;>
        simp [Plane.added, Plane.configure, known, unnamed, Session.new]
  · rw [Function.update_of_ne same, if_neg (fun both => same both.1.symm), List.append_nil]

theorem pending_written (processId target : Bytes)
    (sessions : next.plane.resources.sessions =
      (state.plane.writeRequest processId target).resources.sessions) (sessionId : Bytes) :
    pending next sessionId = pending state sessionId := by
  unfold pending Resources.getSession
  rw [sessions, Plane.sessions_writeRequest]
  by_cases same : sessionId = target
  · subst same
    rw [Function.update_self]
    cases state.plane.resources.sessions sessionId <;> rfl
  · rw [Function.update_of_ne same]

theorem sessions_addProcess (plane : Plane) (placement : Placement) (id : Bytes) :
    (plane.addProcess placement id).resources.sessions = plane.resources.sessions := by
  unfold Plane.addProcess Resources.addProcess
  dsimp only
  split <;> rfl

/-- A step appends to the queue of a session what the step puts there. -/
theorem pending_step (moved : Transition state action next) (sessionId : Bytes) :
    pending next sessionId =
      pending state sessionId ++ placedFor sessionId (placing state action) := by
  have still : next.plane.resources.sessions = state.plane.resources.sessions ->
      placing state action = [] -> pending next sessionId =
        pending state sessionId ++ placedFor sessionId (placing state action) := by
    intro same nothing
    rw [nothing, pending_congr same]
    exact (List.append_nil _).symm
  cases moved with
  | addExisting whole =>
      rw [placing_client whole]
      exact pending_added _ (Plane.sessions_addSession _ _ _) _ sessionId
  | addSession whole held =>
      rw [placing_client whole, held]
      exact pending_added _ (Plane.sessions_addSession _ _ _) _ sessionId
  | quiet whole quiet =>
      refine still rfl ?_
      rw [placing_client whole]
      cases quiet <;> rfl
  | writeRequest whole held =>
      rw [placing_client whole, held, pending_written _ _ rfl]
      exact (List.append_nil _).symm
  | allocateProcess whole held =>
      refine still rfl ?_
      rw [placing_client whole, held]
      rfl
  | addProcess whole =>
      refine still (sessions_addProcess _ _ _) ?_
      rw [placing_client whole]
      rfl
  | reserve whole =>
      refine still (Resources.sessions_getFreeProcess _ _) ?_
      rw [placing_client whole]
      rfl
  | takeSwapped whole | recordDetails whole | allBusy whole | markAlive whole =>
      refine still rfl ?_
      rw [placing_client whole]
      rfl
  | @sendPending processId target =>
      rcases state.plane.sendPending_cases processId target with ⟨_, same⟩ | ⟨_, same⟩
      · rw [pending_written processId target (congrArg (fun plane => plane.resources.sessions) same)]
        exact (List.append_nil _).symm
      · exact still (congrArg (fun plane => plane.resources.sessions) same) rfl
  | _ => exact still rfl rfl

end Queues

/-! ## The threads -/

/-- The placement has what the call asks to be executed. -/
structure Conveys (placement : Placement) (call : ClientCall) : Prop where
  functionName : placement.functionName = call.functionName
  functionId : placement.functionId = call.functionId
  payload : placement.payload = call.payload

theorem Conveys.brings {placement : Placement} {call : ClientCall}
    (conveys : Conveys placement call) (client : Nat) :
    brings placement client = asks call client placement.sessionId := by
  rw [Invocations.brings, conveys.functionName, conveys.functionId, conveys.payload]
  rfl

/-- How far a thread has come with its call, and what it has put into the
queues. -/
inductive Follows (call : ClientCall) (index : Nat) (mutex : Option Section) :
    Client -> List Placing -> Prop
  | getProcess : Follows call index mutex (.getProcess call) []
  | checkAlive (processName : Bytes) : Follows call index mutex (.checkAlive call processName) []
  | takeSwapped (processName : Bytes) : Follows call index mutex (.takeSwapped call processName) []
  | readDetails (processName : Bytes) : Follows call index mutex (.readDetails call processName) []
  | recordDetails (processName : Bytes) :
      Follows call index mutex (.recordDetails call processName) []
  | findProcess {placement : Placement} : Conveys placement call ->
      Follows call index mutex (.findProcess placement) []
  | addExisting {placement : Placement} (processId : Bytes) : Conveys placement call ->
      Follows call index mutex (.addExisting placement processId) []
  | addProcess {placement : Placement} : Conveys placement call ->
      Follows call index mutex (.addProcess placement) []
  | writing {placement : Placement} {processId : Bytes} : Conveys placement call ->
      mutex = some (.writeRequest index placement processId) ->
      Follows call index mutex .inSection (brings placement index)
  | opening {placement : Placement} {processId : Bytes} : Conveys placement call ->
      mutex = some (.addSession index placement processId) ->
      Follows call index mutex .inSection []
  | starting {placement : Placement} {processId : Bytes} : Conveys placement call ->
      mutex = some (.allocateProcess index placement processId) ->
      Follows call index mutex .inSection (brings placement index)
  | markAlive {placement : Placement} : Conveys placement call ->
      Follows call index mutex (.markAlive placement) (brings placement index)
  | accepted (sessionId : Bytes) :
      Follows call index mutex (.returned (.session sessionId)) (asks call index sessionId)
  | rejected {reply : Reply} : reply.code = 400 ->
      Follows call index mutex (.returned reply) []

/-- A thread is followed on as long as nobody touches a section of its own. -/
theorem Follows.kept {call : ClientCall} {index : Nat} {mutex next : Option Section}
    {client : Client} {entries : List Placing} (follows : Follows call index mutex client entries)
    (undisturbed : Opened index mutex -> next = mutex) :
    Follows call index next client entries := by
  cases follows with
  | getProcess => exact .getProcess
  | checkAlive processName => exact .checkAlive processName
  | takeSwapped processName => exact .takeSwapped processName
  | readDetails processName => exact .readDetails processName
  | recordDetails processName => exact .recordDetails processName
  | findProcess conveys => exact .findProcess conveys
  | addExisting processId conveys => exact .addExisting processId conveys
  | addProcess conveys => exact .addProcess conveys
  | writing conveys held => exact .writing conveys ((undisturbed (held ▸ rfl)).trans held)
  | opening conveys held => exact .opening conveys ((undisturbed (held ▸ rfl)).trans held)
  | starting conveys held => exact .starting conveys ((undisturbed (held ▸ rfl)).trans held)
  | markAlive conveys => exact .markAlive conveys
  | accepted sessionId => exact .accepted sessionId
  | rejected refused => exact .rejected refused

/-- Every thread is followed from its call on: its place among the threads is that
of its call, and what it has put into the queues so far is determined by how far
it has come. -/
structure Threads (trace : List (State × Action)) (state : System.State) : Prop where
  counted : state.clients.length = (calls trace).length
  bounded : forall entry, entry ∈ placed trace -> entry.client < state.clients.length
  follows : forall index client, state.clients[index]? = some client ->
    Exists fun call => (calls trace)[index]? = some call ∧
      Follows call index state.mutex client (placedBy index (placed trace))

section Threads

variable {trace : List (State × Action)} {state : State} {next : System.State}

theorem calls_append (trace : List (State × Action)) (state : State) (action : Action) :
    calls (trace ++ [(state, action)]) = calls trace ++ calls [(state, action)] :=
  List.filterMap_append

theorem placedBy_contribution (mutex : Option Section) (client : Client) (index other : Nat) :
    placedBy other (contribution mutex index client) =
      if index = other then contribution mutex index client else [] := by
  cases client with
  | addExisting placement processId => exact placedBy_brings placement index other
  | inSection =>
      cases mutex with
      | none => exact (ite_self _).symm
      | some held =>
          cases held with
          | addSession owner placement processId => exact placedBy_brings placement index other
          | _ => exact (ite_self _).symm
  | _ => exact (ite_self _).symm

theorem client_of_contribution {mutex : Option Section} {client : Client} {index : Nat}
    {entry : Placing} (member : entry ∈ contribution mutex index client) :
    entry.client = index := by
  have own := placedBy_contribution mutex client index index
  rw [if_pos rfl] at own
  rw [← own] at member
  exact of_decide_eq_true (List.mem_filter.mp member).2

/-- A step that is no step of a client and no call leaves the threads alone. -/
theorem Threads.unmoved (threads : Threads trace state.system) {action : Action}
    (clients : next.clients = state.system.clients)
    (silent : placed (trace ++ [(state, action)]) = placed trace)
    (uncalled : calls [(state, action)] = [])
    (undisturbed : forall index, Opened index state.system.mutex ->
      next.mutex = state.system.mutex) :
    Threads (trace ++ [(state, action)]) next := by
  have same : calls (trace ++ [(state, action)]) = calls trace := by
    rw [calls_append, uncalled, List.append_nil]
  refine ⟨?_, ?_, ?_⟩
  · rw [clients, same, threads.counted]
  · rw [clients, silent]
    exact threads.bounded
  · intro index client present
    rw [clients] at present
    rw [same, silent]
    rcases threads.follows index client present with ⟨call, made, follows⟩
    exact ⟨call, made, follows.kept (undisturbed index)⟩

/-- A step of one client: it is followed to its new place with what it has put
into the queues, and no other thread has a section open that the step ends. -/
theorem Threads.moved (threads : Threads trace state.system) {before after : List Client}
    {client new : Client} (whole : state.system.clients = before ++ client :: after)
    (clients : next.clients = before ++ new :: after) (uuid : Bytes)
    (mine : forall call entries, Follows call before.length state.system.mutex client entries ->
      Follows call before.length next.mutex new
        (entries ++ contribution state.system.mutex before.length client))
    (others : forall index, index ≠ before.length -> Opened index state.system.mutex ->
      next.mutex = state.system.mutex) :
    Threads (trace ++ [(state, .own (.client before.length uuid))]) next := by
  have same : calls (trace ++ [(state, .own (.client before.length uuid))]) = calls trace := by
    rw [calls_append]
    exact List.append_nil _
  have added : placed (trace ++ [(state, .own (.client before.length uuid))]) =
      placed trace ++ contribution state.system.mutex before.length client := by
    rw [placed_append, placing_client whole]
  have length : next.clients.length = state.system.clients.length := by
    rw [clients, whole, List.length_append, List.length_append, List.length_cons, List.length_cons]
  refine ⟨?_, ?_, ?_⟩
  · rw [length, same, threads.counted]
  · intro entry member
    rw [added] at member
    rw [length]
    rcases List.mem_append.mp member with old | new
    · exact threads.bounded entry old
    · rw [client_of_contribution new, whole, List.length_append, List.length_cons]
      omega
  · intro index other present
    rw [clients] at present
    rw [same, added, placedBy_append, placedBy_contribution]
    rcases getElem?_replaced before after client present with ⟨rfl, rfl⟩ | ⟨different, old⟩
    · rcases threads.follows before.length client (getElem?_middle whole) with
        ⟨call, made, follows⟩
      rw [if_pos rfl]
      exact ⟨call, made, mine call _ follows⟩
    · rw [← whole] at old
      rcases threads.follows index other old with ⟨call, made, follows⟩
      rw [if_neg (Ne.symm different), List.append_nil]
      exact ⟨call, made, follows.kept (others index different)⟩

theorem Threads.called (threads : Threads trace state.system) (asked : ClientCall)
    (clients : next.clients = state.system.clients ++ [.getProcess asked])
    (silent : placed (trace ++ [(state, .own (.call asked))]) = placed trace)
    (undisturbed : forall index, Opened index state.system.mutex ->
      next.mutex = state.system.mutex) :
    Threads (trace ++ [(state, .own (.call asked))]) next := by
  have made : calls (trace ++ [(state, .own (.call asked))]) = calls trace ++ [asked] :=
    calls_append trace state _
  refine ⟨?_, ?_, ?_⟩
  · rw [made, clients, List.length_append, List.length_append, threads.counted]
    rfl
  · rw [silent, clients, List.length_append]
    intro entry member
    exact Nat.lt_add_right 1 (threads.bounded entry member)
  · intro index client present
    rw [clients] at present
    rw [made, silent]
    by_cases old : index < state.system.clients.length
    · rw [List.getElem?_append_left old] at present
      rcases threads.follows index client present with ⟨call, known, follows⟩
      rw [List.getElem?_append_left (threads.counted ▸ old)]
      exact ⟨call, known, follows.kept (undisturbed index)⟩
    · have last : index = state.system.clients.length := by
        have inside := (List.getElem?_eq_some_iff.mp present).1
        rw [List.length_append, List.length_singleton] at inside
        omega
      subst last
      rw [List.getElem?_concat_length] at present
      cases present
      have nothing : placedBy state.system.clients.length (placed trace) = [] := by
        refine List.filter_eq_nil_iff.mpr ?_
        intro entry member same
        exact Nat.ne_of_lt (threads.bounded entry member) (of_decide_eq_true same)
      rw [nothing, threads.counted, List.getElem?_concat_length]
      exact ⟨asked, rfl, .getProcess⟩

theorem Follows.quiet {call : ClientCall} {index : Nat} {mutex : Option Section}
    {client new : Client} {entries : List Placing} {plane : Plane}
    (follows : Follows call index mutex client entries) (quiet : client.Quiet plane new) :
    Follows call index mutex new (entries ++ contribution mutex index client) := by
  cases quiet with
  | missing => cases follows; exact .rejected rfl
  | known => cases follows; exact .checkAlive _
  | fresh => cases follows; exact .recordDetails _
  | alive => cases follows; exact .rejected rfl
  | notAlive => cases follows; exact .takeSwapped _
  | unknown => cases follows; exact .rejected rfl
  | detailsMissing => cases follows; exact .rejected rfl
  | details => cases follows; exact .findProcess ⟨rfl, rfl, rfl⟩

/-- Every step of the control plane keeps the threads in step with their
calls. -/
theorem threads_step (threads : Threads trace state.system) {action : System.Action}
    (moved : Transition state.system action next) :
    Threads (trace ++ [(state, .own action)]) next := by
  have kept : forall index, Opened index state.system.mutex ->
      state.system.mutex = state.system.mutex := fun _ _ => rfl
  have silent : placing state.system action = [] ->
      placed (trace ++ [(state, .own action)]) = placed trace := by
    intro nothing
    rw [placed_append, nothing, List.append_nil]
  cases moved with
  | call asked =>
      exact threads.called asked rfl (silent rfl) kept
  | quiet whole quiet =>
      exact threads.moved whole rfl _ (fun call entries follows => follows.quiet quiet)
        (fun index _ => kept index)
  | takeSwapped whole =>
      refine threads.moved whole rfl _ ?_ (fun index _ => kept index)
      intro call entries follows
      cases follows
      exact .readDetails _
  | recordDetails whole =>
      refine threads.moved whole rfl _ ?_ (fun index _ => kept index)
      intro call entries follows
      cases follows
      exact .findProcess ⟨rfl, rfl, rfl⟩
  | reserve whole =>
      refine threads.moved whole rfl _ ?_ (fun index _ => kept index)
      intro call entries follows
      cases follows with
      | findProcess conveys => exact .addExisting _ conveys
  | allBusy whole =>
      refine threads.moved whole rfl _ ?_ (fun index _ => kept index)
      intro call entries follows
      cases follows with
      | findProcess conveys => exact .addProcess conveys
  | addExisting whole free =>
      refine threads.moved whole rfl _ ?_
        (fun index _ opened => False.elim (not_opened_of_free free opened))
      intro call entries follows
      cases follows with
      | addExisting _ conveys => exact .writing conveys rfl
  | addProcess whole free =>
      refine threads.moved whole rfl _ ?_
        (fun index _ opened => False.elim (not_opened_of_free free opened))
      intro call entries follows
      cases follows with
      | addProcess conveys => exact .opening conveys rfl
  | writeRequest whole held =>
      refine threads.moved whole rfl _ ?_ ?_
      · intro call entries follows
        rw [held] at follows ⊢
        cases follows with
        | writing conveys same =>
            cases same
            change Follows call _ none _ (_ ++ [])
            rw [List.append_nil]
            exact .markAlive conveys
        | opening conveys same => cases same
        | starting conveys same => cases same
      · intro index different opened
        rw [held] at opened
        exact False.elim (different opened.symm)
  | addSession whole held =>
      refine threads.moved whole (show _ = _ ++ Client.inSection :: _ by exact whole) _ ?_ ?_
      · intro call entries follows
        rw [held] at follows ⊢
        cases follows with
        | writing conveys same => cases same
        | opening conveys same =>
            cases same
            exact .starting conveys rfl
        | starting conveys same => cases same
      · intro index different opened
        rw [held] at opened
        exact False.elim (different opened.symm)
  | allocateProcess whole held =>
      refine threads.moved whole rfl _ ?_ ?_
      · intro call entries follows
        rw [held] at follows ⊢
        cases follows with
        | writing conveys same => cases same
        | opening conveys same => cases same
        | starting conveys same =>
            cases same
            change Follows call _ none _ (_ ++ [])
            rw [List.append_nil]
            exact .markAlive conveys
      · intro index different opened
        rw [held] at opened
        exact False.elim (different opened.symm)
  | markAlive whole =>
      refine threads.moved whole rfl _ ?_ (fun index _ => kept index)
      intro call entries follows
      cases follows with
      | markAlive conveys =>
          change Follows call _ _ _ (_ ++ [])
          rw [List.append_nil, conveys.brings]
          exact .accepted _
  | enterPending _ free =>
      exact threads.unmoved rfl (silent rfl) rfl
        (fun index opened => False.elim (not_opened_of_free free opened))
  | sendPending held | poll held =>
      refine threads.unmoved rfl (silent rfl) rfl ?_
      intro index opened
      rw [held] at opened
      exact False.elim opened
  | _ => exact threads.unmoved rfl (silent rfl) rfl kept

end Threads

/-! ## Whole runs -/

/-- What a run keeps: the threads, and for every session the queues that were
written to its connections, followed by what still waits. -/
structure Kept (trace : List (State × Action)) (state : State) : Prop where
  threads : Threads trace state.system
  queues : forall sessionId, Exists fun queues =>
    state.sent sessionId = List.map sessionStream queues ∧
      queues.flatten ++ pending state.system sessionId = placedFor sessionId (placed trace)

theorem kept_own {trace : List (State × Action)} {state : State} (kept : Kept trace state)
    {action : System.Action} {next : System.State}
    (moved : Transition state.system action next) :
    Kept (trace ++ [(state, .own action)]) { state with system := next } := by
  refine ⟨threads_step kept.threads moved, ?_⟩
  intro sessionId
  rcases kept.queues sessionId with ⟨queues, written, whole⟩
  refine ⟨queues, written, ?_⟩
  rw [pending_step moved, placed_append, placedFor_append, ← List.append_assoc, whole]

theorem processSession_known {resources : Resources} {sessionId : Bytes} {session : Session}
    (known : resources.getSession sessionId = some session) :
    processSession resources sessionId = (some (sessionStream session.allocations),
      resources.modifySession sessionId (fun session => { session with allocations := [] })) := by
  unfold processSession
  rw [known]

/-- The queue of a session is empty after a connection, the others are as
before. -/
theorem pending_processSession {state : System.State} {target : Bytes} {session : Session}
    (known : state.plane.resources.getSession target = some session) (sessionId : Bytes) :
    pending (state.setResources (processSession state.plane.resources target).2) sessionId =
      if sessionId = target then [] else pending state sessionId := by
  rw [processSession_known known]
  unfold pending Resources.getSession System.State.setResources Resources.modifySession
  dsimp only
  by_cases same : sessionId = target
  · subst same
    have entry : state.plane.resources.sessions sessionId = some session := known
    rw [Function.update_self, entry, if_pos rfl]
    rfl
  · rw [Function.update_of_ne same, if_neg same]

theorem kept_processSession {trace : List (State × Action)} {state next : State}
    (kept : Kept trace state) {target : Bytes}
    (stepped : processSessionStep state target = some next) :
    Kept (trace ++ [(state, .processSession target)]) next := by
  unfold processSessionStep at stepped
  split at stepped
  · cases stepped
  · have same := placed_processSession trace state target
    cases known : state.system.plane.resources.getSession target with
    | none =>
        simp only [processSession, known, Option.some.injEq] at stepped
        subst stepped
        refine ⟨kept.threads.unmoved rfl same rfl (fun _ _ => rfl), ?_⟩
        rw [same]
        exact kept.queues
    | some session =>
        have emptied := pending_processSession known
        rw [processSession_known known] at stepped emptied
        simp only [Option.some.injEq] at stepped
        subst stepped
        refine ⟨kept.threads.unmoved rfl same rfl (fun _ _ => rfl), ?_⟩
        intro sessionId
        rcases kept.queues sessionId with ⟨queues, written, whole⟩
        have waiting : pending state.system target = session.allocations := by
          unfold pending
          rw [known]
        rw [same, emptied]
        by_cases own : sessionId = target
        · subst own
          refine ⟨queues ++ [session.allocations], ?_, ?_⟩
          · change Function.update _ _ _ _ = _
            rw [Function.update_self, written, List.map_append]
            rfl
          · rw [if_pos rfl, List.append_nil, List.flatten_append, List.flatten_singleton, ← waiting,
              whole]
        · rw [if_neg own]
          refine ⟨queues, ?_, whole⟩
          change Function.update _ _ _ _ = _
          rw [Function.update_of_ne own, written]

theorem kept_of_run {trace : List (State × Action)} {final : State} (run : Run trace final) :
    Kept trace final := by
  refine run.traced_invariant Kept ⟨⟨rfl, ?_, ?_⟩, ?_⟩ ?_
  · intro entry member
    cases member
  · intro index client present
    cases present
  · intro sessionId
    exact ⟨[], rfl, rfl⟩
  · intro earlier source action target _ kept stepped
    cases action with
    | own action =>
        rcases Option.map_eq_some_iff.mp stepped with ⟨next, moved, rfl⟩
        exact kept_own kept (step_transition moved)
    | processSession sessionId => exact kept_processSession kept stepped

/-- What a call has put into the queues when its thread has returned: its
invocation, for the session in the answer, or nothing. -/
def settled (call : ClientCall) (client : Nat) : Reply -> List Placing
  | .session sessionId => asks call client sessionId
  | _ => []

/-- A thread that has returned has put into the queues what its answer says. -/
theorem placedBy_returned {trace : List (State × Action)} {final : State} (run : Run trace final)
    {index : Nat} {reply : Reply}
    (returned : final.system.clients[index]? = some (.returned reply)) :
    Exists fun call => (calls trace)[index]? = some call ∧
      placedBy index (placed trace) = settled call index reply := by
  rcases (kept_of_run run).threads.follows index _ returned with ⟨call, made, follows⟩
  refine ⟨call, made, ?_⟩
  generalize placedBy index (placed trace) = entries at follows
  cases follows with
  | accepted sessionId => rfl
  | rejected refused =>
      cases reply with
      | session sessionId => cases refused
      | _ => rfl

/-- No invocation is lost, sent twice or sent out of order.  The connections of
a session are written whole queues; these queues, one after the other, and
what still waits are the invocations that were put into the queue of the
session, in that order.  A call that is answered with a session has put its
invocation into the queue of that session, once, and a call that is refused
has put nothing into any queue. -/
theorem invocations_delivered {trace : List (State × Action)} {final : State}
    (run : Run trace final) :
    (forall sessionId, Exists fun queues => final.sent sessionId = List.map sessionStream queues ∧
      queues.flatten ++ pending final.system sessionId = placedFor sessionId (placed trace)) ∧
    (forall index reply, final.system.clients[index]? = some (.returned reply) ->
      Exists fun call => (calls trace)[index]? = some call ∧
        placedBy index (placed trace) = settled call index reply) := by
  constructor
  · exact (kept_of_run run).queues
  · intro index reply returned
    exact placedBy_returned run returned

/-! ## Sessions that are created by their call -/

/-- No call is for a session that exists already. -/
def createsSession : Action -> Bool
  | .own (.call call) => decide (call.sessionId = [])
  | _ => true

/-- The thread does not bring a session back. -/
def Creating : Client -> Prop
  | .getProcess call => call.sessionId = []
  | .checkAlive _ _ => False
  | .takeSwapped _ _ => False
  | .readDetails _ _ => False
  | _ => True

/-- The threads and the section that have still to add a session. -/
def owed (state : System.State) (sessionId : Bytes) : Nat :=
  total (Client.holds sessionId) state.clients + sectionHolds sessionId state.mutex

/-- A session is added at most once, and under an identifier that was
generated. -/
structure AddedOnce (trace : List (State × Action)) (state : System.State) : Prop where
  creating : forall client, client ∈ state.clients -> Creating client
  single : forall sessionId,
    (placedFor sessionId (placed trace)).length + owed state sessionId ≤ 1
  issued : forall sessionId,
    0 < (placedFor sessionId (placed trace)).length + owed state sessionId ->
      sessionId ∈ state.used

section Created

variable {state next : System.State} {action : System.Action}

theorem length_placedFor_brings (placement : Placement) (client : Nat) (sessionId : Bytes) :
    (placedFor sessionId (brings placement client)).length ≤
      if placement.sessionId = sessionId then 1 else 0 := by
  rw [placedFor_brings]
  split
  · rename_i both
    rw [if_pos both.1]
    exact Nat.le_refl 1
  · exact Nat.zero_le _

/-- A thread of a call without a session does not look for a stored one. -/
theorem creating_getProcess {index : Nat} {uuid : Bytes} {call : ClientCall} {client : Client}
    (present : state.clients[index]? = some (.getProcess call)) (created : call.sessionId = [])
    (stepped : System.step state (.client index uuid) = some next)
    (reached : next.clients[index]? = some client) : Creating client := by
  have inside : index < state.clients.length := (List.getElem?_eq_some_iff.mp present).1
  have lands : forall other, next.clients = state.clients.set index other -> client = other := by
    intro other replaced
    rw [replaced, List.getElem?_set_self inside] at reached
    exact (Option.some.inj reached).symm
  simp only [System.step, present, clientStep] at stepped
  split at stepped
  · cases stepped
    rw [lands _ rfl]
    trivial
  · rw [if_neg (fun different => different created)] at stepped
    cases stepped
    rw [lands _ rfl]
    trivial

theorem creating_step (creating : forall client, client ∈ state.clients -> Creating client)
    (created : createsSession (.own action) = true)
    (stepped : System.step state action = some next) :
    forall client, client ∈ next.clients -> Creating client := by
  cases step_transition stepped with
  | call asked =>
      have unnamed : asked.sessionId = [] := of_decide_eq_true created
      intro client member
      rcases List.mem_append.mp member with old | new
      · exact creating client old
      · rw [List.mem_singleton.mp new]
        exact unnamed
  | quiet whole quiet =>
      refine forall_mem_middle whole creating ?_
      have earlier := creating _ (mem_middle whole)
      cases quiet with
      | known | fresh | missing =>
          exact creating_getProcess (getElem?_middle whole) earlier stepped (getElem?_middle rfl)
      | alive | notAlive | unknown | detailsMissing | details => exact False.elim earlier
  | takeSwapped whole => exact False.elim (creating _ (mem_middle whole))
  | recordDetails whole | reserve whole | allBusy whole | addExisting whole | addProcess whole
  | writeRequest whole | allocateProcess whole | markAlive whole =>
      exact forall_mem_middle whole creating trivial
  | _ => exact creating

/-- What a step puts into the queue of a session was owed before, or the step
generates the session's identifier. -/
theorem owed_step (creating : forall client, client ∈ state.clients -> Creating client)
    (moved : Transition state action next) (sessionId : Bytes) :
    (placedFor sessionId (placing state action)).length + owed next sessionId ≤
        owed state sessionId ∨
      (sessionId ∉ state.used ∧ sessionId ∈ next.used ∧
        (placedFor sessionId (placing state action)).length + owed next sessionId ≤
          owed state sessionId + 1) := by
  have silent : placing state action = [] -> (placedFor sessionId (placing state action)).length = 0 := by
    intro nothing
    rw [nothing]
    rfl
  cases moved with
  | call =>
      left
      rw [silent rfl]
      simp only [owed, total_append, total_cons, total_nil, Client.holds]
      omega
  | quiet whole quiet =>
      have earlier := creating _ (mem_middle whole)
      left
      rw [placing_client whole]
      cases quiet with
      | missing | known | fresh =>
          simp only [owed, whole, total_append, total_cons, Client.holds, contribution, placedFor,
            List.filter_nil, List.map_nil, List.length_nil]
          omega
      | alive | notAlive | unknown | detailsMissing | details => exact False.elim earlier
  | takeSwapped whole => exact False.elim (creating _ (mem_middle whole))
  | @recordDetails before after call processName uuid whole unused =>
      rw [silent (by rw [placing_client whole]; rfl)]
      simp only [owed, State.setRedis, whole, total_append, total_cons, Client.holds,
        ClientCall.created]
      by_cases same : uuid = sessionId
      · subst same
        right
        refine ⟨unused, List.mem_cons_self, ?_⟩
        rw [if_pos rfl]
        omega
      · left
        rw [if_neg same]
        omega
  | reserve whole | allBusy whole | markAlive whole =>
      left
      rw [silent (by rw [placing_client whole]; rfl)]
      simp only [owed, State.setResources, whole, total_append, total_cons, Client.holds]
      omega
  | @addExisting before _ placement _ _ whole free =>
      left
      rw [placing_client whole]
      have most := length_placedFor_brings placement before.length sessionId
      simp only [owed, whole, free, total_append, total_cons, Client.holds, sectionHolds,
        contribution] at most ⊢
      omega
  | addProcess whole free =>
      left
      rw [silent (by rw [placing_client whole]; rfl)]
      simp only [owed, whole, free, total_append, total_cons, Client.holds, sectionHolds]
      omega
  | writeRequest whole held | allocateProcess whole held =>
      left
      rw [silent (by rw [placing_client whole, held]; rfl)]
      simp only [owed, whole, held, total_append, total_cons, Client.holds, sectionHolds]
      omega
  | @addSession before _ placement _ _ whole held =>
      left
      rw [placing_client whole]
      have most := length_placedFor_brings placement before.length sessionId
      simp only [owed, held, sectionHolds, contribution] at most ⊢
      omega
  | enterPending _ free =>
      left
      rw [silent rfl]
      simp only [owed, free, sectionHolds]
      omega
  | sendPending held | poll held =>
      left
      rw [silent rfl]
      simp only [owed, held, sectionHolds]
      omega
  | _ =>
      left
      rw [silent rfl]
      exact Nat.le_of_eq (Nat.zero_add _)

theorem addedOnce_own {trace : List (State × Action)} {state : State}
    {action : System.Action} {next : System.State} (once : AddedOnce trace state.system)
    (created : createsSession (.own action) = true)
    (stepped : System.step state.system action = some next) :
    AddedOnce (trace ++ [(state, .own action)]) next := by
  have moved := step_transition stepped
  have length : forall sessionId,
      (placedFor sessionId (placed (trace ++ [(state, .own action)]))).length =
        (placedFor sessionId (placed trace)).length +
          (placedFor sessionId (placing state.system action)).length := by
    intro sessionId
    rw [placed_append, placedFor_append, List.length_append]
  refine ⟨creating_step once.creating created stepped, ?_, ?_⟩
  · intro sessionId
    rw [length]
    have single := once.single sessionId
    rcases owed_step once.creating moved sessionId with kept | ⟨unused, _, one⟩
    · omega
    · have before := Nat.eq_zero_of_not_pos (mt (once.issued sessionId) unused)
      omega
  · intro sessionId positive
    rw [length] at positive
    rcases owed_step once.creating moved sessionId with kept | ⟨_, used, _⟩
    · exact used_step moved (once.issued sessionId (by omega))
    · exact used

theorem addedOnce_of_run {trace : List (State × Action)} {final : State} (run : Run trace final)
    (created : TransitionSystem.Guarded (fun _ action => createsSession action = true) trace) :
    AddedOnce trace final.system := by
  refine run.guarded_traced (fun trace state => AddedOnce trace state.system) ⟨?_, ?_, ?_⟩ ?_ created
  · intro client member
    cases member
  · intro sessionId
    exact Nat.zero_le 1
  · intro sessionId positive
    exact False.elim (Nat.lt_irrefl 0 positive)
  · intro earlier source action target _ _ once creates stepped
    cases action with
    | own action =>
        rcases Option.map_eq_some_iff.mp stepped with ⟨next, moved, rfl⟩
        exact addedOnce_own once creates moved
    | processSession sessionId =>
        have same := placed_processSession earlier source sessionId
        have kept : target.system.clients = source.system.clients ∧
            target.system.mutex = source.system.mutex ∧ target.system.used = source.system.used := by
          change processSessionStep source sessionId = some target at stepped
          unfold processSessionStep at stepped
          split at stepped
          · cases stepped
          · dsimp only at stepped
            split at stepped
            all_goals cases stepped; exact ⟨rfl, rfl, rfl⟩
        refine ⟨?_, ?_, ?_⟩
        · rw [kept.1]
          exact once.creating
        · rw [same]
          unfold owed
          rw [kept.1, kept.2.1]
          exact once.single
        · rw [same, kept.2.2]
          unfold owed
          rw [kept.1, kept.2.1]
          exact once.issued

/-- Each session gets one invocation at most. -/
theorem length_placedFor_created {trace : List (State × Action)} {final : State}
    (run : Run trace final)
    (created : TransitionSystem.Guarded (fun _ action => createsSession action = true) trace)
    (sessionId : Bytes) : (placedFor sessionId (placed trace)).length ≤ 1 := by
  have single := (addedOnce_of_run run created).single sessionId
  omega

end Created

/-- A queue that was written to a connection is no longer than all that was put
into the queue of the session. -/
theorem length_queue_le {queues : List (List PendingAllocation)}
    {waiting entries queue : List PendingAllocation} (whole : queues.flatten ++ waiting = entries)
    (member : queue ∈ queues) : queue.length ≤ entries.length := by
  have inside := (List.sublist_flatten_of_mem member).length_le
  rw [← whole, List.length_append]
  omega

/-- A child of a session on its connection to the control plane: how the bytes
arrive, and what it meets on the data plane. -/
structure Child where
  segments : List Bytes
  maxFunctions : Int
  data : List Arrival
  returned : Nat -> List Execution.Buffer

namespace Child

/-- The tasks that the child runs for the control plane. -/
def tasks (child : Child) : List Execution.Task :=
  ((Execution.Session.new child.maxFunctions).start (delivered child.segments) child.data
    child.returned).tasks .controlPlane

/-- The first header arrives whole, and there is room for a payload. -/
structure Ready (child : Child) : Prop where
  whole : (read Wire.expectedLength (delivered child.segments)).count = Wire.expectedLength
  buffers : 0 < Execution.Session.bufferCount child.maxFunctions

end Child

/-- A child executes the queue on its connection when there is at most one
invocation in it. -/
theorem executes_queue {child : Child} (ready : child.Ready) {queue : List PendingAllocation}
    (short : queue.length ≤ 1) (written : child.segments.flatten = sessionStream queue)
    (named : forall item, item ∈ queue -> item.functionName ≠ [])
    (survive : forall item, item ∈ queue -> (Execution.header item).RoundTrips Wire.Request.new) :
    child.tasks.map Execution.Task.invocation = queue := by
  cases queue with
  | nil => exact (Execution.executes_nil written ready.whole _ _ _).1
  | cons item more =>
      refine ((Execution.executes_cons_iff (survive item List.mem_cons_self) written ready.whole
        child.maxFunctions child.data child.returned).mpr ⟨short, ?_⟩).1
      intro other member
      exact ⟨named other member, Or.inr ready.buffers⟩

theorem named_of_placed {trace : List (State × Action)} {entry : Placing}
    (member : entry ∈ placed trace) : entry.invocation.functionName ≠ [] := by
  rcases List.mem_flatMap.mp member with ⟨⟨state, action⟩, _, inside⟩
  have brought : forall placement client, entry ∈ brings placement client ->
      entry.invocation.functionName ≠ [] := by
    intro placement client among
    unfold brings entries at among
    split at among
    · cases among
    · rename_i named
      rw [List.mem_singleton.mp among]
      exact named
  cases action with
  | processSession => cases inside
  | own action =>
      cases action with
      | client index uuid =>
          dsimp only [placing] at inside
          split at inside
          · cases inside
          · unfold contribution at inside
            split at inside
            · exact brought _ _ inside
            · split at inside
              · exact brought _ _ inside
              · cases inside
            · cases inside
      | _ => cases inside

/-- The children execute the queues on their connections. -/
theorem executes_queues {children : List Child}
    {queues : List (List PendingAllocation)}
    (connected : children.map (fun child => child.segments.flatten) = queues.map sessionStream)
    (ready : forall child, child ∈ children -> child.Ready)
    (short : forall queue, queue ∈ queues -> queue.length ≤ 1)
    (proper : forall item, item ∈ queues.flatten -> item.functionName ≠ [] ∧
      (Execution.header item).RoundTrips Wire.Request.new) :
    children.flatMap (fun child => child.tasks.map Execution.Task.invocation) = queues.flatten := by
  induction queues generalizing children with
  | nil =>
      rw [List.map_nil, List.map_eq_nil_iff] at connected
      rw [connected]
      rfl
  | cons queue queues inductionHypothesis =>
      cases children with
      | nil => cases connected
      | cons child children =>
          rw [List.map_cons, List.map_cons, List.cons.injEq] at connected
          rw [List.flatten_cons] at proper
          have first := executes_queue (ready child List.mem_cons_self)
            (short queue List.mem_cons_self) connected.1
            (fun item member => (proper item (List.mem_append_left _ member)).1)
            (fun item member => (proper item (List.mem_append_left _ member)).2)
          have others := inductionHypothesis connected.2
            (fun other member => ready other (List.mem_cons_of_mem _ member))
            (fun other member => short other (List.mem_cons_of_mem _ member))
            (fun item member => proper item (List.mem_append_right _ member))
          rw [List.flatMap_cons, List.flatten_cons, first, others]

/-- When every call creates its session, the children of a session execute,
over all its connections and in order, exactly the invocations that were put
into its queue, apart from those that still wait. -/
theorem created_sessions_execute_all {trace : List (State × Action)} {final : State}
    (run : Run trace final)
    (created : TransitionSystem.Guarded (fun _ action => createsSession action = true) trace)
    (sessionId : Bytes) (children : List Child)
    (connected : children.map (fun child => child.segments.flatten) = final.sent sessionId)
    (ready : forall child, child ∈ children -> child.Ready)
    (survive : forall item, item ∈ placedFor sessionId (placed trace) ->
      (Execution.header item).RoundTrips Wire.Request.new) :
    children.flatMap (fun child => child.tasks.map Execution.Task.invocation) ++
      pending final.system sessionId = placedFor sessionId (placed trace) := by
  rcases (kept_of_run run).queues sessionId with ⟨queues, written, whole⟩
  have single := length_placedFor_created run created sessionId
  have sent : forall item, item ∈ queues.flatten -> item ∈ placedFor sessionId (placed trace) := by
    intro item member
    rw [← whole]
    exact List.mem_append_left _ member
  rw [written] at connected
  have executed := executes_queues connected ready
    (fun queue member => Nat.le_trans (length_queue_le whole member) single) ?_
  · rw [executed, whole]
  · intro item member
    have queued := sent item member
    rcases List.mem_map.mp queued with ⟨entry, found, rfl⟩
    exact ⟨named_of_placed (List.mem_filter.mp found).1, survive _ queued⟩

/-! ## A session with one invocation -/

/-- A call that creates the session `[2]` and invokes `f` on it; its child
connects. -/
def invokeOnce : List Action :=
  ([.allocate [] [1], .call { newSessionCall with functionName := ascii "f", payload := [7] },
    .client 0 [], .client 0 [2], .client 0 [], .client 0 [3], .client 0 [], .client 0 [],
    .client 0 []] : List System.Action).map .own ++ [.processSession [2]]

/-- The child of the session, with all bytes in one segment. -/
def onlyChild : Child :=
  ⟨[sessionStream [⟨[7], ascii "f", []⟩]], 1, [], fun _ => []⟩

theorem onlyChild_ready : onlyChild.Ready := ⟨by decide +kernel, by decide⟩

theorem invocations_delivered_once :
    Exists fun trace => Exists fun final => Run trace final ∧
      final.system.clients[0]? = some (.returned (.session [2])) ∧
      Exists fun call => (calls trace)[0]? = some call ∧
        placedBy 0 (placed trace) = settled call 0 (.session [2]) := by
  have found := TransitionSystem.exists_run system State.initial invokeOnce
    (fun _ final => decide (final.system.clients[0]? = some (.returned (.session [2]))))
    (by decide +kernel)
  rcases found with ⟨trace, final, run, tested⟩
  have returned := of_decide_eq_true tested
  exact ⟨trace, final, run, returned, (invocations_delivered run).2 0 _ returned⟩

theorem created_sessions_execute_all_once :
    Exists fun trace => Exists fun final => Run trace final ∧
      [onlyChild].flatMap (fun child => child.tasks.map Execution.Task.invocation) ++
        pending final.system [2] = placedFor [2] (placed trace) := by
  have found := TransitionSystem.exists_run system State.initial invokeOnce
    (fun trace final => trace.all (fun entry => createsSession entry.2) &&
      decide (final.sent [2] = [sessionStream [⟨[7], ascii "f", []⟩]] ∧
        placedFor [2] (placed trace) = [⟨[7], ascii "f", []⟩])) (by decide +kernel)
  rcases found with ⟨trace, final, run, tested⟩
  rw [Bool.and_eq_true, decide_eq_true_eq] at tested
  refine ⟨trace, final, run, created_sessions_execute_all run
    (TransitionSystem.guarded_of_all tested.1) [2] [onlyChild] ?_ ?_ ?_⟩
  · rw [tested.2.1, List.map_singleton, onlyChild, List.flatten_singleton]
  · intro child member
    rw [List.mem_singleton.mp member]
    exact onlyChild_ready
  · intro item member
    rw [tested.2.2] at member
    rw [List.mem_singleton.mp member]
    exact Execution.pendingInvocation_survives (by decide) (by decide)

end Invocations
end System
end Praas
