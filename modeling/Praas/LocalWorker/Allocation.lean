import Praas.Library.TransitionSystem
import Praas.Wire.Messages

namespace Praas
namespace LocalWorker

open Library
open Wire

/-!
# Process requests to a worker server

`LocalBackend::create` opens one connection to a worker server, and every
`allocate_process` writes a packet to it.  The two worker servers, of
`local-worker` and of `praas-serving`, accept a connection, read once, answer,
and close the connection.  The backend keeps the connection and does not look
at the answers, so the packets that it writes after the first are lost.

A packet written before the server has closed its end is held for it; one
written later is not delivered.  How much of the held bytes a read returns,
when the steps of the two sides happen, and which other clients the server
serves in between are chosen by the action.
-/

/-! ## The backend -/

/-- `LocalBackend`.  One request object is filled for every call. -/
structure LocalBackend where
  controllerIpAddress : Bytes
  controllerPort : Int
  req : Request

def LocalBackend.filled (backend : LocalBackend) (processId : Bytes) (maxSessions : Int) : Request :=
  ProcessRequest.fill backend.req maxSessions backend.controllerPort backend.controllerIpAddress
    processId

/-! ## The servers -/

/-- The two worker servers. -/
inductive Server
  | localWorker
  | serving
  deriving DecidableEq

/-- The answer of a server: `0`, `1` and `2` on the wire. -/
inductive Answer
  | started
  | exhausted
  | failed
  deriving DecidableEq

/-- The server fills the slot and launches a thread for the process, which is
what counts as a start.  The local worker does so when `Process::create` leaves
a process there.  The serving server does so always: its thread runs
`SubprocessFork::fork`, and a failure of `vfork` or `execv` in it, which nobody
is told of, comes later and is not part of this model. -/
def Server.starts (server : Server) (created : Bool) : Bool :=
  match server with
  | .localWorker => created
  | .serving => true

/-- What the servers do with a whole request: the first free slot is taken, and a
request without one is answered as exhausted. -/
def Server.serve (server : Server) (slots : List (Option Request)) (request : Request)
    (created : Bool) : Answer × List (Option Request) :=
  match slots.findIdx? Option.isNone with
  | none => (.exhausted, slots)
  | some position =>
      if server.starts created then (.started, slots.set position (some request))
      else (.failed, slots)

/-! ## The two sides together -/

/-- The connection of the backend, at the server. -/
inductive Stage
  | queued
  | accepted
  | closed
  deriving DecidableEq

/-- The state of both sides.  `calls` holds the packets of all calls so far,
`arrived` the bytes held for the server, and `handled` the requests that the
server has read from the connection, with its answers. -/
structure State where
  backend : LocalBackend
  calls : List Request
  arrived : Bytes
  stage : Stage
  slots : List (Option Request)
  handled : List (Request × Answer)

/-- The actions.  In `receive` the read returns `count` bytes, in `fail` an
error or the end of the connection; `other` is the connection of another client
with the request it sends, if it sends a whole one. -/
inductive Action
  | allocate (processId : Bytes) (maxSessions : Int)
  | accept
  | receive (count : Nat) (created : Bool)
  | fail
  | other (request : Option Request) (created : Bool)

/-- The server has read `count` bytes and closes the connection.  A short read
is refused. -/
def receiveStep (server : Server) (state : State) (count : Nat) (created : Bool) : State :=
  let closed := { state with stage := .closed, arrived := [] }
  if whole : (state.arrived.take count).length = expectedLength then
    let request : Request := ⟨state.arrived.take count, whole⟩
    let served := server.serve state.slots request created
    { closed with
      slots := served.2
      handled := state.handled ++ [(request, served.1)] }
  else closed

def step (server : Server) (state : State) : Action -> Option State
  | .allocate processId maxSessions =>
      let req := state.backend.filled processId maxSessions
      some { state with
        backend := { state.backend with req := req }
        calls := state.calls ++ [req]
        arrived := if state.stage = .closed then state.arrived else state.arrived ++ req.data }
  | .accept => if state.stage = .queued then some { state with stage := .accepted } else none
  | .receive count created =>
      if state.stage = .accepted ∧ 0 < count ∧ count ≤ expectedLength ∧
          count ≤ state.arrived.length then
        some (receiveStep server state count created)
      else none
  | .fail =>
      if state.stage = .accepted then some { state with stage := .closed, arrived := [] } else none
  | .other request created =>
      if state.stage = .accepted then none
      else match request with
        | none => some state
        | some request => some { state with slots := (server.serve state.slots request created).2 }

/-- A backend that has just opened its connection, and a server with the given
number of free slots. -/
def system (server : Server) (processes : Nat) (ipAddress : Bytes) (port : Int) :
    TransitionSystem State Action where
  initial := ⟨⟨ipAddress, port, Request.new⟩, [], [], .queued, List.replicate processes none, []⟩
  step := step server

/-! ## When every allocation is served -/

/-- Neither side has anything left to do on the connection: the server has
closed it, or waits for bytes of which none are on the way. -/
def State.settled (state : State) : Prop :=
  state.stage = .closed ∨ (state.stage = .accepted ∧ state.arrived = [])

/-- Every call was received, and a process was started for it, in the sense of
`Server.starts`, unless the slots were exhausted. -/
def State.AllServed (state : State) : Prop :=
  state.handled.map Prod.fst = state.calls ∧
    forall entry, entry ∈ state.handled -> entry.2 ≠ .failed

/-- The read on the connection of the backend returns a whole packet, and a
process is started for it if there is a slot. -/
def servesWhole (server : Server) (state : State) (action : Action) : Bool :=
  match action with
  | .receive count created =>
      decide (count = expectedLength) &&
        (server.starts created || (state.slots.findIdx? Option.isNone).isNone)
  | .fail => false
  | _ => true

/-- The steps so far were all as they should be. -/
abbrev Whole (server : Server) (trace : List (State × Action)) : Prop :=
  TransitionSystem.Guarded (fun state action => servesWhole server state action = true) trace

theorem serve_failed_iff (server : Server) (slots : List (Option Request)) (request : Request)
    (created : Bool) :
    (server.serve slots request created).1 = .failed ↔
      (server.starts created || (slots.findIdx? Option.isNone).isNone) = false := by
  unfold Server.serve
  cases slots.findIdx? Option.isNone with
  | none => simp only [reduceCtorEq, Option.isNone_none, Bool.or_true, Bool.true_eq_false]
  | some position => cases server.starts created <;> simp

/-- What has become of the connection.  While it is open, the server holds the
bytes of all calls.  Once it is closed, the first call has been served, or a
step was not as it should be. -/
structure Progress (server : Server) (trace : List (State × Action)) (state : State) : Prop where
  pending : state.stage ≠ .closed ->
    Whole server trace ∧ state.handled = [] ∧
      state.arrived = (state.calls.map Frame.data).flatten
  ended : state.stage = .closed ->
    (Whole server trace ∧ Exists fun request => Exists fun rest => Exists fun answer =>
      state.calls = request :: rest ∧ state.handled = [(request, answer)] ∧ answer ≠ .failed) ∨
    (¬ Whole server trace ∧ (state.handled = [] ∨ (state.calls ≠ [] ∧ Exists fun request =>
      state.handled = [(request, .failed)])))

theorem first_packet {packets : List Request} {request : Request}
    (taken : request.data = (packets.map Frame.data).flatten.take expectedLength) :
    Exists fun rest => packets = request :: rest := by
  cases packets with
  | nil =>
      have size := request.size_eq
      rw [taken] at size
      cases size
  | cons first rest =>
      refine ⟨rest, ?_⟩
      rw [List.map_cons, List.flatten_cons, List.take_append_of_le_length (Nat.le_of_eq first.size_eq.symm),
        List.take_of_length_le (Nat.le_of_eq first.size_eq)] at taken
      rw [Frame.ext taken]

theorem no_packets {packets : List Request} (empty : (packets.map Frame.data).flatten = []) :
    packets = [] := by
  cases packets with
  | nil => rfl
  | cons first rest =>
      rw [List.map_cons, List.flatten_cons, List.append_eq_nil_iff] at empty
      have size := first.size_eq
      rw [empty.1] at size
      cases size

section Steps

variable {server : Server} {trace : List (State × Action)} {source target : State}

/-- A step that leaves the connection as it is. -/
theorem progress_same {action : Action} (progress : Progress server trace source)
    (harmless : servesWhole server source action = true)
    (stage : target.stage = .closed ↔ source.stage = .closed)
    (calls : target.calls = source.calls) (arrived : target.arrived = source.arrived)
    (handled : target.handled = source.handled) :
    Progress server (trace ++ [(source, action)]) target := by
  have whole : Whole server (trace ++ [(source, action)]) ↔ Whole server trace :=
    TransitionSystem.guarded_append_iff.trans (and_iff_left harmless)
  constructor
  · intro unclosed
    rw [whole, calls, arrived, handled]
    exact progress.pending (fun closed => unclosed (stage.mpr closed))
  · intro closed
    rw [whole, calls, handled]
    exact progress.ended (stage.mp closed)

theorem progress_allocate (progress : Progress server trace source) (processId : Bytes)
    (maxSessions : Int) (stepped : step server source (.allocate processId maxSessions) = some target) :
    Progress server (trace ++ [(source, .allocate processId maxSessions)]) target := by
  cases stepped
  have whole : Whole server (trace ++ [(source, .allocate processId maxSessions)]) ↔
      Whole server trace := TransitionSystem.guarded_append_iff.trans (and_iff_left rfl)
  constructor
  · intro unclosed
    rcases progress.pending unclosed with ⟨clean, handled, arrived⟩
    refine ⟨whole.mpr clean, handled, ?_⟩
    simp only [if_neg unclosed, arrived, List.map_append, List.map_cons, List.map_nil,
      List.flatten_append, List.flatten_cons, List.flatten_nil, List.append_nil]
  · intro closed
    rw [whole]
    rcases progress.ended closed with ⟨clean, request, rest, answer, calls, served⟩ |
      ⟨broken, nothing | ⟨_, failed⟩⟩
    · refine Or.inl ⟨clean, request, rest ++ [source.backend.filled processId maxSessions], answer, ?_,
        served⟩
      simp only [calls, List.cons_append]
    · exact Or.inr ⟨broken, Or.inl nothing⟩
    · exact Or.inr ⟨broken, Or.inr
        ⟨List.append_ne_nil_of_right_ne_nil _ (List.cons_ne_nil _ _), failed⟩⟩

theorem progress_receive (progress : Progress server trace source) {count : Nat} {created : Bool}
    (stepped : step server source (.receive count created) = some target) :
    Progress server (trace ++ [(source, .receive count created)]) target := by
  simp only [step] at stepped
  split at stepped
  · rename_i enabled
    cases stepped
    rcases enabled with ⟨accepted, _, bounded, available⟩
    have unclosed : source.stage ≠ .closed := by
      rw [accepted]
      decide
    rcases progress.pending unclosed with ⟨clean, handled, arrived⟩
    have length : (source.arrived.take count).length = count := by
      rw [List.length_take, Nat.min_eq_left available]
    unfold receiveStep
    dsimp only
    split
    · rename_i size
      have full : count = expectedLength := length.symm.trans size
      refine ⟨fun still => False.elim (still rfl), fun _ => ?_⟩
      let request : Request := ⟨source.arrived.take count, size⟩
      have taken : request.data = (source.calls.map Frame.data).flatten.take expectedLength := by
        rw [← arrived]
        exact congrArg (fun size => source.arrived.take size) full
      rcases first_packet taken with ⟨rest, calls⟩
      have failed := serve_failed_iff server source.slots request created
      rw [handled, List.nil_append]
      by_cases good : servesWhole server source (.receive count created) = true
      · refine Or.inl ⟨TransitionSystem.guarded_append_iff.mpr ⟨clean, good⟩, request, rest, _, calls,
          rfl, ?_⟩
        intro impossible
        simp only [servesWhole, failed.mp impossible, Bool.and_false, Bool.false_eq_true] at good
      · refine Or.inr ⟨fun guarded => good (TransitionSystem.guarded_append guarded).2,
          Or.inr ⟨calls ▸ List.cons_ne_nil _ _, request, ?_⟩⟩
        simp only [servesWhole, full, decide_true, Bool.true_and, Bool.not_eq_true] at good
        rw [failed.mpr good]
    · rename_i short
      refine ⟨fun still => False.elim (still rfl), fun _ => Or.inr ⟨?_, Or.inl handled⟩⟩
      intro guarded
      have last := (TransitionSystem.guarded_append guarded).2
      simp only [servesWhole, Bool.and_eq_true, decide_eq_true_eq] at last
      exact short (length.trans last.1)
  · cases stepped

theorem progress_fail (progress : Progress server trace source)
    (stepped : step server source .fail = some target) :
    Progress server (trace ++ [(source, .fail)]) target := by
  simp only [step] at stepped
  split at stepped
  · rename_i accepted
    cases stepped
    have unclosed : source.stage ≠ .closed := by
      rw [accepted]
      decide
    refine ⟨fun still => False.elim (still rfl), fun _ => Or.inr ⟨?_, ?_⟩⟩
    · intro guarded
      cases (TransitionSystem.guarded_append guarded).2
    · exact Or.inl (progress.pending unclosed).2.1
  · cases stepped

theorem progress_step {action : Action} (progress : Progress server trace source)
    (stepped : step server source action = some target) :
    Progress server (trace ++ [(source, action)]) target := by
  cases action with
  | allocate processId maxSessions => exact progress_allocate progress processId maxSessions stepped
  | receive count created => exact progress_receive progress stepped
  | fail => exact progress_fail progress stepped
  | accept =>
      simp only [step] at stepped
      split at stepped
      · rename_i queued
        cases stepped
        refine progress_same progress rfl ?_ rfl rfl rfl
        rw [queued]
        simp only [reduceCtorEq]
      · cases stepped
  | other request created =>
      simp only [step] at stepped
      split at stepped
      · cases stepped
      · cases request with
        | none =>
            cases stepped
            exact progress_same progress rfl Iff.rfl rfl rfl rfl
        | some request =>
            cases stepped
            exact progress_same progress rfl Iff.rfl rfl rfl rfl

end Steps

theorem allServed_handled {state : State} {request : Request} {answer : Answer}
    (handled : state.handled = [(request, answer)]) (success : answer ≠ .failed) :
    state.AllServed ↔ [request] = state.calls := by
  unfold State.AllServed
  rw [handled, List.map_singleton]
  refine and_iff_left ?_
  intro entry member
  rw [List.mem_singleton.mp member]
  exact success

theorem progress_of_run {server : Server} {processes : Nat} {ipAddress : Bytes} {port : Int}
    {trace : List (State × Action)} {final : State}
    (run : TransitionSystem.Run (system server processes ipAddress port)
      (system server processes ipAddress port).initial trace final) :
    Progress server trace final := by
  apply run.traced_invariant (Progress server)
  · refine ⟨fun _ => ⟨?_, rfl, rfl⟩, fun closed => by cases closed⟩
    intro entry member
    cases member
  · intro trace source action target _ progress stepped
    exact progress_step progress stepped

/-- In every run over the connection of one backend, once neither side has
anything left to do, all allocations have been served exactly when there was
none, or there was one, its packet was read whole, and a process was started
for it if there was a slot.  This holds for both servers. -/
theorem allocations_served_iff (server : Server) (processes : Nat) (ipAddress : Bytes) (port : Int)
    {trace : List (State × Action)} {final : State}
    (run : TransitionSystem.Run (system server processes ipAddress port)
      (system server processes ipAddress port).initial trace final)
    (settled : final.settled) :
    final.AllServed ↔ final.calls = [] ∨ (final.calls.length = 1 ∧ Whole server trace) := by
  have progress := progress_of_run run
  by_cases closed : final.stage = .closed
  · rcases progress.ended closed with ⟨clean, request, rest, answer, calls, handled, success⟩ |
      ⟨broken, handled⟩
    · rw [allServed_handled handled success, calls]
      simp only [List.cons.injEq, true_and, reduceCtorEq, false_or, clean, and_true, List.length_cons,
        Nat.add_eq_right, List.length_eq_zero_iff]
      exact eq_comm
    · simp only [broken, and_false, or_false]
      unfold State.AllServed
      rcases handled with nothing | ⟨called, request, failed⟩
      · rw [nothing]
        simp only [List.map_nil, List.not_mem_nil, false_implies, implies_true, and_true]
        exact eq_comm
      · refine iff_of_false ?_ called
        rintro ⟨_, started⟩
        exact started (request, .failed) (failed ▸ List.mem_singleton_self _) rfl
  · rcases progress.pending closed with ⟨_, handled, arrived⟩
    have empty : final.arrived = [] := by
      rcases settled with ended | idle
      · exact False.elim (closed ended)
      · exact idle.2
    have none : final.calls = [] := no_packets (arrived.symm.trans empty)
    simp only [State.AllServed, handled, none, List.map_nil, List.not_mem_nil, false_implies,
      implies_true, and_self, true_or]

/-- One allocation, served by the local worker. -/
def oneAllocation : List Action :=
  [.allocate [7] 4, .accept, .receive expectedLength true]

theorem allocations_served_first :
    Exists fun trace => Exists fun final =>
      TransitionSystem.Run (system .localWorker 2 [] 0) (system .localWorker 2 [] 0).initial trace
        final ∧ final.calls.length = 1 ∧ final.AllServed := by
  have found := TransitionSystem.exists_run (system .localWorker 2 [] 0)
    (system .localWorker 2 [] 0).initial oneAllocation
    (fun trace final => trace.all (fun entry => servesWhole .localWorker entry.1 entry.2) &&
      decide (final.calls.length = 1 ∧ final.stage = .closed)) (by decide +kernel)
  rcases found with ⟨trace, final, run, tested⟩
  simp only [Bool.and_eq_true, decide_eq_true_eq] at tested
  exact ⟨trace, final, run, tested.2.1, (allocations_served_iff .localWorker 2 [] 0 run
    (Or.inl tested.2.2)).mpr (Or.inr ⟨tested.2.1, TransitionSystem.guarded_of_all tested.1⟩)⟩

/-- The server has closed the connection when the second allocation is
written. -/
theorem second_allocation_lost :
    ¬ forall (server : Server) (processes : Nat) (ipAddress : Bytes) (port : Int)
      (trace : List (State × Action)) (final : State),
      TransitionSystem.Run (system server processes ipAddress port)
        (system server processes ipAddress port).initial trace final ->
      final.settled -> final.AllServed := by
  intro always
  have found := TransitionSystem.exists_run (system .localWorker 2 [] 0)
    (system .localWorker 2 [] 0).initial (oneAllocation ++ [.allocate [8] 4])
    (fun _ final => decide (final.calls.length = 2 ∧ final.handled.length = 1 ∧
      final.stage = .closed)) (by decide +kernel)
  rcases found with ⟨trace, final, run, tested⟩
  rcases of_decide_eq_true tested with ⟨calls, handled, closed⟩
  have served := (always .localWorker 2 [] 0 trace final run (Or.inl closed)).1
  have counted := congrArg List.length served
  rw [List.length_map, handled, calls] at counted
  cases counted

end LocalWorker
end Praas
