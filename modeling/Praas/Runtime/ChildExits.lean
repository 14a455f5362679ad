import Mathlib.Data.List.Perm.Lattice
import Praas.Library.TransitionSystem
import Praas.Runtime.WorkerMemory

namespace Praas
namespace Runtime

open Library
open ControlPlane (SessionRequest)

/-!
# The exits of session children in a process worker

The worker learns of the end of a session from a signal.  The handler starts a
detached thread with the process identifier that the signal carries, and the
thread runs `session_deleted`: its locked section removes the entry and waits
for the child, and afterwards it writes the closure message.

A signal is not queued.  While one is pending, the exit of another child is
merged into it, and only one of the two process identifiers is delivered.  The
actions below let exits, deliveries, the two parts of `session_deleted` and
new session requests happen in any order.
-/

/-! ## The children of a worker -/

structure Child where
  pid : Int
  sessionId : Bytes
  deriving DecidableEq

/-- The children in a list of sessions: the entries whose `vfork` succeeded. -/
def children (sessions : List SessionFork) : List Child :=
  (sessions.filter (fun entry => decide (0 < entry.childPid))).map
    (fun entry => ⟨entry.childPid, entry.sessionId⟩)

theorem mem_children {sessions : List SessionFork} {child : Child} :
    child ∈ children sessions ↔ Exists fun entry =>
      entry ∈ sessions ∧ 0 < entry.childPid ∧ entry.childPid = child.pid ∧
        entry.sessionId = child.sessionId := by
  unfold children
  constructor
  · intro member
    rcases List.mem_map.mp member with ⟨entry, kept, rfl⟩
    rcases List.mem_filter.mp kept with ⟨inside, positive⟩
    exact ⟨entry, inside, of_decide_eq_true positive, rfl, rfl⟩
  · rintro ⟨entry, inside, positive, pid, sessionId⟩
    refine List.mem_map.mpr ⟨entry, List.mem_filter.mpr ⟨inside, decide_eq_true positive⟩, ?_⟩
    cases child
    cases pid
    cases sessionId
    rfl

theorem children_append (first second : List SessionFork) :
    children (first ++ second) = children first ++ children second := by
  unfold children
  rw [List.filter_append, List.map_append]

/-- The child that a session request starts. -/
def forkedChild (worker : Worker) (store : ObjectStore) (request : SessionRequest)
    (calls : Syscalls) : List Child :=
  if (worker.allocateSession store request calls).1 = .success ∧ 0 < calls.vfork then
    [⟨calls.vfork, request.sessionId⟩]
  else []

/-- A session request adds the child that it starts and no other. -/
theorem children_allocateSession (worker : Worker) (store : ObjectStore) (request : SessionRequest)
    (calls : Syscalls) :
    children (worker.allocateSession store request calls).2.sessions =
      children worker.sessions ++ forkedChild worker store request calls := by
  unfold forkedChild Worker.allocateSession
  split
  · simp only [reduceCtorEq, false_and, if_false, List.append_nil]
  split
  · simp only [reduceCtorEq, false_and, if_false, List.append_nil]
  · unfold Worker.fork
    cases created : SharedMemory.create worker.objects worker.swapper store request.sessionId
        request.memorySize calls with
    | mk objects result =>
        cases result with
        | none => simp [children, SessionFork.new, created]
        | some memory =>
            by_cases positive : 0 < calls.vfork <;>
              simp [children, SessionFork.new, created, positive]

/-- The entry that `session_deleted` finds for a child of the worker. -/
theorem deletedEntry_of_child {worker : Worker} {child : Child}
    (distinct : ((children worker.sessions).map Child.pid).Nodup)
    (member : child ∈ children worker.sessions) :
    Exists fun entry => worker.deletedEntry child.pid = some entry ∧ 0 < entry.childPid ∧
      entry.childPid = child.pid ∧ entry.sessionId = child.sessionId := by
  rcases mem_children.mp member with ⟨entry, inside, positive, pid, _⟩
  cases found : worker.deletedEntry child.pid with
  | none => exact absurd (decide_eq_true pid) (List.find?_eq_none.mp found entry inside)
  | some first =>
      have samePid : first.childPid = child.pid := of_decide_eq_true (List.find?_some found :)
      have firstPositive : 0 < first.childPid := samePid.symm ▸ pid ▸ positive
      have listed : (⟨first.childPid, first.sessionId⟩ : Child) ∈ children worker.sessions :=
        mem_children.mpr ⟨first, List.mem_of_find?_eq_some found, firstPositive, rfl, rfl⟩
      -- Two listed children with one process identifier are the same.
      have same := List.inj_on_of_nodup_map distinct listed member samePid
      exact ⟨first, rfl, firstPositive, samePid, congrArg Child.sessionId same⟩

/-- `session_deleted` takes the first child with the process identifier off
the list. -/
theorem children_sessionDeleted (worker : Worker) (store : ObjectStore) {pid : Int}
    (positive : 0 < pid) (putObject : Bool) :
    children (worker.sessionDeleted store pid putObject).1.sessions =
      (children worker.sessions).eraseP (fun child => decide (child.pid = pid)) := by
  have erased (sessions : List SessionFork) :
      children (sessions.eraseP (fun entry => decide (entry.childPid = pid))) =
        (children sessions).eraseP (fun child => decide (child.pid = pid)) := by
    induction sessions with
    | nil => rfl
    | cons entry rest inductionHypothesis =>
        by_cases same : entry.childPid = pid
        · simp [children, same, positive]
        · by_cases forked : 0 < entry.childPid
          · simpa [children, same, forked] using inductionHypothesis
          · simpa [children, same, forked] using inductionHypothesis
  cases found : worker.deletedEntry pid with
  | none =>
      rw [Worker.sessionDeleted_none found, ← erased, List.eraseP_of_forall_not]
      exact List.find?_eq_none.mp found
  | some entry =>
      simp only [Worker.sessionDeleted, found, eraseFork_kept]
      exact erased worker.sessions

theorem perm_eraseP {list : List Child} {child : Child} (distinct : (list.map Child.pid).Nodup)
    (member : child ∈ list) :
    list.Perm (child :: list.eraseP (fun other => decide (other.pid = child.pid))) := by
  let named : Child -> Bool := fun other => decide (other.pid = child.pid)
  have own : named child = true := decide_eq_true rfl
  rcases List.exists_of_eraseP member own with ⟨first, before, after, _, samePid, whole, erased⟩
  have listed : first ∈ list := by
    rw [whole]
    exact List.mem_append_right _ List.mem_cons_self
  have same : first = child :=
    List.inj_on_of_nodup_map distinct listed member (of_decide_eq_true samePid)
  refine (List.Perm.of_eq whole).trans ?_
  rw [erased, same]
  exact List.perm_middle

theorem perm_eraseIdx {list : List α} {index : Nat} {element : α}
    (found : list[index]? = some element) : list.Perm (element :: list.eraseIdx index) := by
  rcases List.getElem?_eq_some_iff.mp found with ⟨bound, rfl⟩
  exact (List.getElem_cons_eraseIdx_perm bound).symm

theorem perm_move {first rest second : List α} {element : α}
    (taken : first.Perm (element :: rest)) :
    (first ++ second).Perm (rest ++ (second ++ [element])) := by
  refine (taken.append_right second).trans ?_
  rw [← List.append_assoc]
  exact (List.perm_append_singleton element _).symm

/-! ## Exits, signals and deletions -/

namespace Exits

/-- The worker, the children as the kernel sees them, the pending signal, the
deletion threads before their locked section and before their write, and the
history of exits and of closure messages. -/
structure State where
  worker : Worker
  store : ObjectStore
  alive : List Child
  zombies : List Child
  pending : Option Int
  started : List Int
  writing : List StatusMessage
  exited : List Child
  reported : List StatusMessage

/-- The actions.  In `exit`, `replace` says which of two merged signals is
kept; `index` names one of the running threads. -/
inductive Action
  | allocate (request : SessionRequest) (calls : Syscalls)
  | exit (child : Child) (replace : Bool)
  | deliver
  | delete (index : Nat) (putObject : Bool)
  | write (index : Nat)

/-- The pending signal after the exit of a child.  A signal that is pending
already is not queued a second time; which of the two children it names is left
open. -/
def merge (pending : Option Int) (pid : Int) (replace : Bool) : Option Int :=
  match pending with
  | none => some pid
  | some earlier => some (if replace then pid else earlier)

/-- `vfork` fails, or returns a process identifier that is not in use. -/
def validFork (state : State) (calls : Syscalls) : Bool :=
  decide (calls.vfork = -1 ∨
    (0 < calls.vfork ∧ calls.vfork ∉ (state.alive ++ state.zombies).map Child.pid))

/-- The locked section of `session_deleted`.  It returns early when there is no
entry, and it waits for the child otherwise. -/
def deleteStep (state : State) (index : Nat) (pid : Int) (putObject : Bool) : State :=
  match state.worker.sessionDeleted state.store pid putObject with
  | (_, _, none) => { state with started := state.started.eraseIdx index }
  | (worker, store, some message) =>
      { state with
        worker := worker
        store := store
        zombies := state.zombies.eraseP (fun child => decide (child.pid = pid))
        started := state.started.eraseIdx index
        writing := state.writing ++ [message] }

def step (state : State) : Action -> Option State
  | .allocate request calls =>
      if validFork state calls then
        some { state with
          worker := (state.worker.allocateSession state.store request calls).2
          alive := state.alive ++ forkedChild state.worker state.store request calls }
      else none
  | .exit child replace =>
      if child ∈ state.alive then
        some { state with
          alive := state.alive.erase child
          zombies := state.zombies ++ [child]
          pending := merge state.pending child.pid replace
          exited := state.exited ++ [child] }
      else none
  | .deliver =>
      match state.pending with
      | none => none
      | some pid => some { state with pending := none, started := state.started ++ [pid] }
  | .delete index putObject =>
      match state.started[index]? with
      | none => none
      | some pid => some (deleteStep state index pid putObject)
  | .write index =>
      match state.writing[index]? with
      | none => none
      | some message => some { state with
          writing := state.writing.eraseIdx index
          reported := state.reported ++ [message] }

def system (maxSessions : Int) (swapper : S3Swapper) (store : ObjectStore) :
    TransitionSystem State Action where
  initial := ⟨Worker.start maxSessions swapper, store, [], [], none, [], [], [], []⟩
  step := step

/-- No signal is pending and no deletion is running, so that every exit has had
its effect. -/
def Quiescent (state : State) : Prop :=
  state.pending = none ∧ state.started = [] ∧ state.writing = []

/-- Every listed child is alive, and the exited children and the closure
messages correspond to each other one to one. -/
structure Accounted (state : State) : Prop where
  live : forall entry, entry ∈ state.worker.sessions -> 0 < entry.childPid ->
    ⟨entry.childPid, entry.sessionId⟩ ∈ state.alive
  closures : forall message, message ∈ state.reported -> message.isClosure = true
  once : (state.exited.map Child.sessionId).Perm (state.reported.map StatusMessage.sessionId)

def exitsAlone (state : State) (action : Action) : Bool :=
  match action with
  | .exit _ _ => state.pending.isNone
  | _ => true

/-- Where the children are while no two signals have been merged.  A zombie is
known by its process identifier to the pending signal or to a thread that has
not entered its locked section. -/
structure Tracked (state : State) : Prop where
  listed : (children state.worker.sessions).Perm (state.alive ++ state.zombies)
  distinct : ((state.alive ++ state.zombies).map Child.pid).Nodup
  signalled : (state.pending.toList ++ state.started).Perm (state.zombies.map Child.pid)
  closures : forall message, message ∈ state.writing ++ state.reported -> message.isClosure = true
  announced : (state.exited.map Child.sessionId).Perm
    (state.zombies.map Child.sessionId ++
      (state.writing ++ state.reported).map StatusMessage.sessionId)

section Steps

variable {state : State} (tracked : Tracked state)

include tracked

theorem tracked_allocate {calls : Syscalls} (valid : validFork state calls = true)
    (request : SessionRequest) :
    Tracked { state with
      worker := (state.worker.allocateSession state.store request calls).2
      alive := state.alive ++ forkedChild state.worker state.store request calls } := by
  have moved : (state.alive ++ forkedChild state.worker state.store request calls ++
      state.zombies).Perm (state.alive ++ state.zombies ++
        forkedChild state.worker state.store request calls) := by
    rw [List.append_assoc, List.append_assoc]
    exact (List.perm_append_comm).append_left _
  refine ⟨?_, ?_, tracked.signalled, tracked.closures, tracked.announced⟩
  · dsimp only
    rw [children_allocateSession]
    exact (tracked.listed.append_right _).trans moved.symm
  · refine (moved.map Child.pid).nodup_iff.mpr ?_
    unfold forkedChild
    split
    · rename_i started
      rw [List.map_append, List.nodup_append]
      refine ⟨tracked.distinct, List.nodup_singleton _, ?_⟩
      intro pid known other new same
      rw [List.map_singleton, List.mem_singleton] at new
      rcases of_decide_eq_true valid with failed | ⟨_, fresh⟩
      · rw [failed] at started
        exact absurd started.2 (by decide)
      · rw [same, new] at known
        exact fresh known
    · rw [List.append_nil]
      exact tracked.distinct

/-- A child that exits while no signal is pending becomes a zombie that the
signal names. -/
theorem tracked_exit {child : Child} (member : child ∈ state.alive)
    (alone : state.pending = none) (replace : Bool) :
    Tracked { state with
      alive := state.alive.erase child
      zombies := state.zombies ++ [child]
      pending := merge state.pending child.pid replace
      exited := state.exited ++ [child] } := by
  have moved : (state.alive ++ state.zombies).Perm
      (state.alive.erase child ++ (state.zombies ++ [child])) :=
    perm_move (List.perm_cons_erase member)
  refine ⟨tracked.listed.trans moved, (moved.map Child.pid).nodup_iff.mp tracked.distinct, ?_,
    tracked.closures, ?_⟩
  · have signalled := tracked.signalled
    rw [alone] at signalled ⊢
    dsimp only [merge]
    rw [List.map_append, List.map_singleton]
    exact ((List.Perm.cons child.pid signalled)).trans
      (List.perm_append_singleton child.pid _).symm
  · dsimp only
    rw [List.map_append, List.map_append, List.append_assoc]
    refine (tracked.announced.append_right _).trans ?_
    rw [List.append_assoc]
    exact List.perm_append_comm.append_left _

theorem tracked_deliver {pid : Int} (pending : state.pending = some pid) :
    Tracked { state with pending := none, started := state.started ++ [pid] } := by
  refine ⟨tracked.listed, tracked.distinct, ?_, tracked.closures, tracked.announced⟩
  have signalled := tracked.signalled
  rw [pending] at signalled
  exact (List.perm_append_singleton pid state.started).trans signalled

/-- The locked section of a thread finds the zombie that its signal has named
and takes it off the list. -/
theorem tracked_delete {index : Nat} {pid : Int} (thread : state.started[index]? = some pid)
    (putObject : Bool) : Tracked (deleteStep state index pid putObject) := by
  have waiting : state.started.Perm (pid :: state.started.eraseIdx index) := perm_eraseIdx thread
  rcases List.mem_map.mp (tracked.signalled.subset (List.mem_append_right _
    (List.mem_of_getElem? thread))) with ⟨child, zombie, rfl⟩
  have distinct : ((children state.worker.sessions).map Child.pid).Nodup :=
    (tracked.listed.map Child.pid).nodup_iff.mpr tracked.distinct
  have listed : child ∈ children state.worker.sessions :=
    tracked.listed.mem_iff.mpr (List.mem_append_right _ zombie)
  have reaped := perm_eraseP (List.map_append ▸ tracked.distinct).of_append_right zombie
  have split : (state.alive ++ state.zombies).Perm (child :: (state.alive ++
      state.zombies.eraseP (fun other => decide (other.pid = child.pid)))) :=
    (reaped.append_left _).trans List.perm_middle
  rcases deletedEntry_of_child distinct listed with ⟨entry, found, positive, samePid, sameSession⟩
  have without := children_sessionDeleted state.worker state.store (samePid ▸ positive) putObject
  rcases Worker.message_sessionDeleted found state.store putObject with ⟨swapped, message⟩
  unfold deleteStep
  cases deleted : state.worker.sessionDeleted state.store child.pid putObject with
  | mk worker rest =>
      cases rest with
      | mk store result =>
          rw [deleted] at message without
          cases message
          refine ⟨?_, ?_, ?_, ?_, ?_⟩
          · dsimp only at without ⊢
            rw [without]
            exact ((perm_eraseP distinct listed).symm.trans (tracked.listed.trans split)).cons_inv
          · exact (List.nodup_cons.mp ((split.map Child.pid).nodup_iff.mp tracked.distinct)).2
          · have named := (waiting.append_left state.pending.toList).symm.trans
              (tracked.signalled.trans (reaped.map Child.pid))
            exact (List.perm_middle.symm.trans named).cons_inv
          · intro message member
            rcases List.mem_append.mp member with before | after
            · rcases List.mem_append.mp before with old | new
              · exact tracked.closures message (List.mem_append_left _ old)
              · rw [List.mem_singleton.mp new]
                exact isClosure_closure swapped entry.sessionId
            · exact tracked.closures message (List.mem_append_right _ after)
          · refine tracked.announced.trans ?_
            refine ((reaped.map Child.sessionId).append_right _).trans ?_
            have own : StatusMessage.sessionId (.closure swapped entry.sessionId) =
                child.sessionId := sameSession
            dsimp only
            rw [List.append_assoc, List.map_append, List.map_append, List.map_append,
              List.map_singleton, own, List.map_cons, List.cons_append]
            refine (List.perm_middle.symm.trans ?_)
            exact (List.perm_middle.symm).append_left _

theorem tracked_write {index : Nat} {message : StatusMessage}
    (thread : state.writing[index]? = some message) :
    Tracked { state with
      writing := state.writing.eraseIdx index
      reported := state.reported ++ [message] } := by
  have moved : (state.writing ++ state.reported).Perm
      (state.writing.eraseIdx index ++ (state.reported ++ [message])) :=
    perm_move (perm_eraseIdx thread)
  refine ⟨tracked.listed, tracked.distinct, tracked.signalled, ?_, ?_⟩
  · intro message member
    exact tracked.closures message (moved.mem_iff.mpr member)
  · exact tracked.announced.trans ((moved.map StatusMessage.sessionId).append_left _)

end Steps

theorem tracked_step {source target : State} {action : Action} (tracked : Tracked source)
    (alone : exitsAlone source action = true) (stepped : step source action = some target) :
    Tracked target := by
  cases action with
  | allocate request calls =>
      dsimp only [step] at stepped
      split at stepped
      · cases stepped
        exact tracked_allocate tracked ‹_› request
      · cases stepped
  | exit child replace =>
      dsimp only [step] at stepped
      split at stepped
      · cases stepped
        exact tracked_exit tracked ‹_› (Option.isNone_iff_eq_none.mp alone) replace
      · cases stepped
  | deliver =>
      dsimp only [step] at stepped
      split at stepped
      · cases stepped
      · cases stepped
        exact tracked_deliver tracked ‹_›
  | delete index putObject =>
      dsimp only [step] at stepped
      split at stepped
      · cases stepped
      · cases stepped
        exact tracked_delete tracked ‹_› putObject
  | write index =>
      dsimp only [step] at stepped
      split at stepped
      · cases stepped
      · cases stepped
        exact tracked_write tracked ‹_›

/-- Once all signals and deletions are over there is no zombie left, so the
children that are tracked are alive or reported. -/
theorem accounted_of_tracked {state : State} (tracked : Tracked state)
    (quiescent : Quiescent state) : Accounted state := by
  rcases quiescent with ⟨noSignal, noThread, noWrite⟩
  have noZombie : state.zombies = [] := by
    have signalled := tracked.signalled
    rw [noSignal, noThread] at signalled
    exact List.map_eq_nil_iff.mp signalled.nil_eq.symm
  refine ⟨?_, ?_, ?_⟩
  · intro entry member positive
    have listed := tracked.listed
    rw [noZombie, List.append_nil] at listed
    exact listed.mem_iff.mp (mem_children.mpr ⟨entry, member, positive, rfl, rfl⟩)
  · intro message member
    exact tracked.closures message (List.mem_append_right _ member)
  · have announced := tracked.announced
    rw [noZombie, noWrite] at announced
    exact announced

/-- In every run in which a child exits only while no signal is pending, every
quiescent state accounts for all children. -/
theorem exits_accounted (maxSessions : Int) (swapper : S3Swapper) (store : ObjectStore)
    {trace : List (State × Action)} {final : State}
    (run : TransitionSystem.Run (system maxSessions swapper store)
      (system maxSessions swapper store).initial trace final)
    (alone : TransitionSystem.Guarded (fun state action => exitsAlone state action = true) trace)
    (quiescent : Quiescent final) : Accounted final := by
  refine accounted_of_tracked ?_ quiescent
  apply run.guarded_invariant Tracked _ _ alone
  · refine ⟨List.Perm.nil, List.nodup_nil, List.Perm.nil, ?_, List.Perm.nil⟩
    intro message member
    cases member
  · intro source action target tracked guarded stepped
    exact tracked_step tracked guarded stepped

/-- The system calls of a start that gives the child the process identifier. -/
def forkAs (pid : Int) : Syscalls := ⟨3, true, true, true, pid⟩

/-- Two sessions are started on a worker. -/
def startTwo : List Action :=
  [.allocate ⟨[65], 1, 4⟩ (forkAs 100), .allocate ⟨[66], 1, 4⟩ (forkAs 101)]

/-- The signal of an exit is handled to the end of the deletion. -/
def handleSignal : List Action := [.deliver, .delete 0 true, .write 0]

theorem exits_accounted_first :
    Exists fun trace => Exists fun final =>
      TransitionSystem.Run (system 4 S3Swapper.new (fun _ => none))
        (system 4 S3Swapper.new (fun _ => none)).initial trace final ∧
      final.exited.length = 2 ∧ Accounted final := by
  have found := TransitionSystem.exists_run (system 4 S3Swapper.new (fun _ => none))
    (system 4 S3Swapper.new (fun _ => none)).initial
    (startTwo ++ [.exit ⟨100, [65]⟩ false, .deliver, .exit ⟨101, [66]⟩ false, .delete 0 true,
      .deliver, .delete 0 true, .write 1, .write 0])
    (fun trace final => trace.all (fun entry => exitsAlone entry.1 entry.2) &&
      decide (final.exited.length = 2 ∧ final.pending = none ∧ final.started = [] ∧
        final.writing = [])) (by decide +kernel)
  rcases found with ⟨trace, final, run, tested⟩
  simp only [Bool.and_eq_true, decide_eq_true_eq] at tested
  exact ⟨trace, final, run, tested.2.1, exits_accounted 4 S3Swapper.new (fun _ => none) run
    (TransitionSystem.guarded_of_all tested.1) tested.2.2⟩

/-- Two children exit before the signal of the first is delivered.  One
deletion runs, and the session of the second child stays in the list. -/
theorem merged_exit_forgotten :
    ¬ forall (maxSessions : Int) (swapper : S3Swapper) (store : ObjectStore)
      (trace : List (State × Action)) (final : State),
      TransitionSystem.Run (system maxSessions swapper store)
        (system maxSessions swapper store).initial trace final ->
      Quiescent final -> Accounted final := by
  intro always
  have found := TransitionSystem.exists_run (system 4 S3Swapper.new (fun _ => none))
    (system 4 S3Swapper.new (fun _ => none)).initial
    (startTwo ++ [.exit ⟨100, [65]⟩ false, .exit ⟨101, [66]⟩ false] ++ handleSignal)
    (fun _ final => decide (final.exited.length = 2 ∧ final.reported.length = 1 ∧
      final.pending = none ∧ final.started = [] ∧ final.writing = [])) (by decide +kernel)
  rcases found with ⟨trace, final, run, tested⟩
  rcases of_decide_eq_true tested with ⟨exited, reported, quiescent⟩
  have counted := (always 4 S3Swapper.new (fun _ => none) trace final run quiescent).once.length_eq
  rw [List.length_map, List.length_map, exited, reported] at counted
  cases counted

end Exits

end Runtime
end Praas
