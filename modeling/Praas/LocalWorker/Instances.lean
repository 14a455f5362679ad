import Praas.Runtime.ChildExits

namespace Praas
namespace LocalWorker

open Library
open Praas.Runtime
open ControlPlane (SessionRequest)

/-!
# The processes of a local worker and the exits of their sessions

The local worker keeps a fixed array of processes, and a process request
constructs one in the first free slot.  Every construction points the static
`_instance` at the new object, also when `Process::create` then fails and the
object is destroyed again.  The signal handler hands the exit of any child to
the process that `_instance` points at.

A slot is an address: a process that is constructed later in the same slot is
found there.  The exit of a child and the run of the signal handler are one
action, and the deletion thread that the handler starts is another one.  A
deletion on an object that has been destroyed is undefined, and nothing is
said of what comes after it.
-/

namespace Instances

/-- A process, with the closure messages written to its control plane.  All of
them are objects in one program, and a static pointer names the last one that
was constructed. -/
structure Process where
  worker : Worker
  closures : List StatusMessage

/-- A thread that runs `session_deleted` on the process at an address.  The
address was that of the static pointer when the signal was handled. -/
structure Deletion where
  target : Option Nat
  pid : Int

/-- The local worker.  `creating` is the slot on which `Process::create` is
running; the named memory objects are shared by all processes. -/
structure State where
  slots : Nat -> Option Process
  creating : Option Nat
  instancePointer : Option Nat
  objects : SharedObjects
  store : ObjectStore
  alive : List Int
  zombies : List Int
  deletions : List Deletion
  destroyed : Bool

inductive Action
  | request (maxSessions : Int)
  | create (connected : Bool)
  | allocate (slot : Nat) (request : SessionRequest) (calls : Syscalls)
  | exit (pid : Int)
  | delete (index : Nat) (putObject : Bool)

/-- The options of a local worker; `bucket` comes from the environment. -/
structure Options where
  processes : Nat
  enableSwapping : Bool
  bucket : Option Bytes

def firstFree (options : Options) (state : State) : Option Nat :=
  (List.range options.processes).find? (fun slot => (state.slots slot).isNone)

/-- A new process in a slot; its constructor sets the static pointer. -/
def constructAt (state : State) (slot : Nat) (maxSessions : Int) : State :=
  { state with
    slots := Function.update state.slots slot (some ⟨Worker.start maxSessions S3Swapper.new, []⟩)
    creating := some slot
    instancePointer := some slot }

def enableSwapping (options : Options) (process : Process) : Process :=
  if options.enableSwapping then
    { process with
      worker := { process.worker with swapper := S3Swapper.enableSwapping options.bucket } }
  else process

/-- The rest of `Process::create`: a process that cannot connect is destroyed. -/
def createAt (options : Options) (state : State) (slot : Nat) (connected : Bool) : State :=
  { state with
    creating := none
    slots := Function.update state.slots slot
      (if connected then (state.slots slot).map (enableSwapping options) else none) }

/-- The worker of a process, with the memory objects as they are now. -/
def Process.current (process : Process) (objects : SharedObjects) : Worker :=
  { process.worker with objects := objects }

/-- A session request on the process of a slot. -/
def allocateAt (state : State) (slot : Nat) (process : Process) (request : SessionRequest)
    (calls : Syscalls) : State :=
  let worker := process.current state.objects
  let allocated := worker.allocateSession state.store request calls
  { state with
    slots := Function.update state.slots slot (some { process with worker := allocated.2 })
    objects := allocated.2.objects
    alive := state.alive ++ (forkedChild worker state.store request calls).map Child.pid }

/-- `session_deleted` on the process of a slot.  The child is waited for and a
closure is written only when the process has an entry for it. -/
def deleteAt (state : State) (slot : Nat) (process : Process) (pid : Int) (putObject : Bool) :
    State :=
  match (process.current state.objects).sessionDeleted state.store pid putObject with
  | (_, _, none) => state
  | (worker, store, some message) =>
      { state with
        slots := Function.update state.slots slot
          (some { worker := worker, closures := process.closures ++ [message] })
        objects := worker.objects
        store := store
        zombies := state.zombies.erase pid }

/-- One deletion thread runs. -/
def deleteStep (state : State) (index : Nat) (deletion : Deletion) (putObject : Bool) : State :=
  let ended := { state with deletions := state.deletions.eraseIdx index }
  match deletion.target with
  | none => { ended with destroyed := true }
  | some slot =>
      match state.slots slot with
      | none => { ended with destroyed := true }
      | some process => deleteAt ended slot process deletion.pid putObject

/-- `vfork` fails, or returns a process identifier that is not in use. -/
def validFork (state : State) (calls : Syscalls) : Bool :=
  decide (calls.vfork = -1 ∨ (0 < calls.vfork ∧ calls.vfork ∉ state.alive ++ state.zombies))

def step (options : Options) (state : State) (action : Action) : Option State :=
  if state.destroyed then none
  else match action with
    | .request maxSessions =>
        if state.creating.isSome then none
        else match firstFree options state with
          | none => some state
          | some slot => some (constructAt state slot maxSessions)
    | .create connected =>
        match state.creating with
        | none => none
        | some slot => some (createAt options state slot connected)
    | .allocate slot request calls =>
        -- The thread of the process starts after its creation.
        if state.creating = some slot then none
        else match state.slots slot with
          | none => none
          | some process =>
              if validFork state calls then some (allocateAt state slot process request calls)
              else none
    | .exit pid =>
        if pid ∈ state.alive then
          some { state with
            alive := state.alive.erase pid
            zombies := state.zombies ++ [pid]
            deletions := state.deletions ++ [⟨state.instancePointer, pid⟩] }
        else none
    | .delete index putObject =>
        match state.deletions[index]? with
        | none => none
        | some deletion => some (deleteStep state index deletion putObject)

def system (options : Options) (store : ObjectStore) : TransitionSystem State Action where
  initial := ⟨fun _ => none, none, none, fun _ => none, store, [], [], [], false⟩
  step := step options

/-! ## What a deletion does -/

theorem deleteAt_none {state : State} {process : Process} {pid : Int}
    (absent : (process.current state.objects).deletedEntry pid = none) (slot : Nat)
    (putObject : Bool) : deleteAt state slot process pid putObject = state := by
  unfold deleteAt
  rw [Worker.sessionDeleted_none absent]

theorem deleteAt_some {state : State} {process : Process} {pid : Int} {entry : SessionFork}
    (found : (process.current state.objects).deletedEntry pid = some entry) (slot : Nat)
    (putObject : Bool) :
    let deleted := (process.current state.objects).sessionDeleted state.store pid putObject
    Exists fun swappedMemory => deleteAt state slot process pid putObject =
      { state with
        slots := Function.update state.slots slot
          (some ⟨deleted.1, process.closures ++ [.closure swappedMemory entry.sessionId]⟩)
        objects := deleted.1.objects
        store := deleted.2.1
        zombies := state.zombies.erase pid } := by
  rcases Worker.message_sessionDeleted found state.store putObject with ⟨swappedMemory, message⟩
  refine ⟨swappedMemory, ?_⟩
  unfold deleteAt
  cases deleted : (process.current state.objects).sessionDeleted state.store pid putObject with
  | mk worker rest =>
      cases rest with
      | mk store result =>
          rw [deleted] at message
          cases message
          rfl

/-! ## Who handles an exit -/

/-- The slot of the last construction, and for every exited child the slot of
the last construction before its exit. -/
structure History where
  built : Option Nat
  builtAtExit : Int -> Option Nat

/-- What a step adds to the history.  Only a request that finds a free slot
constructs a process. -/
def History.record (options : Options) (history : History) (entry : State × Action) : History :=
  match entry.2 with
  | .request _ =>
      match firstFree options entry.1 with
      | none => history
      | some slot => { history with built := some slot }
  | .exit pid => { history with builtAtExit := Function.update history.builtAtExit pid history.built }
  | _ => history

def History.of (options : Options) (trace : List (State × Action)) : History :=
  trace.foldl (History.record options) ⟨none, fun _ => none⟩

theorem history_append (options : Options) (trace : List (State × Action))
    (entry : State × Action) :
    History.of options (trace ++ [entry]) = (History.of options trace).record options entry := by
  unfold History.of
  rw [List.foldl_append]
  rfl

def sessionsIn (slot : Option Process) : List SessionFork :=
  match slot with
  | none => []
  | some process => process.worker.sessions

def State.sessionsOf (state : State) (slot : Nat) : List SessionFork :=
  sessionsIn (state.slots slot)

def State.closuresOf (state : State) (slot : Nat) : List StatusMessage :=
  match state.slots slot with
  | none => []
  | some process => process.closures

/-- The owner has erased the session, reported its closure, and swapped its
memory out if swapping is enabled. -/
structure HandledByOwner (source target : State) (owner : Nat) (entry : SessionFork)
    (putObject : Bool) : Prop where
  erased : target.sessionsOf owner = (source.sessionsOf owner).erase entry
  reported : Exists fun swappedMemory => target.closuresOf owner =
    source.closuresOf owner ++ [.closure swappedMemory entry.sessionId]
  swapped : forall process, source.slots owner = some process ->
    process.worker.swapper.enabled = true ->
    target.store = (process.worker.swapper.swap source.store entry.sessionId
      (entry.memory.image source.objects) entry.memory.size putObject).2

def State.pidsOf (state : State) (slot : Nat) : List Int :=
  (children (state.sessionsOf slot)).map Child.pid

theorem pidsOf_live {state : State} {slot : Nat} {process : Process}
    (live : state.slots slot = some process) :
    state.pidsOf slot = (children process.worker.sessions).map Child.pid := by
  unfold State.pidsOf State.sessionsOf
  rw [live]
  rfl

theorem pidsOf_update {source target : State} {slot : Nat} {process : Option Process}
    (updated : target.slots = Function.update source.slots slot process) (other : Nat) :
    target.pidsOf other = if other = slot then (children (sessionsIn process)).map Child.pid
      else source.pidsOf other := by
  unfold State.pidsOf State.sessionsOf
  rw [updated]
  by_cases same : other = slot
  · rw [if_pos same, same, Function.update_self]
  · rw [if_neg same, Function.update_of_ne same]

/-- The children in the lists of the processes are distinct and are known to
the kernel. -/
structure Placed (state : State) : Prop where
  fresh : (state.alive ++ state.zombies).Nodup
  positive : forall pid, pid ∈ state.alive ++ state.zombies -> 0 < pid
  distinct : forall slot, (state.pidsOf slot).Nodup
  apart : forall slot other pid, pid ∈ state.pidsOf slot -> pid ∈ state.pidsOf other -> slot = other
  known : forall slot pid, pid ∈ state.pidsOf slot -> pid ∈ state.alive ++ state.zombies

theorem Placed.shrink {source target : State} (placed : Placed source)
    (shorter : forall slot, (target.pidsOf slot).Sublist (source.pidsOf slot))
    (kernel : (target.alive ++ target.zombies).Sublist (source.alive ++ source.zombies))
    (known : forall slot pid, pid ∈ target.pidsOf slot -> pid ∈ target.alive ++ target.zombies) :
    Placed target where
  fresh := placed.fresh.sublist kernel
  positive := fun pid member => placed.positive pid (kernel.subset member)
  distinct := fun slot => (placed.distinct slot).sublist (shorter slot)
  apart := fun slot other pid first second =>
    placed.apart slot other pid ((shorter slot).subset first) ((shorter other).subset second)
  known := known

/-- A slot that is given a process with no more children than before. -/
theorem Placed.replace {source target : State} (placed : Placed source) {slot : Nat}
    {process : Option Process}
    (updated : target.slots = Function.update source.slots slot process)
    (fewer : (children (sessionsIn process)).Sublist (children (source.sessionsOf slot)))
    (alive : target.alive = source.alive) (zombies : target.zombies = source.zombies) :
    Placed target := by
  have shorter : forall other, (target.pidsOf other).Sublist (source.pidsOf other) := by
    intro other
    rw [pidsOf_update updated]
    split
    · rename_i same
      rw [same]
      exact fewer.map Child.pid
    · exact List.Sublist.refl _
  refine placed.shrink shorter ?_ ?_
  · rw [alive, zombies]
  · intro other pid member
    rw [alive, zombies]
    exact placed.known other pid ((shorter other).subset member)

theorem Placed.grow {source target : State} (placed : Placed source) {slot : Nat} {pid : Int}
    (unused : pid ∉ source.alive ++ source.zombies) (isPositive : 0 < pid)
    (added : forall other, target.pidsOf other =
      if other = slot then source.pidsOf slot ++ [pid] else source.pidsOf other)
    (kernel : (target.alive ++ target.zombies).Perm (pid :: (source.alive ++ source.zombies))) :
    Placed target := by
  have cases_mem (other : Nat) (child : Int) (member : child ∈ target.pidsOf other) :
      child ∈ source.pidsOf other ∨ (other = slot ∧ child = pid) := by
    rw [added] at member
    split at member
    · rename_i same
      rcases List.mem_append.mp member with old | new
      · exact Or.inl (same ▸ old)
      · exact Or.inr ⟨same, List.mem_singleton.mp new⟩
    · exact Or.inl member
  have notListed (other : Nat) : pid ∉ source.pidsOf other := fun member =>
    unused (placed.known other pid member)
  refine ⟨?_, ?_, ?_, ?_, ?_⟩
  · exact kernel.nodup_iff.mpr (List.nodup_cons.mpr ⟨unused, placed.fresh⟩)
  · intro child member
    rcases List.mem_cons.mp (kernel.mem_iff.mp member) with new | old
    · exact new ▸ isPositive
    · exact placed.positive child old
  · intro other
    rw [added]
    split
    · refine List.nodup_append.mpr ⟨placed.distinct slot, List.nodup_singleton pid, ?_⟩
      intro first listed second new same
      exact notListed slot (List.mem_singleton.mp new ▸ same ▸ listed)
    · exact placed.distinct other
  · intro first second child inFirst inSecond
    rcases cases_mem first child inFirst with old | ⟨firstSlot, new⟩
    · rcases cases_mem second child inSecond with other | ⟨_, new⟩
      · exact placed.apart first second child old other
      · exact absurd (new ▸ old) (notListed first)
    · rcases cases_mem second child inSecond with other | ⟨secondSlot, _⟩
      · exact absurd (new ▸ other) (notListed second)
      · exact firstSlot.trans secondSlot.symm
  · intro other child member
    refine kernel.mem_iff.mpr (List.mem_cons.mpr ?_)
    rcases cases_mem other child member with old | ⟨_, new⟩
    · exact Or.inr (placed.known other child old)
    · exact Or.inl new

section PlacedSteps

variable {state : State} (placed : Placed state)

include placed

theorem placed_construct (slot : Nat) (maxSessions : Int) :
    Placed (constructAt state slot maxSessions) := by
  have updated : (constructAt state slot maxSessions).slots = Function.update state.slots slot
      (some ⟨Worker.start maxSessions S3Swapper.new, []⟩) := rfl
  exact placed.replace updated (List.nil_sublist _) rfl rfl

theorem placed_create (options : Options) (slot : Nat) (connected : Bool) :
    Placed (createAt options state slot connected) := by
  have updated : (createAt options state slot connected).slots = Function.update state.slots slot
      (if connected then (state.slots slot).map (enableSwapping options) else none) := rfl
  refine placed.replace updated ?_ rfl rfl
  cases connected with
  | false => exact List.nil_sublist _
  | true =>
      unfold State.sessionsOf
      cases state.slots slot with
      | none => exact List.nil_sublist _
      | some process =>
          have same : (enableSwapping options process).worker.sessions =
              process.worker.sessions := by
            unfold enableSwapping
            split <;> rfl
          simp only [if_true, Option.map_some, sessionsIn, same, List.Sublist.refl]

theorem placed_allocate {slot : Nat} {process : Process} (found : state.slots slot = some process)
    {calls : Syscalls} (valid : validFork state calls = true) (request : SessionRequest) :
    Placed (allocateAt state slot process request calls) := by
  let worker := process.current state.objects
  have pids (other : Nat) : (allocateAt state slot process request calls).pidsOf other =
      if other = slot then
        state.pidsOf slot ++ (forkedChild worker state.store request calls).map Child.pid
      else state.pidsOf other := by
    have updated : (allocateAt state slot process request calls).slots =
        Function.update state.slots slot
          (some { process with worker := (worker.allocateSession state.store request calls).2 }) :=
      rfl
    have own : state.pidsOf slot = (children worker.sessions).map Child.pid := pidsOf_live found
    rw [pidsOf_update updated, own, ← List.map_append, ← children_allocateSession]
    rfl
  have kernel : (allocateAt state slot process request calls).alive =
      state.alive ++ (forkedChild worker state.store request calls).map Child.pid := rfl
  unfold forkedChild at pids kernel
  split at pids
  · rename_i forked
    rw [if_pos forked] at kernel
    rcases of_decide_eq_true valid with failed | ⟨isPositive, unused⟩
    · rw [failed] at forked
      exact absurd forked.2 (by decide)
    · refine placed.grow unused isPositive pids ?_
      rw [kernel, List.append_assoc]
      exact List.perm_middle
  · rename_i forked
    rw [if_neg forked] at kernel
    have same (other : Nat) : (allocateAt state slot process request calls).pidsOf other =
        state.pidsOf other := by
      rw [pids, List.map_nil, List.append_nil]
      split
      · rename_i own
        rw [own]
      · rfl
    have zombies : (allocateAt state slot process request calls).zombies = state.zombies := rfl
    rw [List.map_nil, List.append_nil] at kernel
    refine placed.shrink ?_ ?_ ?_
    · intro other
      rw [same]
    · rw [kernel, zombies]
    · intro other pid member
      rw [kernel, zombies]
      exact placed.known other pid (same other ▸ member)

theorem placed_exit {pid : Int} (member : pid ∈ state.alive) (deletions : List Deletion) :
    Placed { state with
      alive := state.alive.erase pid
      zombies := state.zombies ++ [pid]
      deletions := deletions } := by
  have moved : (state.alive ++ state.zombies).Perm
      (state.alive.erase pid ++ (state.zombies ++ [pid])) :=
    perm_move (List.perm_cons_erase member)
  exact {
    fresh := moved.nodup_iff.mp placed.fresh
    positive := fun other inside => placed.positive other (moved.mem_iff.mpr inside)
    distinct := placed.distinct
    apart := placed.apart
    known := fun slot other inside => moved.mem_iff.mp (placed.known slot other inside) }

/-- The child of a deletion that finds its entry is in no list afterwards, so
its process identifier can be used again. -/
theorem placed_delete {slot : Nat} {process : Process} (found : state.slots slot = some process)
    {pid : Int} (zombie : pid ∈ state.zombies) (putObject : Bool) :
    Placed (deleteAt state slot process pid putObject) := by
  have isPositive : 0 < pid := placed.positive pid (List.mem_append_right _ zombie)
  let worker := process.current state.objects
  have own : state.pidsOf slot = (children worker.sessions).map Child.pid := pidsOf_live found
  cases listed : worker.deletedEntry pid with
  | none =>
      rw [deleteAt_none listed]
      exact placed
  | some entry =>
      have samePid : entry.childPid = pid := of_decide_eq_true (List.find?_some listed :)
      have member : (⟨pid, entry.sessionId⟩ : Child) ∈ children worker.sessions :=
        mem_children.mpr ⟨entry, List.mem_of_find?_eq_some listed, samePid ▸ isPositive, samePid,
          rfl⟩
      have inSlot : pid ∈ state.pidsOf slot := own ▸ List.mem_map_of_mem member
      have taken := (perm_eraseP (own ▸ placed.distinct slot) member).map Child.pid
      have gone := (List.nodup_cons.mp (taken.nodup_iff.mp (own ▸ placed.distinct slot))).1
      rcases deleteAt_some listed slot putObject with ⟨swappedMemory, deleted⟩
      have pids (other : Nat) : (deleteAt state slot process pid putObject).pidsOf other =
          if other = slot then
            ((children worker.sessions).eraseP (fun child => decide (child.pid = pid))).map Child.pid
          else state.pidsOf other := by
        rw [pidsOf_update (congrArg State.slots deleted), ← children_sessionDeleted worker
          state.store isPositive putObject]
        rfl
      have shorter (other : Nat) : ((deleteAt state slot process pid putObject).pidsOf other).Sublist
          (state.pidsOf other) := by
        rw [pids]
        split
        · rename_i same
          rw [same, own]
          exact List.eraseP_sublist.map Child.pid
        · exact List.Sublist.refl _
      refine placed.shrink shorter ?_ ?_
      · rw [deleted]
        exact List.erase_sublist.append_left _
      · intro other child inside
        have different : child ≠ pid := by
          intro same
          rw [pids] at inside
          split at inside
          · exact gone (same ▸ inside)
          · rename_i elsewhere
            exact elsewhere (placed.apart other slot pid (same ▸ inside) inSlot)
        rw [deleted]
        rcases List.mem_append.mp (placed.known other child ((shorter other).subset inside)) with
          alive | waiting
        · exact List.mem_append_left _ alive
        · exact List.mem_append_right _ ((List.mem_erase_of_ne different).mpr waiting)

theorem placed_deleteStep (index : Nat) {deletion : Deletion} (zombie : deletion.pid ∈ state.zombies)
    (putObject : Bool) : Placed (deleteStep state index deletion putObject) := by
  unfold deleteStep
  cases deletion.target with
  | none => exact ⟨placed.fresh, placed.positive, placed.distinct, placed.apart, placed.known⟩
  | some slot =>
      dsimp only
      cases found : state.slots slot with
      | none => exact ⟨placed.fresh, placed.positive, placed.distinct, placed.apart, placed.known⟩
      | some process =>
          have ended : Placed { state with deletions := state.deletions.eraseIdx index } :=
            ⟨placed.fresh, placed.positive, placed.distinct, placed.apart, placed.known⟩
          exact placed_delete ended found zombie putObject

end PlacedSteps

/-- Every deletion runs on the process constructed last before the exit, and
its child has not been waited for. -/
structure Directed (options : Options) (trace : List (State × Action)) (state : State) : Prop where
  pointer : state.instancePointer = (History.of options trace).built
  targets : forall deletion, deletion ∈ state.deletions ->
    deletion.target = (History.of options trace).builtAtExit deletion.pid
  waiting : forall deletion, deletion ∈ state.deletions -> deletion.pid ∈ state.zombies
  separate : (state.deletions.map Deletion.pid).Nodup

/-- What a deletion leaves alone. -/
theorem deleteAt_frame (state : State) (slot : Nat) (process : Process) (pid : Int)
    (putObject : Bool) :
    let target := deleteAt state slot process pid putObject
    target.deletions = state.deletions ∧ target.instancePointer = state.instancePointer ∧
      forall other, other ≠ pid -> other ∈ state.zombies -> other ∈ target.zombies := by
  unfold deleteAt
  dsimp only
  split
  · exact ⟨rfl, rfl, fun _ _ inside => inside⟩
  · exact ⟨rfl, rfl, fun other different inside => (List.mem_erase_of_ne different).mpr inside⟩

section DirectedSteps

variable {options : Options} {trace : List (State × Action)} {state : State}
  (directed : Directed options trace state)

include directed

theorem directed_same {target : State} {action : Action}
    (kept : (History.of options trace).record options (state, action) = History.of options trace)
    (pointer : target.instancePointer = state.instancePointer)
    (deletions : target.deletions.Sublist state.deletions)
    (zombies : forall deletion, deletion ∈ target.deletions -> deletion.pid ∈ state.zombies ->
      deletion.pid ∈ target.zombies) :
    Directed options (trace ++ [(state, action)]) target := by
  refine ⟨?_, ?_, ?_, directed.separate.sublist (deletions.map Deletion.pid)⟩
  · rw [history_append, kept, pointer]
    exact directed.pointer
  · intro deletion member
    rw [history_append, kept]
    exact directed.targets deletion (deletions.subset member)
  · intro deletion member
    exact zombies deletion member (directed.waiting deletion (deletions.subset member))

theorem directed_request (maxSessions : Int) {slot : Nat}
    (free : firstFree options state = some slot) :
    Directed options (trace ++ [(state, .request maxSessions)])
      (constructAt state slot maxSessions) := by
  have built : (History.of options trace).record options (state, .request maxSessions) =
      { History.of options trace with built := some slot } := by
    simp only [History.record, free]
  refine ⟨?_, ?_, directed.waiting, directed.separate⟩
  · rw [history_append, built]
    rfl
  · rw [history_append, built]
    exact directed.targets

theorem directed_exit (placed : Placed state) {pid : Int} (member : pid ∈ state.alive) :
    Directed options (trace ++ [(state, .exit pid)])
      { state with
        alive := state.alive.erase pid
        zombies := state.zombies ++ [pid]
        deletions := state.deletions ++ [⟨state.instancePointer, pid⟩] } := by
  -- The child was alive, so no deletion has its process identifier.
  have other (deletion : Deletion) (inside : deletion ∈ state.deletions) : deletion.pid ≠ pid := by
    intro same
    exact (List.nodup_append.mp placed.fresh).2.2 pid member deletion.pid
      (directed.waiting deletion inside) same.symm
  refine ⟨?_, ?_, ?_, ?_⟩
  · rw [history_append]
    exact directed.pointer
  · intro deletion inside
    rw [history_append]
    dsimp only [History.record]
    rcases List.mem_append.mp inside with old | new
    · rw [Function.update_of_ne (other deletion old)]
      exact directed.targets deletion old
    · rw [List.mem_singleton.mp new, Function.update_self]
      exact directed.pointer
  · intro deletion inside
    rcases List.mem_append.mp inside with old | new
    · exact List.mem_append_left _ (directed.waiting deletion old)
    · rw [List.mem_singleton.mp new]
      exact List.mem_append_right _ (List.mem_singleton_self pid)
  · rw [List.map_append, List.map_singleton]
    refine List.nodup_append.mpr ⟨directed.separate, List.nodup_singleton pid, ?_⟩
    intro first old second new same
    rcases List.mem_map.mp old with ⟨deletion, inside, rfl⟩
    exact other deletion inside (same.trans (List.mem_singleton.mp new))

theorem directed_delete {index : Nat} {deletion : Deletion}
    (thread : state.deletions[index]? = some deletion) (putObject : Bool) :
    Directed options (trace ++ [(state, .delete index putObject)])
      (deleteStep state index deletion putObject) := by
  have rest : forall other, other ∈ state.deletions.eraseIdx index -> other.pid ≠ deletion.pid := by
    intro other inside same
    have separate := ((perm_eraseIdx thread).map Deletion.pid).nodup_iff.mp directed.separate
    exact (List.nodup_cons.mp separate).1 (same ▸ List.mem_map_of_mem inside)
  have shorter : (state.deletions.eraseIdx index).Sublist state.deletions :=
    List.eraseIdx_sublist _ _
  unfold deleteStep
  cases deletion.target with
  | none => exact directed_same directed rfl rfl shorter (fun _ _ waiting => waiting)
  | some slot =>
      dsimp only
      cases state.slots slot with
      | none => exact directed_same directed rfl rfl shorter (fun _ _ waiting => waiting)
      | some process =>
          rcases deleteAt_frame { state with deletions := state.deletions.eraseIdx index } slot
            process deletion.pid putObject with ⟨deletions, pointer, zombies⟩
          refine directed_same directed rfl pointer (deletions ▸ shorter) ?_
          intro other inside waiting
          rw [deletions] at inside
          exact zombies other.pid (rest other inside) waiting

end DirectedSteps

theorem consistent_step {options : Options} {trace : List (State × Action)} {source target : State}
    {action : Action} (consistent : Placed source ∧ Directed options trace source)
    (stepped : step options source action = some target) :
    Placed target ∧ Directed options (trace ++ [(source, action)]) target := by
  rcases consistent with ⟨placed, directed⟩
  unfold step at stepped
  split at stepped
  · cases stepped
  cases action with
  | request maxSessions =>
      dsimp only at stepped
      split at stepped
      · cases stepped
      split at stepped
      · rename_i full
        cases stepped
        have kept : (History.of options trace).record options (source, .request maxSessions) =
            History.of options trace := by
          simp only [History.record, full]
        exact ⟨placed, directed_same directed kept rfl (List.Sublist.refl _)
          (fun _ _ waiting => waiting)⟩
      · rename_i slot free
        cases stepped
        exact ⟨placed_construct placed slot maxSessions, directed_request directed maxSessions free⟩
  | create connected =>
      dsimp only at stepped
      split at stepped
      · cases stepped
      · rename_i slot _
        cases stepped
        exact ⟨placed_create placed options slot connected, directed_same directed rfl rfl
          (List.Sublist.refl _) (fun _ _ waiting => waiting)⟩
  | allocate slot request calls =>
      dsimp only at stepped
      split at stepped
      · cases stepped
      split at stepped
      · cases stepped
      split at stepped
      · rename_i process found valid
        cases stepped
        exact ⟨placed_allocate placed found valid request, directed_same directed rfl rfl
          (List.Sublist.refl _) (fun _ _ waiting => waiting)⟩
      · cases stepped
  | exit pid =>
      dsimp only at stepped
      split at stepped
      · rename_i member
        cases stepped
        exact ⟨placed_exit placed member _, directed_exit directed placed member⟩
      · cases stepped
  | delete index putObject =>
      dsimp only at stepped
      split at stepped
      · cases stepped
      · rename_i deletion thread
        cases stepped
        have zombie := directed.waiting deletion (List.mem_of_getElem? thread)
        exact ⟨placed_deleteStep placed index zombie putObject,
          directed_delete directed thread putObject⟩

theorem consistent_of_run {options : Options} {store : ObjectStore}
    {trace : List (State × Action)} {final : State}
    (run : TransitionSystem.Run (system options store) (system options store).initial trace final) :
    Placed final ∧ Directed options trace final := by
  apply run.traced_invariant (fun trace state => Placed state ∧ Directed options trace state)
  · refine ⟨⟨List.nodup_nil, ?_, fun _ => List.nodup_nil, ?_, ?_⟩, ⟨rfl, ?_, ?_, List.nodup_nil⟩⟩
    · intro pid member
      cases member
    · intro slot other pid member
      cases member
    · intro slot pid member
      cases member
    · intro deletion member
      cases member
    · intro deletion member
      cases member
  · intro trace source action target _ consistent stepped
    exact consistent_step consistent stepped

/-- A deletion leaves the slots other than its target alone. -/
theorem slots_deleteStep {state : State} {deletion : Deletion} {owner : Nat}
    (elsewhere : deletion.target ≠ some owner) (index : Nat) (putObject : Bool) :
    (deleteStep state index deletion putObject).slots owner = state.slots owner := by
  unfold deleteStep
  cases target : deletion.target with
  | none => rfl
  | some slot =>
      have different : owner ≠ slot := fun same => elsewhere (same ▸ target)
      dsimp only
      cases state.slots slot with
      | none => rfl
      | some process =>
          dsimp only [deleteAt]
          split
          · rfl
          · exact Function.update_of_ne different _ _

/-- The entry that has the child is the one that a deletion finds, and it is
the one erased. -/
theorem entry_found {worker : Worker} {entry : SessionFork}
    (distinct : ((children worker.sessions).map Child.pid).Nodup)
    (member : entry ∈ worker.sessions) (isPositive : 0 < entry.childPid) :
    worker.deletedEntry entry.childPid = some entry ∧
      worker.sessions.eraseP (fun other => decide (other.childPid = entry.childPid)) =
        worker.sessions.erase entry := by
  rcases List.append_of_mem member with ⟨before, after, whole⟩
  have earlier (other : SessionFork) (inside : other ∈ before) :
      ¬ decide (other.childPid = entry.childPid) = true := by
    intro tested
    have same : other.childPid = entry.childPid := of_decide_eq_true tested
    have listed : (⟨other.childPid, other.sessionId⟩ : Child) ∈ children before :=
      mem_children.mpr ⟨other, inside, same ▸ isPositive, rfl, rfl⟩
    have own : (⟨entry.childPid, entry.sessionId⟩ : Child) ∈ children (entry :: after) :=
      mem_children.mpr ⟨entry, List.mem_cons_self, isPositive, rfl, rfl⟩
    rw [whole, children_append, List.map_append] at distinct
    exact (List.nodup_append.mp distinct).2.2 _ (List.mem_map_of_mem listed) _
      (List.mem_map_of_mem own) same
  have notBefore : entry ∉ before := fun inside => earlier entry inside (decide_eq_true rfl)
  constructor
  · exact List.find?_eq_some_iff_append.mpr ⟨decide_eq_true rfl, before, after, whole,
      fun other inside => Bool.not_eq_true' _ ▸ Bool.eq_false_iff.mpr (earlier other inside)⟩
  · rw [whole, List.eraseP_append_right _ earlier, List.erase_append_right _ notBefore]
    simp only [List.eraseP_cons, decide_true, cond_true, List.erase_cons_head]

/-- What a deletion on the owner does. -/
theorem handled_of_target {state : State} (placed : Placed state) {owner : Nat}
    {entry : SessionFork} (member : entry ∈ state.sessionsOf owner)
    (isPositive : 0 < entry.childPid) {deletion : Deletion} (child : entry.childPid = deletion.pid)
    (own : deletion.target = some owner) (index : Nat) (putObject : Bool) :
    HandledByOwner state (deleteStep state index deletion putObject) owner entry putObject := by
  cases live : state.slots owner with
  | none =>
      unfold State.sessionsOf at member
      rw [live] at member
      cases member
  | some process =>
      let ended : State := { state with deletions := state.deletions.eraseIdx index }
      have listed : entry ∈ (process.current ended.objects).sessions := by
        unfold State.sessionsOf at member
        rw [live] at member
        exact member
      have distinct : ((children (process.current ended.objects).sessions).map Child.pid).Nodup := by
        have distinct := placed.distinct owner
        rw [pidsOf_live live] at distinct
        exact distinct
      rcases entry_found distinct listed isPositive with ⟨found, erased⟩
      rcases deleteAt_some found owner putObject with ⟨swappedMemory, deleted⟩
      have stepped : deleteStep state index deletion putObject =
          deleteAt ended owner process entry.childPid putObject := by
        unfold deleteStep
        rw [own, child]
        dsimp only
        rw [live]
      rw [stepped, deleted]
      refine ⟨?_, ⟨swappedMemory, ?_⟩, ?_⟩
      · unfold State.sessionsOf
        dsimp only
        rw [Function.update_self, live]
        simp only [sessionsIn, Worker.sessionDeleted, found, eraseFork_kept]
        exact erased
      · unfold State.closuresOf
        dsimp only
        rw [Function.update_self, live]
      · intro other same enabled
        cases live.symm.trans same
        simp only [Worker.sessionDeleted, found]
        exact if_pos enabled

theorem handled_iff {options : Options} {store : ObjectStore}
    {trace : List (State × Action)} {final target : State}
    (run : TransitionSystem.Run (system options store) (system options store).initial trace final)
    {index : Nat} {deletion : Deletion} (thread : final.deletions[index]? = some deletion)
    {owner : Nat} {entry : SessionFork} (member : entry ∈ final.sessionsOf owner)
    (child : entry.childPid = deletion.pid) {putObject : Bool}
    (stepped : (system options store).step final (.delete index putObject) = some target) :
    HandledByOwner final target owner entry putObject ↔
      (History.of options trace).builtAtExit deletion.pid = some owner := by
  rcases consistent_of_run run with ⟨placed, directed⟩
  have inside : deletion ∈ final.deletions := List.mem_of_getElem? thread
  have isPositive : 0 < entry.childPid := by
    rw [child]
    exact placed.positive _ (List.mem_append_right _ (directed.waiting deletion inside))
  have reached : target = deleteStep final index deletion putObject := by
    dsimp only [system, step] at stepped
    split at stepped
    · cases stepped
    · rw [thread] at stepped
      exact (Option.some.inj stepped).symm
  rw [← directed.targets deletion inside, reached]
  constructor
  · intro handled
    by_contra elsewhere
    have erased := handled.erased
    unfold State.sessionsOf at erased member
    rw [slots_deleteStep elsewhere] at erased
    have shorter := List.length_erase_of_mem member
    rw [← erased] at shorter
    have occupied := List.length_pos_of_mem member
    omega
  · intro own
    exact handled_of_target placed member isPositive child own index putObject

/-- In every run, the exit of a child is handled by the process that has its
session exactly when the last request that had found a free slot before the
exit was the one that constructed this process. -/
theorem exit_handled_by_owner_iff (options : Options) (store : ObjectStore)
    {trace : List (State × Action)} {final target : State}
    (run : TransitionSystem.Run (system options store) (system options store).initial trace final)
    {index : Nat} {deletion : Deletion} (thread : final.deletions[index]? = some deletion)
    {owner : Nat} {entry : SessionFork} (member : entry ∈ final.sessionsOf owner)
    (child : entry.childPid = deletion.pid) {putObject : Bool}
    (stepped : (system options store).step final (.delete index putObject) = some target) :
    HandledByOwner final target owner entry putObject ↔
      (History.of options trace).builtAtExit deletion.pid = some owner :=
  handled_iff run thread member child stepped

/-- Two processes are constructed, one after the other, and both connect. -/
def startTwo : List Action := [.request 4, .create true, .request 4, .create true]

/-- A session is started on a slot, and its child exits. -/
def runSession (slot : Nat) : List Action :=
  [.allocate slot ⟨[65], 1, 4⟩ (Exits.forkAs 100), .exit 100]

/-- The options of a local worker with two slots. -/
def twoProcesses : Options := ⟨2, true, none⟩

/-- After a session on a slot has exited, its deletion is waiting. -/
theorem exists_exit (slot : Fin 2) :
    Exists fun trace => Exists fun final => Exists fun deletion => Exists fun entry =>
    Exists fun target =>
      TransitionSystem.Run (system twoProcesses (fun _ => none))
        (system twoProcesses (fun _ => none)).initial trace final ∧
      final.deletions[0]? = some deletion ∧ entry ∈ final.sessionsOf slot ∧
      entry.childPid = deletion.pid ∧
      (system twoProcesses (fun _ => none)).step final (.delete 0 true) = some target ∧
      (History.of twoProcesses trace).builtAtExit deletion.pid = some 1 := by
  have found := TransitionSystem.exists_run (system twoProcesses (fun _ => none))
    (system twoProcesses (fun _ => none)).initial (startTwo ++ runSession slot)
    (fun trace final => decide (final.deletions.map Deletion.pid = [100] ∧
      (final.sessionsOf slot).map SessionFork.childPid = [100] ∧ final.destroyed = false ∧
      (History.of twoProcesses trace).builtAtExit 100 = some 1)) (by
        revert slot
        decide +kernel)
  rcases found with ⟨trace, final, run, tested⟩
  rcases of_decide_eq_true tested with ⟨deletions, sessions, intact, built⟩
  rcases List.map_eq_singleton_iff.mp deletions with ⟨deletion, thread, pid⟩
  rcases List.map_eq_singleton_iff.mp sessions with ⟨entry, listed, child⟩
  have index : final.deletions[0]? = some deletion := by rw [thread]; rfl
  refine ⟨trace, final, deletion, entry, deleteStep final 0 deletion true, run, index, ?_,
    child.trans pid.symm, ?_, pid.symm ▸ built⟩
  · rw [listed]
    exact List.mem_singleton_self entry
  · simp only [system, step, intact, index]
    rfl

theorem exit_handled_by_last :
    Exists fun trace => Exists fun final => Exists fun entry => Exists fun target =>
      TransitionSystem.Run (system twoProcesses (fun _ => none))
        (system twoProcesses (fun _ => none)).initial trace final ∧
      entry ∈ final.sessionsOf 1 ∧
      (system twoProcesses (fun _ => none)).step final (.delete 0 true) = some target ∧
      HandledByOwner final target 1 entry true := by
  rcases exists_exit 1 with
    ⟨trace, final, deletion, entry, target, run, thread, member, child, stepped, built⟩
  exact ⟨trace, final, entry, target, run, member, stepped,
    (exit_handled_by_owner_iff twoProcesses (fun _ => none) run thread member child stepped).mpr
      built⟩

/-- The session of the first process is not handled by it once the second
process has been constructed. -/
theorem exit_missed_by_owner :
    ¬ forall (options : Options) (store : ObjectStore) (trace : List (State × Action))
      (final : State), TransitionSystem.Run (system options store) (system options store).initial
        trace final ->
      forall (index : Nat) (deletion : Deletion), final.deletions[index]? = some deletion ->
      forall (owner : Nat) (entry : SessionFork), entry ∈ final.sessionsOf owner ->
      entry.childPid = deletion.pid -> forall (putObject : Bool) (target : State),
      (system options store).step final (.delete index putObject) = some target ->
      HandledByOwner final target owner entry putObject := by
  intro always
  rcases exists_exit 0 with
    ⟨trace, final, deletion, entry, target, run, thread, member, child, stepped, built⟩
  have handled := always twoProcesses (fun _ => none) trace final run 0 deletion thread 0 entry member
    child true target stepped
  have first := (handled_iff run thread member child stepped).mp handled
  rw [built] at first
  cases first

end Instances
end LocalWorker
end Praas
