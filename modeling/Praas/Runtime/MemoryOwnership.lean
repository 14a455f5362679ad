import Praas.Runtime.ChildExits
import Praas.Runtime.FailedAllocation

namespace Praas
namespace Runtime

open Library
open ControlPlane (SessionRequest)

/-!
# Who releases the shared memory of a session

An entry of the worker owns the mapping and the name of the shared memory of
its session, and its destructor releases both.  When an entry is erased from
the vector, the later entries are moved down over it by the move assignment,
which drops what the target owned.  So the shared memory of the erased session
is released exactly if its entry was the last one; otherwise the object that
is destroyed in the end has been moved from, and releases nothing.

The mappings of the worker process are recorded by the name of the mapped
object.  Session identifiers come from the control plane and contain no
terminator, so that different sessions have different names.
-/

/-- The mapping that the destructor of an entry undoes. -/
def SharedMemory.mappings (memory : SharedMemory) : List Bytes :=
  if memory.mapped then [memory.path] else []

namespace Ownership

/-- The worker, the object store, and the mappings of the worker process.  A
mapping is given up only by the destructor of the entry that owns it. -/
structure State where
  worker : Worker
  store : ObjectStore
  mappings : List Bytes

inductive Action
  | allocate (request : SessionRequest) (calls : Syscalls)
  | delete (pid : Int) (putObject : Bool)

/-- `vfork` fails, or returns a process identifier that no child has. -/
def validFork (worker : Worker) (calls : Syscalls) : Bool :=
  decide (calls.vfork = -1 ∨
    (0 < calls.vfork ∧ calls.vfork ∉ (children worker.sessions).map Child.pid))

namespace State

def allocate (state : State) (request : SessionRequest) (calls : Syscalls) : State :=
  let allocated := state.worker.allocateSession state.store request calls
  { state with
    worker := allocated.2
    mappings := state.mappings ++
      (if allocated.1 = .success then [SharedMemory.pathOf request.sessionId] else []) }

/-- The object that the vector destroys when the session of a child is
deleted. -/
def destroyed (state : State) (pid : Int) : Option SessionFork :=
  (eraseFork pid state.worker.sessions).2

def delete (state : State) (pid : Int) (putObject : Bool) : State :=
  let deleted := state.worker.sessionDeleted state.store pid putObject
  ⟨deleted.1, deleted.2.1, state.mappings.diff
    ((state.destroyed pid).toList.flatMap (fun entry => entry.memory.mappings))⟩

end State

def step (state : State) : Action -> Option State
  | .allocate request calls =>
      if NulFree request.sessionId ∧ validFork state.worker calls then
        some (state.allocate request calls)
      else none
  | .delete pid putObject => if 0 < pid then some (state.delete pid putObject) else none

def system (maxSessions : Int) (swapper : S3Swapper) (store : ObjectStore) :
    TransitionSystem State Action where
  initial := ⟨Worker.start maxSessions swapper, store, []⟩
  step := step

/-! ## Moves -/

/-- What has been moved from is moved from to the end. -/
theorem moveDown_empty {slot : SessionFork} (moved : slot.memory = SharedMemory.empty)
    (rest : List SessionFork) : (moveDown slot rest).2.memory = SharedMemory.empty := by
  induction rest generalizing slot with
  | nil => exact moved
  | cons next rest inductionHypothesis => exact inductionHypothesis rfl

/-- The object that is destroyed is the erased entry itself if that was the
last one, and one that has been moved from otherwise. -/
theorem eraseFork_destroyed {pid : Int} {before after : List SessionFork} {entry : SessionFork}
    (own : entry.childPid = pid)
    (earlier : forall other, other ∈ before -> other.childPid ≠ pid) :
    Exists fun destroyed => (eraseFork pid (before ++ entry :: after)).2 = some destroyed ∧
      (after = [] -> destroyed = entry) ∧
      (after ≠ [] -> destroyed.memory = SharedMemory.empty) := by
  induction before with
  | nil =>
      refine ⟨(moveDown entry after).2, by simp [eraseFork, own], ?_, ?_⟩
      · rintro rfl
        rfl
      · intro more
        cases after with
        | nil => exact False.elim (more rfl)
        | cons next rest => exact moveDown_empty rfl rest
  | cons first rest inductionHypothesis =>
      have other : first.childPid ≠ pid := earlier first List.mem_cons_self
      rcases inductionHypothesis (fun entry member =>
        earlier entry (List.mem_cons_of_mem _ member)) with ⟨destroyed, erased, last, middle⟩
      refine ⟨destroyed, ?_, last, middle⟩
      rw [List.cons_append, eraseFork, if_neg other]
      exact erased

/-! ## Creating shared memory -/

/-- The entry owns the mapping and the name of the shared memory of its
session, and the name is linked. -/
structure Holds (objects : SharedObjects) (entry : SessionFork) : Prop where
  mapped : entry.memory.mapped = true
  owned : entry.memory.owned = true
  descriptor : entry.memory.fd ≠ -1
  path : entry.memory.path = SharedMemory.pathOf entry.sessionId
  linked : (objects entry.memory.path).isSome = true

/-- What a session request can do: it is refused, or it appends an entry of
its session.  The objects of other sessions are left alone. -/
inductive Allocated (worker : Worker) (store : ObjectStore) (request : SessionRequest)
    (calls : Syscalls) : ErrorCode × Worker -> Prop
  | refused {result : ErrorCode} : worker.refuses request = true -> result ≠ .success ->
      Allocated worker store request calls (result, worker)
  | failed {objects : SharedObjects} {entry : SessionFork} : worker.refuses request = false ->
      worker.creatable store request calls = false ->
      (forall path, path ≠ SharedMemory.pathOf request.sessionId ->
        objects path = worker.objects path) ->
      entry.sessionId = request.sessionId -> entry.memory.mapped = false ->
      entry.childPid = -1 ->
      Allocated worker store request calls (.unknownFailure,
        { worker with sessions := worker.sessions ++ [entry], objects := objects })
  | started {objects : SharedObjects} {entry : SessionFork} : worker.refuses request = false ->
      (forall path, path ≠ SharedMemory.pathOf request.sessionId ->
        objects path = worker.objects path) ->
      entry.sessionId = request.sessionId -> Holds objects entry ->
      entry.childPid = calls.vfork ->
      Allocated worker store request calls (.success,
        { worker with sessions := worker.sessions ++ [entry], objects := objects })

theorem create_holds {objects after : SharedObjects} {swapper : S3Swapper} {store : ObjectStore}
    {sessionId : Bytes} {size : Int} {calls : Syscalls} {memory : SharedMemory}
    (created : SharedMemory.create objects swapper store sessionId size calls =
      (after, some memory)) (maxFunctions memorySize childPid : Int) :
    Holds after ⟨memory, sessionId, maxFunctions, memorySize, childPid⟩ := by
  have creation := SharedMemory.create_creation objects swapper store sessionId size calls
  rw [created] at creation
  cases creation with
  | loaded contents maps swapped found sized | fresh contents maps fresh sized =>
      refine ⟨rfl, rfl, maps.opened, rfl, ?_⟩
      rw [Function.update_self]
      rfl

theorem allocateSession_allocated (worker : Worker) (store : ObjectStore)
    (request : SessionRequest) (calls : Syscalls) :
    Allocated worker store request calls (worker.allocateSession store request calls) := by
  have creates := Worker.create_isSome_iff worker store request calls
  unfold Worker.allocateSession
  split
  · rename_i full
    refine .refused ?_ (fun same => by cases same)
    rw [Worker.refuses, decide_eq_true full, Bool.true_or]
  rename_i room
  split
  · rename_i listed
    refine .refused ?_ (fun same => by cases same)
    rw [Worker.refuses, listed, Bool.or_true]
  rename_i unlisted
  have accepted : worker.refuses request = false := by
    rw [Worker.refuses, decide_eq_false room, Bool.eq_false_iff.mpr unlisted, Bool.false_or]
  unfold Worker.fork
  cases created : SharedMemory.create worker.objects worker.swapper store request.sessionId
      request.memorySize calls with
  | mk objects result =>
      have others : forall path, path ≠ SharedMemory.pathOf request.sessionId ->
          objects path = worker.objects path := by
        intro path different
        rw [← SharedMemory.create_other worker.objects worker.swapper store request.sessionId
          request.memorySize calls different, created]
      rw [created] at creates
      cases result with
      | none =>
          simp only [SessionFork.new, created, Bool.false_eq_true, if_false]
          refine .failed accepted ?_ others rfl rfl rfl
          exact Bool.eq_false_iff.mpr (fun can => by cases creates.mpr can)
      | some memory =>
          simp only [SessionFork.new, created, if_true]
          exact .started accepted others rfl (create_holds created _ _ _) rfl

/-! ## Deleting a session -/

/-- The list around the entry that is deleted, and what becomes of the names
and mappings. -/
structure Deletes (state : State) (before : List SessionFork) (entry : SessionFork)
    (after : List SessionFork) (next : State) : Prop where
  sessions : next.worker.sessions = before ++ after
  last : after = [] -> next.worker.objects = entry.memory.destroy state.worker.objects ∧
    next.mappings = state.mappings.diff entry.memory.mappings
  middle : after ≠ [] -> next.worker.objects = state.worker.objects ∧
    next.mappings = state.mappings

theorem delete_found {state : State} {pid : Int} {before after : List SessionFork}
    {entry : SessionFork} (listed : state.worker.sessions = before ++ entry :: after)
    (own : entry.childPid = pid) (earlier : forall other, other ∈ before -> other.childPid ≠ pid)
    (putObject : Bool) : Deletes state before entry after (state.delete pid putObject) := by
  have found : state.worker.deletedEntry pid = some entry := by
    unfold Worker.deletedEntry
    rw [listed, List.find?_append, List.find?_eq_none.mpr (fun other member => by
      simpa using earlier other member), Option.none_or, List.find?_cons_of_pos (by simpa using own)]
  rcases eraseFork_destroyed own earlier with ⟨destroyed, erased, last, middle⟩
  rw [← listed] at erased
  have objects : (state.delete pid putObject).worker.objects =
      destroyed.memory.destroy state.worker.objects := by
    simp only [State.delete, Worker.sessionDeleted, found, erased]
  have mappings : (state.delete pid putObject).mappings =
      state.mappings.diff destroyed.memory.mappings := by
    simp only [State.delete, State.destroyed, erased, Option.toList_some, List.flatMap_singleton]
  refine ⟨?_, ?_, ?_⟩
  · simp only [State.delete, Worker.sessionDeleted, found, eraseFork_kept]
    rw [listed, List.eraseP_append_right _ (fun other member => by
      simpa using earlier other member), List.eraseP_cons_of_pos (by simpa using own)]
  · intro none
    rw [objects, mappings, last none]
    exact ⟨rfl, rfl⟩
  · intro some
    rw [objects, mappings, middle some]
    exact ⟨rfl, rfl⟩

theorem eraseFork_none {pid : Int} {entries : List SessionFork}
    (absent : forall entry, entry ∈ entries -> entry.childPid ≠ pid) :
    (eraseFork pid entries).2 = none := by
  induction entries with
  | nil => rfl
  | cons entry rest inductionHypothesis =>
      rw [eraseFork, if_neg (absent entry List.mem_cons_self)]
      exact inductionHypothesis (fun other member => absent other (List.mem_cons_of_mem _ member))

theorem delete_none {state : State} {pid : Int} (absent : state.worker.deletedEntry pid = none)
    (putObject : Bool) : state.delete pid putObject = state := by
  have destroyed : state.destroyed pid = none := by
    apply eraseFork_none
    intro entry member same
    exact List.find?_eq_none.mp absent entry member (decide_eq_true same)
  simp only [State.delete, Worker.sessionDeleted_none absent, destroyed, Option.toList_none,
    List.flatMap_nil, List.diff_nil]

/-! ## Every session owns its memory -/

/-- The sessions of the worker are distinct, and every session with a child or
a mapping owns its shared memory. -/
structure Owners (state : State) : Prop where
  ids : (state.worker.sessions.map SessionFork.sessionId).Nodup
  pids : ((children state.worker.sessions).map Child.pid).Nodup
  held : forall entry, entry ∈ state.worker.sessions -> entry.memory.mapped = true ->
    Holds state.worker.objects entry ∧ entry.memory.path ∈ state.mappings
  forked : forall entry, entry ∈ state.worker.sessions -> 0 < entry.childPid ->
    entry.memory.mapped = true

/-- Two places of the list hold different sessions, with different names. -/
theorem Owners.path_ne {state : State} (owners : Owners state)
    {before after : List SessionFork} {entry other : SessionFork}
    (listed : state.worker.sessions = before ++ entry :: after)
    (member : other ∈ before ++ after) (mapped : other.memory.mapped = true)
    (path : entry.memory.path = SharedMemory.pathOf entry.sessionId) :
    other.memory.path ≠ entry.memory.path := by
  have inside := mem_around listed member
  have ids := owners.ids
  rw [listed, List.map_append, List.map_cons] at ids
  have distinct := (List.nodup_middle.mp ids)
  rw [List.nodup_cons, ← List.map_append] at distinct
  intro same
  rw [(owners.held other inside mapped).1.path, path] at same
  have sameId := SharedMemory.pathOf_injective same
  apply distinct.1
  rw [← sameId]
  exact List.mem_map_of_mem member

theorem Owners.earlier {state : State} (owners : Owners state)
    {before after : List SessionFork} {entry : SessionFork}
    (listed : state.worker.sessions = before ++ entry :: after) (positive : 0 < entry.childPid) :
    forall other, other ∈ before -> other.childPid ≠ entry.childPid := by
  intro other member same
  have pids := owners.pids
  rw [listed, children_append, List.map_append] at pids
  have first : other.childPid ∈ (children before).map Child.pid :=
    List.mem_map.mpr ⟨⟨other.childPid, other.sessionId⟩,
      mem_children.mpr ⟨other, member, same ▸ positive, rfl, rfl⟩, rfl⟩
  have second : entry.childPid ∈ (children (entry :: after)).map Child.pid :=
    List.mem_map.mpr ⟨⟨entry.childPid, entry.sessionId⟩,
      mem_children.mpr ⟨entry, List.mem_cons_self, positive, rfl, rfl⟩, rfl⟩
  exact (List.nodup_append.mp pids).2.2 _ first _ second same

/-- After a deletion every other session still owns its memory. -/
theorem Owners.kept {state next : State} (owners : Owners state)
    {before after : List SessionFork} {entry : SessionFork}
    (listed : state.worker.sessions = before ++ entry :: after)
    (positive : 0 < entry.childPid) (deletes : Deletes state before entry after next)
    (other : SessionFork) (member : other ∈ before ++ after)
    (mapped : other.memory.mapped = true) :
    Holds next.worker.objects other ∧ other.memory.path ∈ next.mappings := by
  have own := (owners.held entry (mem_middle listed)
    (owners.forked entry (mem_middle listed) positive)).1
  have different := owners.path_ne listed member mapped own.path
  have inside := mem_around listed member
  rcases owners.held other inside mapped with ⟨holds, present⟩
  by_cases none : after = []
  · rcases deletes.last none with ⟨objects, mappings⟩
    rw [objects, mappings]
    unfold SharedMemory.destroy SharedMemory.mappings
    rw [if_pos ⟨own.owned, own.descriptor⟩, if_pos own.mapped, List.diff_cons, List.diff_nil]
    refine ⟨⟨holds.mapped, holds.owned, holds.descriptor, holds.path, ?_⟩,
      (List.mem_erase_of_ne different).mpr present⟩
    rw [Function.update_of_ne different]
    exact holds.linked
  · rcases deletes.middle none with ⟨objects, mappings⟩
    rw [objects, mappings]
    exact ⟨holds, present⟩

theorem owners_delete {state : State} (owners : Owners state) {pid : Int} (positive : 0 < pid)
    (putObject : Bool) : Owners (state.delete pid putObject) := by
  cases found : state.worker.deletedEntry pid with
  | none =>
      rw [delete_none found]
      exact owners
  | some entry =>
      rcases split_of_find found with ⟨before, after, listed, own, _⟩
      have pid_eq : entry.childPid = pid := of_decide_eq_true own
      subst pid_eq
      have deletes := delete_found listed rfl (owners.earlier listed positive) putObject
      have shorter : (before ++ after).Sublist state.worker.sessions := by
        rw [listed]
        exact (List.sublist_cons_self entry after).append_left before
      refine ⟨?_, ?_, ?_, ?_⟩
      · rw [deletes.sessions]
        exact (shorter.map _).nodup owners.ids
      · rw [deletes.sessions]
        exact (((shorter.filter _).map _).map _).nodup owners.pids
      · intro other member mapped
        rw [deletes.sessions] at member
        exact owners.kept listed positive deletes other member mapped
      · intro other member
        rw [deletes.sessions] at member
        exact owners.forked other (shorter.subset member)

theorem Owners.append {state next : State} (owners : Owners state) {request : SessionRequest}
    {entry : SessionFork} (accepted : state.worker.refuses request = false)
    (sessions : next.worker.sessions = state.worker.sessions ++ [entry])
    (others : forall path, path ≠ SharedMemory.pathOf request.sessionId ->
      next.worker.objects path = state.worker.objects path)
    (named : entry.sessionId = request.sessionId)
    (mappings : state.mappings ⊆ next.mappings)
    (fresh : 0 < entry.childPid -> entry.childPid ∉ (children state.worker.sessions).map Child.pid)
    (held : entry.memory.mapped = true ->
      Holds next.worker.objects entry ∧ entry.memory.path ∈ next.mappings)
    (forked : 0 < entry.childPid -> entry.memory.mapped = true) : Owners next := by
  have unlisted : forall other, other ∈ state.worker.sessions ->
      other.sessionId ≠ request.sessionId := by
    intro other member same
    rw [Worker.refuses, Bool.or_eq_false_iff] at accepted
    exact Bool.eq_false_iff.mp accepted.2
      (List.any_eq_true.mpr ⟨other, member, decide_eq_true same⟩)
  refine ⟨?_, ?_, ?_, ?_⟩
  · rw [sessions, List.map_append, List.map_singleton, List.nodup_append]
    refine ⟨owners.ids, List.nodup_singleton _, ?_⟩
    intro id member last new same
    rcases List.mem_map.mp member with ⟨other, inside, rfl⟩
    rw [List.mem_singleton.mp new, named] at same
    exact unlisted other inside same
  · rw [sessions, children_append, List.map_append, List.nodup_append]
    refine ⟨owners.pids, ?_, ?_⟩
    · unfold children
      by_cases positive : 0 < entry.childPid <;> simp [positive]
    · intro pid member last new same
      rcases List.mem_map.mp new with ⟨child, isChild, rfl⟩
      rcases mem_children.mp isChild with ⟨only, alone, positive, own, _⟩
      rw [List.mem_singleton.mp alone] at positive own
      rw [same, ← own] at member
      exact fresh positive member
  · intro other member mapped
    rw [sessions] at member
    rcases List.mem_append.mp member with inside | last
    · rcases owners.held other inside mapped with ⟨holds, present⟩
      refine ⟨⟨holds.mapped, holds.owned, holds.descriptor, holds.path, ?_⟩, mappings present⟩
      have different : other.memory.path ≠ SharedMemory.pathOf request.sessionId := by
        intro same
        rw [holds.path] at same
        exact unlisted other inside (SharedMemory.pathOf_injective same)
      rw [others _ different]
      exact holds.linked
    · rw [List.mem_singleton.mp last] at mapped ⊢
      exact held mapped
  · intro other member positive
    rw [sessions] at member
    rcases List.mem_append.mp member with inside | last
    · exact owners.forked other inside positive
    · rw [List.mem_singleton.mp last] at positive ⊢
      exact forked positive

theorem owners_allocate {state : State} (owners : Owners state) {calls : Syscalls}
    (valid : validFork state.worker calls = true) (request : SessionRequest) :
    Owners (state.allocate request calls) := by
  unfold State.allocate
  have allocated := allocateSession_allocated state.worker state.store request calls
  generalize state.worker.allocateSession state.store request calls = result at allocated
  cases allocated with
  | refused _ failed =>
      dsimp only
      rw [if_neg failed, List.append_nil]
      exact owners
  | failed accepted _ others named unmapped noChild =>
      refine owners.append accepted rfl others named ?_ ?_ ?_ ?_
      · exact List.subset_append_left _ _
      · intro positive
        omega
      · intro mapped
        rw [unmapped] at mapped
        cases mapped
      · intro positive
        omega
  | started accepted others named holds child =>
      refine owners.append accepted rfl others named ?_ ?_ ?_ ?_
      · exact List.subset_append_left _ _
      · intro positive
        rw [child] at positive ⊢
        rcases of_decide_eq_true valid with failed | fresh
        · omega
        · exact fresh.2
      · intro _
        refine ⟨holds, ?_⟩
        dsimp only
        rw [holds.path, named, if_pos rfl]
        exact List.mem_append_right _ List.mem_cons_self
      · intro _
        exact holds.mapped

theorem owners_step {state next : State} {action : Action} (owners : Owners state)
    (stepped : step state action = some next) : Owners next := by
  cases action with
  | allocate request calls =>
      simp only [step] at stepped
      split at stepped
      · rename_i valid
        cases stepped
        exact owners_allocate owners valid.2 request
      · cases stepped
  | delete pid putObject =>
      simp only [step] at stepped
      split at stepped
      · rename_i positive
        cases stepped
        exact owners_delete owners positive putObject
      · cases stepped

theorem owners_of_run {maxSessions : Int} {swapper : S3Swapper} {store : ObjectStore}
    {trace : List (State × Action)} {final : State}
    (run : TransitionSystem.Run (system maxSessions swapper store)
      (system maxSessions swapper store).initial trace final) : Owners final := by
  apply run.invariant
  · exact ⟨List.nodup_nil, List.nodup_nil, fun _ member => False.elim (List.not_mem_nil member),
      fun _ member => False.elim (List.not_mem_nil member)⟩
  · intro source action target owners stepped
    exact owners_step owners stepped

/-! ## Releasing exactly one session -/

/-- A deletion releases the shared memory of its session and of no other: the
entry is gone, its mapping is undone and its name unlinked, and every other
session owns its name and mapping alone. -/
structure ReleasesOwn (state : State) (before : List SessionFork) (entry : SessionFork)
    (after : List SessionFork) (next : State) : Prop where
  removed : next.worker.sessions = before ++ after
  unmapped : state.mappings.Perm (entry.memory.path :: next.mappings)
  unlinked : next.worker.objects = Function.update state.worker.objects entry.memory.path none
  others : forall other, other ∈ next.worker.sessions -> other.memory.mapped = true ->
    Holds next.worker.objects other ∧ other.memory.path ∈ next.mappings
  alone : (next.worker.sessions.map SessionFork.sessionId).Nodup

/-- A session is released exactly if its entry is the last one. -/
theorem releasesOwn_iff {state : State} (owners : Owners state)
    {before after : List SessionFork} {entry : SessionFork}
    (listed : state.worker.sessions = before ++ entry :: after) (positive : 0 < entry.childPid)
    (putObject : Bool) :
    ReleasesOwn state before entry after (state.delete entry.childPid putObject) ↔ after = [] := by
  have deletes := delete_found listed rfl (owners.earlier listed positive) putObject
  have next := owners_delete owners positive putObject
  rcases owners.held entry (mem_middle listed) (owners.forked entry (mem_middle listed) positive)
    with ⟨holds, present⟩
  constructor
  · intro releases
    by_contra more
    have linked := holds.linked
    rw [← (deletes.middle more).1, releases.unlinked, Function.update_self] at linked
    cases linked
  · intro last
    rcases deletes.last last with ⟨objects, mappings⟩
    refine ⟨deletes.sessions, ?_, ?_, next.held, next.ids⟩
    · rw [mappings, SharedMemory.mappings, if_pos holds.mapped, List.diff_cons, List.diff_nil]
      exact List.perm_cons_erase present
    · rw [objects, SharedMemory.destroy, if_pos ⟨holds.owned, holds.descriptor⟩]

/-! ## The linked names -/

/-- The linked names are those of the listed sessions. -/
def NamesListed (state : State) : Prop :=
  forall path, (state.worker.objects path).isSome = true ↔
    Exists fun entry => entry ∈ state.worker.sessions ∧
      path = SharedMemory.pathOf entry.sessionId

/-- A request that is not refused creates its shared memory, and the entry that
is deleted is the last one.  A creation that fails in `ftruncate` or `mmap`
keeps both the name and the entry, so it would not break the names, but the
entry it leaves has no mapping; it is left out here. -/
def keepsNames (state : State) : Action -> Bool
  | .allocate request calls =>
      state.worker.refuses request || state.worker.creatable state.store request calls
  | .delete pid _ =>
      (state.worker.deletedEntry pid).all
        (fun entry => decide (state.worker.sessions.getLast? = some entry))

/-- Every listed session has its memory, and the linked names are theirs: nothing
that is no longer listed has stayed behind. -/
structure Exact (state : State) : Prop where
  owners : Owners state
  mapped : forall entry, entry ∈ state.worker.sessions -> entry.memory.mapped = true
  names : NamesListed state

theorem exact_allocate {state : State} (exactly : Exact state) {request : SessionRequest}
    {calls : Syscalls} (valid : validFork state.worker calls = true)
    (keeps : keepsNames state (.allocate request calls) = true) :
    Exact (state.allocate request calls) := by
  have owned := owners_allocate exactly.owners valid request
  suffices rest : (forall entry, entry ∈ (state.allocate request calls).worker.sessions ->
      entry.memory.mapped = true) ∧ NamesListed (state.allocate request calls) from
    ⟨owned, rest.1, rest.2⟩
  unfold State.allocate NamesListed
  have allocated := allocateSession_allocated state.worker state.store request calls
  generalize state.worker.allocateSession state.store request calls = result at allocated
  cases allocated with
  | refused => exact ⟨exactly.mapped, exactly.names⟩
  | failed accepted unavailable =>
      rw [keepsNames, accepted, unavailable] at keeps
      cases keeps
  | started accepted others named holds =>
      refine ⟨?_, ?_⟩
      · intro other member
        rcases List.mem_append.mp member with inside | last
        · exact exactly.mapped other inside
        · rw [List.mem_singleton.mp last]
          exact holds.mapped
      · intro path
        dsimp only
        by_cases own : path = SharedMemory.pathOf request.sessionId
        · refine iff_of_true ?_ ⟨_, List.mem_append_right _ List.mem_cons_self, by rw [named, own]⟩
          rw [own, ← named, ← holds.path]
          exact holds.linked
        · rw [others path own, exactly.names path]
          constructor
          · rintro ⟨entry, inside, same⟩
            exact ⟨entry, List.mem_append_left _ inside, same⟩
          · rintro ⟨entry, member, same⟩
            rcases List.mem_append.mp member with inside | last
            · exact ⟨entry, inside, same⟩
            · rw [List.mem_singleton.mp last, named] at same
              exact False.elim (own same)

/-- An entry that is the last of the list has nothing after it. -/
theorem Owners.nothing_after {state : State} (owners : Owners state)
    {before after : List SessionFork} {entry : SessionFork}
    (listed : state.worker.sessions = before ++ entry :: after)
    (last : state.worker.sessions.getLast? = some entry) : after = [] := by
  by_contra more
  have ids := owners.ids
  rw [listed, List.map_append, List.map_cons] at ids
  have later := (List.nodup_append.mp ids).2.1
  rw [listed, List.getLast?_append_of_ne_nil _ (List.cons_ne_nil _ _),
    List.getLast?_cons_of_ne_nil more] at last
  exact (List.nodup_cons.mp later).1 (List.mem_map_of_mem (List.mem_of_getLast? last))

theorem exact_delete {state : State} (exactly : Exact state) {pid : Int} (positive : 0 < pid)
    {putObject : Bool} (keeps : keepsNames state (.delete pid putObject) = true) :
    Exact (state.delete pid putObject) := by
  cases found : state.worker.deletedEntry pid with
  | none =>
      rw [delete_none found]
      exact exactly
  | some entry =>
      rw [keepsNames, found] at keeps
      rcases split_of_find found with ⟨before, after, listed, own, _⟩
      have pid_eq : entry.childPid = pid := of_decide_eq_true own
      subst pid_eq
      have none := exactly.owners.nothing_after listed (of_decide_eq_true keeps)
      have releases := (releasesOwn_iff exactly.owners listed positive putObject).mpr none
      have holds := (exactly.owners.held entry (mem_middle listed)
        (exactly.mapped entry (mem_middle listed))).1
      refine ⟨owners_delete exactly.owners positive putObject, ?_, ?_⟩
      · intro other member
        rw [releases.removed] at member
        exact exactly.mapped other (mem_around listed member)
      · intro path
        rw [releases.unlinked, releases.removed]
        by_cases own : path = entry.memory.path
        · subst own
          rw [Function.update_self]
          refine iff_of_false Bool.false_ne_true ?_
          rintro ⟨other, member, same⟩
          have mapped := exactly.mapped other (mem_around listed member)
          have holdsOther := (exactly.owners.held other (mem_around listed member) mapped).1
          exact exactly.owners.path_ne listed member mapped holds.path
            (holdsOther.path.trans same.symm)
        · rw [Function.update_of_ne own, exactly.names path]
          constructor
          · rintro ⟨other, member, same⟩
            rw [listed] at member
            refine ⟨other, ?_, same⟩
            rcases List.mem_append.mp member with earlier | rest
            · exact List.mem_append_left _ earlier
            · rcases List.mem_cons.mp rest with rfl | later
              · exact False.elim (own (same.trans holds.path.symm))
              · exact List.mem_append_right _ later
          · rintro ⟨other, member, same⟩
            exact ⟨other, mem_around listed member, same⟩

theorem exact_step {state next : State} {action : Action} (exactly : Exact state)
    (keeps : keepsNames state action = true) (stepped : step state action = some next) :
    Exact next := by
  cases action with
  | allocate request calls =>
      simp only [step] at stepped
      split at stepped
      · rename_i valid
        cases stepped
        exact exact_allocate exactly valid.2 keeps
      · cases stepped
  | delete pid putObject =>
      simp only [step] at stepped
      split at stepped
      · rename_i positive
        cases stepped
        exact exact_delete exactly positive keeps
      · cases stepped

/-- In every state reached, the deletion of a session releases exactly its
shared memory if and only if its entry is the last one.  In every run whose
requests create their shared memory and whose deletions take the last entry,
the linked names are those of the listed sessions. -/
theorem memory_released {maxSessions : Int} {swapper : S3Swapper} {store : ObjectStore}
    {trace : List (State × Action)} {final : State}
    (run : TransitionSystem.Run (system maxSessions swapper store)
      (system maxSessions swapper store).initial trace final) :
    (forall before entry after putObject, final.worker.sessions = before ++ entry :: after ->
        0 < entry.childPid ->
        (ReleasesOwn final before entry after (final.delete entry.childPid putObject) ↔
          after = [])) ∧
      (TransitionSystem.Guarded (fun state action => keepsNames state action = true) trace ->
        NamesListed final) := by
  refine ⟨?_, ?_⟩
  · intro before entry after putObject listed positive
    exact releasesOwn_iff (owners_of_run run) listed positive putObject
  · intro keeps
    have exactly : Exact final := by
      apply run.guarded_invariant Exact _ _ keeps
      · refine ⟨owners_of_run .start, fun _ member => False.elim (List.not_mem_nil member), ?_⟩
        intro path
        refine iff_of_false Bool.false_ne_true ?_
        rintro ⟨entry, member, _⟩
        exact List.not_mem_nil member
      · intro source action target exactly allowed stepped
        exact exact_step exactly allowed stepped
    exact exactly.names

/-- Two sessions of one kilobyte are started as the children `100` and `101`. -/
def twoSessions : List Action :=
  [.allocate ⟨ascii "AAAAAAAAAAAAAAAA", 1, 1⟩ ⟨3, true, true, true, 100⟩,
    .allocate ⟨ascii "BBBBBBBBBBBBBBBB", 1, 1⟩ ⟨4, true, true, true, 101⟩]

abbrev plainWorker : TransitionSystem State Action := system 4 S3Swapper.new (fun _ => none)

theorem two_of_pids {sessions : List SessionFork} {first second : Int}
    (pids : sessions.map SessionFork.childPid = [first, second]) :
    Exists fun left => Exists fun right => sessions = [left, right] ∧ left.childPid = first ∧
      right.childPid = second := by
  rcases List.map_eq_cons_iff.mp pids with ⟨left, rest, rfl, leftPid, others⟩
  rcases List.map_eq_cons_iff.mp others with ⟨right, none, rfl, rightPid, nothing⟩
  rw [List.map_eq_nil_iff.mp nothing]
  exact ⟨left, right, rfl, leftPid, rightPid⟩

/-- The second of the two is the last entry. -/
theorem memory_released_last :
    Exists fun trace => Exists fun final =>
      TransitionSystem.Run plainWorker plainWorker.initial trace final ∧ NamesListed final ∧
        Exists fun first => Exists fun second => final.worker.sessions = [first, second] ∧
          ReleasesOwn final [first] second [] (final.delete 101 true) := by
  rcases TransitionSystem.exists_run plainWorker plainWorker.initial twoSessions
    (fun trace final => decide (final.worker.sessions.map SessionFork.childPid = [100, 101]) &&
      trace.all (fun entry => keepsNames entry.1 entry.2)) (by decide) with
    ⟨trace, final, run, tested⟩
  rw [Bool.and_eq_true, decide_eq_true_eq] at tested
  rcases two_of_pids tested.1 with ⟨first, second, listed, _, pid⟩
  have released := memory_released run
  refine ⟨trace, final, run, released.2 (TransitionSystem.guarded_of_all tested.2), first, second,
    listed, ?_⟩
  rw [← pid]
  exact (released.1 [first] second [] true listed (by rw [pid]; decide)).mpr rfl

/-- The first of the two is not: its deletion does not release it, and its name
stays linked. -/
theorem middle_session_leaked :
    Exists fun trace => Exists fun final =>
      TransitionSystem.Run plainWorker plainWorker.initial trace final ∧
        ¬ NamesListed (final.delete 100 true) ∧
        Exists fun first => Exists fun second => final.worker.sessions = [first, second] ∧
          ¬ ReleasesOwn final [] first [second] (final.delete 100 true) := by
  let path := SharedMemory.pathOf (ascii "AAAAAAAAAAAAAAAA")
  rcases TransitionSystem.exists_run plainWorker plainWorker.initial twoSessions
    (fun _ final => decide (final.worker.sessions.map SessionFork.childPid = [100, 101]) &&
      (((final.delete 100 true).worker.objects path).isSome &&
        (final.delete 100 true).worker.sessions.all
          (fun entry => decide (path ≠ SharedMemory.pathOf entry.sessionId)))) (by decide) with
    ⟨trace, final, run, tested⟩
  rw [Bool.and_eq_true, Bool.and_eq_true, decide_eq_true_eq] at tested
  rcases two_of_pids tested.1 with ⟨first, second, listed, pid, _⟩
  refine ⟨trace, final, run, ?_, first, second, listed, ?_⟩
  · intro names
    rcases (names path).mp tested.2.1 with ⟨entry, member, same⟩
    exact of_decide_eq_true (List.all_eq_true.mp tested.2.2 entry member) same
  · rw [← pid, releasesOwn_iff (owners_of_run run) listed (by rw [pid]; decide)]
    exact List.cons_ne_nil _ _

end Ownership
end Runtime
end Praas
