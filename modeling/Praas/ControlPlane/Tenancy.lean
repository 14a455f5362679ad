import Praas.ControlPlane.WholeOperations
import Praas.Library.TransitionSystem

namespace Praas
namespace Tenancy

open Library
open ControlPlane

/-!
# Sessions and the workers of their global process

Operations of the control plane, one after the other, over any number of
global processes.  `process_client` marks a session alive for the global
process of the call, and `handle_session_closure` moves it to the swapped-out
set of the worker's global process.  The two agree when the session was placed
on a worker of its own global process.  `get_free_process` ignores the global
process, so they agree in the runs in which the first worker with a free slot
happens to belong to the caller.

A worker closes only sessions that are placed on it.
-/

/-- The control plane with the identifiers handed out so far. -/
structure State where
  plane : Plane
  used : List Bytes

/-- The operations.  `connect` is `process_process`, and `reorder` changes the
iteration order of the map of processes. -/
inductive Operation
  | allocate (processName uuid : Bytes)
  | client (call : ClientCall) (sessionUuid processUuid : Bytes)
  | connect (processId : Bytes)
  | closure (processId : Bytes) (memorySize : Int) (sessionId : Bytes)
  | reorder (processes : List Process)

/-- One operation, run to its end.  Generated identifiers are new, and that of
a session is not empty. -/
def step (state : State) : Operation -> Option State
  | .allocate processName uuid =>
      if uuid ∈ state.used then none
      else some ⟨state.plane.processAllocation processName uuid, uuid :: state.used⟩
  | .client call sessionUuid processUuid =>
      if sessionUuid = [] ∨ sessionUuid ∈ state.used ∨ processUuid ∈ sessionUuid :: state.used then
        none
      else some ⟨(state.plane.processClient call sessionUuid processUuid).1,
        processUuid :: sessionUuid :: state.used⟩
  | .connect processId => some { state with plane := state.plane.processProcess processId }
  | .closure processId memorySize sessionId =>
      match state.plane.resources.getProcess processId with
      | none => none
      | some process =>
          if sessionId ∈ process.sessions then
            some { state with
              plane := state.plane.handleSessionClosure process memorySize sessionId }
          else none
  | .reorder processes =>
      if processes.isPerm state.plane.resources.processes then
        some { state with plane := { state.plane with
          resources := { state.plane.resources with processes := processes } } }
      else none

/-- The control plane, one operation at a time. -/
def operations : TransitionSystem State Operation where
  initial := ⟨Plane.empty, []⟩
  step := step

abbrev Run (trace : List (State × Operation)) (final : State) : Prop :=
  TransitionSystem.Run operations operations.initial trace final

/-! ## Where a session is, by the operations on it -/

/-- The last thing that happened to a session: a call for a global process
placed it, or it was closed after such a placement. -/
inductive Whereabouts
  | placed (tenant : Bytes)
  | closed (tenant : Bytes)
  deriving DecidableEq

/-- The effect of an operation on the whereabouts of a session. -/
def moved (sessionId : Bytes) (before : Option Whereabouts) (entry : State × Operation) :
    Option Whereabouts :=
  match entry.2 with
  | .client call sessionUuid processUuid =>
      if (entry.1.plane.processClient call sessionUuid processUuid).2 = .session sessionId then
        some (.placed call.processId)
      else before
  | .closure _ _ closedId =>
      if closedId = sessionId then
        match before with
        | some (.placed tenant) => some (.closed tenant)
        | other => other
      else before
  | _ => before

def whereabouts (sessionId : Bytes) (trace : List (State × Operation)) : Option Whereabouts :=
  trace.foldl (moved sessionId) none

theorem whereabouts_append (sessionId : Bytes) (trace : List (State × Operation))
    (entry : State × Operation) :
    whereabouts sessionId (trace ++ [entry]) =
      moved sessionId (whereabouts sessionId trace) entry := by
  unfold whereabouts
  rw [List.foldl_append, List.foldl_cons, List.foldl_nil]

/-- Whenever a call places a session, the first worker with a free slot, if
there is one, belongs to the global process of the call. -/
def placesOwn (state : State) (operation : Operation) : Bool :=
  match operation with
  | .client call _ _ => !state.plane.admits call ||
      (state.plane.resources.processes.find? Process.hasFreeSlot).all
        (fun first => decide (first.globalProcessId = call.processId))
  | _ => true

/-! ## The invariant -/

/-- The records that a later call for the session needs. -/
structure Recorded (plane : Plane) (tenant sessionId : Bytes) : Prop where
  process : (plane.redis.get (.process tenant)).isSome = true
  session : (plane.redis.get (.session sessionId)).isSome = true
  named : sessionId ≠ []

/-- The tables are consistent: process identifiers are distinct, and a session
is listed or swapped out at most once, and only if it was created. -/
structure Consistent (state : State) : Prop where
  distinct : state.plane.resources.processIds.Nodup
  known : forall id, id ∈ state.plane.resources.processIds -> id ∈ state.used
  single : forall sessionId, state.plane.resources.listed sessionId +
    state.plane.redis.swappedCount sessionId ≤ 1
  issued : forall sessionId, 0 < state.plane.resources.listed sessionId +
    state.plane.redis.swappedCount sessionId -> sessionId ∈ state.used

theorem consistent_initial : Consistent operations.initial where
  distinct := List.nodup_nil
  known := fun _ member => False.elim (List.not_mem_nil member)
  single := fun _ => Nat.zero_le _
  issued := fun _ positive => False.elim (Nat.lt_irrefl 0 positive)

/-- What the whereabouts of a session say about the tables and Redis. -/
def Located (plane : Plane) (sessionId : Bytes) : Option Whereabouts -> Prop
  | none => True
  | some (.placed tenant) =>
      0 < plane.resources.listedFor tenant sessionId ∧ Recorded plane tenant sessionId
  | some (.closed tenant) =>
      (Key.sessionsSwapped tenant, sessionId) ∈ plane.redis.sets ∧
        (Key.sessionsAlive tenant, sessionId) ∉ plane.redis.sets ∧ Recorded plane tenant sessionId

/-- What a change of the control plane must keep for the whereabouts of a
session to stay right. -/
theorem located_mono {plane after : Plane} {sessionId : Bytes} {place : Option Whereabouts}
    (listed : forall tenant, plane.resources.listedFor tenant sessionId ≤
      after.resources.listedFor tenant sessionId)
    (swapped : forall tenant, (Key.sessionsSwapped tenant, sessionId) ∈ plane.redis.sets ->
      (Key.sessionsSwapped tenant, sessionId) ∈ after.redis.sets)
    (alive : forall tenant, (Key.sessionsAlive tenant, sessionId) ∈ after.redis.sets ->
      (Key.sessionsAlive tenant, sessionId) ∈ plane.redis.sets)
    (strings : forall key, (plane.redis.get key).isSome = true ->
      (after.redis.get key).isSome = true)
    (located : Located plane sessionId place) : Located after sessionId place := by
  have recorded : forall tenant, Recorded plane tenant sessionId ->
      Recorded after tenant sessionId := fun tenant old =>
    ⟨strings _ old.process, strings _ old.session, old.named⟩
  cases place with
  | none => trivial
  | some whereabouts =>
      cases whereabouts with
      | placed tenant =>
          exact ⟨Nat.lt_of_lt_of_le located.1 (listed tenant), recorded tenant located.2⟩
      | closed tenant =>
          exact ⟨swapped tenant located.1, fun marked => located.2.1 (alive tenant marked),
            recorded tenant located.2.2⟩

theorem isSome_set (redis : Redis) (key other : Key) (value : Bytes)
    (present : (redis.get other).isSome = true) : ((redis.set key value).get other).isSome = true := by
  change (Function.update redis.strings key (some value) other).isSome = true
  by_cases same : other = key
  · rw [same, Function.update_self]
    rfl
  · rw [Function.update_of_ne same]
    exact present

/-! ## `process_client` -/

section Client

variable {state : State} {base : Plane} {placement : Placement} {call : ClientCall}
  {sessionUuid processUuid : Bytes}

/-- A placement keeps the tables consistent when its session was neither
listed nor, any longer, swapped out. -/
theorem consistent_allocateSession (consistent : Consistent state)
    (sameTables : base.resources = state.plane.resources) {used : List Bytes}
    (unused : processUuid ∉ state.used) (fresh : processUuid ∈ used)
    (more : forall id, id ∈ state.used -> id ∈ used) (created : placement.sessionId ∈ used)
    (fewer : forall sessionId, base.redis.swappedCount sessionId ≤
      state.plane.redis.swappedCount sessionId)
    (free : state.plane.resources.listed placement.sessionId +
      base.redis.swappedCount placement.sessionId = 0) :
    Consistent ⟨(base.allocateSession placement processUuid).1, used⟩ := by
  have distinct : base.resources.processIds.Nodup := sameTables ▸ consistent.distinct
  have absent : processUuid ∉ base.resources.processIds := fun member =>
    unused (consistent.known processUuid (sameTables ▸ member))
  have listed := Plane.listed_allocateSession distinct placement absent
  have identifiers := Plane.processIds_allocateSession distinct placement absent
  have count : forall sessionId,
      (base.allocateSession placement processUuid).1.redis.swappedCount sessionId =
        base.redis.swappedCount sessionId := by
    intro sessionId
    rw [Plane.redis_allocateSession, Redis.swappedCount_sadd_alive]
  exact {
    distinct := by
      rcases identifiers with same | extended
      · rw [same]
        exact distinct
      · rw [extended]
        exact List.nodup_append.mpr ⟨distinct, List.pairwise_singleton _ _, fun id member other last =>
          fun equal => absent (List.mem_singleton.mp last ▸ equal ▸ member)⟩
    known := by
      intro id member
      rcases identifiers with same | extended
      · rw [same, sameTables] at member
        exact more id (consistent.known id member)
      · rw [extended, sameTables] at member
        rcases List.mem_append.mp member with old | last
        · exact more id (consistent.known id old)
        · rw [List.mem_singleton.mp last]
          exact fresh
    single := by
      intro sessionId
      have old := consistent.single sessionId
      have below := fewer sessionId
      rw [listed, count, sameTables]
      by_cases same : placement.sessionId = sessionId
      · rw [if_pos same]
        rw [same] at free
        omega
      · rw [if_neg same]
        omega
    issued := by
      intro sessionId positive
      have below := fewer sessionId
      rw [listed, count, sameTables] at positive
      by_cases same : placement.sessionId = sessionId
      · rw [← same]
        exact created
      · rw [if_neg same] at positive
        exact more sessionId (consistent.issued sessionId (by omega)) }

/-- A change of Redis that puts no session into a swapped-out set keeps the
tables consistent. -/
theorem consistent_redis (consistent : Consistent state) {redis : Redis} {used : List Bytes}
    (more : forall id, id ∈ state.used -> id ∈ used)
    (fewer : forall sessionId, redis.swappedCount sessionId ≤
      state.plane.redis.swappedCount sessionId) :
    Consistent ⟨{ state.plane with redis := redis }, used⟩ where
  distinct := consistent.distinct
  known := fun id member => more id (consistent.known id member)
  single := fun sessionId =>
    Nat.le_trans (Nat.add_le_add_left (fewer sessionId) _) (consistent.single sessionId)
  issued := fun sessionId positive => more sessionId (consistent.issued sessionId
    (Nat.lt_of_lt_of_le positive (Nat.add_le_add_left (fewer sessionId) _)))

theorem consistent_client (consistent : Consistent state) (unusedSession : sessionUuid ∉ state.used)
    (unusedProcess : processUuid ∉ sessionUuid :: state.used) :
    Consistent ⟨(state.plane.processClient call sessionUuid processUuid).1,
      processUuid :: sessionUuid :: state.used⟩ := by
  have more : forall id, id ∈ state.used -> id ∈ processUuid :: sessionUuid :: state.used :=
    fun id member => List.mem_cons_of_mem _ (List.mem_cons_of_mem _ member)
  have unused : processUuid ∉ state.used := fun member =>
    unusedProcess (List.mem_cons_of_mem _ member)
  have outcome := state.plane.clientOutcome call sessionUuid processUuid
  generalize state.plane.processClient call sessionUuid processUuid = result at outcome ⊢
  cases outcome with
  | refused => exact consistent_redis consistent more (fun _ => Nat.le_refl _)
  | lost =>
      exact consistent_redis consistent more
        (fun sessionId => state.plane.redis.swappedCount_srem_le _ _ sessionId)
  | created processName =>
      refine consistent_allocateSession consistent ?_ unused List.mem_cons_self more ?_ ?_ ?_
      · rfl
      · exact List.mem_cons_of_mem _ List.mem_cons_self
      · intro sessionId
        exact Nat.le_refl _
      · by_contra positive
        exact unusedSession (consistent.issued sessionUuid (Nat.pos_of_ne_zero positive))
  | restored processName details known admitted named removed found =>
      have swapped := (state.plane.redis.srem_reply _ _).mp removed
      have before := Redis.swappedCount_pos swapped
      have taken := state.plane.redis.swappedCount_srem_found _ _ removed
      have single := consistent.single call.sessionId
      refine consistent_allocateSession consistent ?_ unused List.mem_cons_self more ?_ ?_ ?_
      · rfl
      · exact more _ (consistent.issued call.sessionId (by omega))
      · exact state.plane.redis.swappedCount_srem_le _ _
      · change state.plane.resources.listed call.sessionId +
          (state.plane.redis.srem (.sessionsSwapped call.processId)
            call.sessionId).2.swappedCount call.sessionId = 0
        omega

/-- The whereabouts after a placement: the session itself is now placed for
the global process of the call, and other sessions stay where they are. -/
theorem located_allocateSession (consistent : Consistent state)
    (sameTables : base.resources = state.plane.resources) (unused : processUuid ∉ state.used)
    (own : (state.plane.resources.processes.find? Process.hasFreeSlot).all
      (fun first => decide (first.globalProcessId = placement.processId)) = true)
    (recorded : Recorded base placement.processId placement.sessionId)
    (swapped : forall tenant sessionId, sessionId ≠ placement.sessionId ->
      (Key.sessionsSwapped tenant, sessionId) ∈ state.plane.redis.sets ->
      (Key.sessionsSwapped tenant, sessionId) ∈ base.redis.sets)
    (alive : forall entry, entry ∈ base.redis.sets -> entry ∈ state.plane.redis.sets)
    (strings : forall key, (state.plane.redis.get key).isSome = true ->
      (base.redis.get key).isSome = true)
    {sessionId : Bytes} {place : Option Whereabouts}
    (located : Located state.plane sessionId place) :
    Located (base.allocateSession placement processUuid).1 sessionId
      (if (base.allocateSession placement processUuid).2 = .session sessionId then
        some (.placed placement.processId) else place) := by
  have distinct : base.resources.processIds.Nodup := sameTables ▸ consistent.distinct
  have absent : processUuid ∉ base.resources.processIds := fun member =>
    unused (consistent.known processUuid (sameTables ▸ member))
  have listed := Plane.listedFor_allocateSession distinct absent (sameTables ▸ own)
  have strings' : forall key, (base.redis.get key).isSome = true ->
      ((base.allocateSession placement processUuid).1.redis.get key).isSome = true := by
    intro key present
    rw [Plane.redis_allocateSession]
    unfold Redis.get
    rw [Redis.sadd_strings]
    exact present
  change Located _ sessionId (if Reply.session placement.sessionId = .session sessionId then _ else _)
  by_cases same : placement.sessionId = sessionId
  · subst same
    rw [if_pos rfl]
    refine ⟨?_, strings' _ recorded.process, strings' _ recorded.session, recorded.named⟩
    rw [listed, if_pos ⟨rfl, rfl⟩]
    exact Nat.succ_pos _
  · rw [if_neg (fun equal => same (Reply.session.inj equal))]
    refine located_mono ?_ ?_ ?_ (fun key present => strings' key (strings key present)) located
    · intro tenant
      rw [listed, sameTables]
      exact Nat.le_add_right _ _
    · intro tenant member
      rw [Plane.redis_allocateSession, Redis.mem_sadd]
      exact Or.inr (swapped tenant sessionId (Ne.symm same) member)
    · intro tenant member
      rw [Plane.redis_allocateSession, Redis.mem_sadd] at member
      rcases member with added | old
      · exact False.elim (same (Prod.mk.inj added).2.symm)
      · exact alive _ old

/-- A call that finds no record of its session takes a name out of a
swapped-out set that no placement has put there. -/
theorem located_lost (missing : state.plane.redis.get (.session call.sessionId) = none)
    {sessionId : Bytes} {place : Option Whereabouts}
    (located : Located state.plane sessionId place) :
    Located { state.plane with redis :=
      (state.plane.redis.srem (.sessionsSwapped call.processId) call.sessionId).2 } sessionId
      place := by
  by_cases same : sessionId = call.sessionId
  · subst same
    have unrecorded : forall tenant, ¬ Recorded state.plane tenant call.sessionId := by
      intro tenant recorded
      have present := recorded.session
      rw [missing] at present
      exact Bool.false_ne_true present
    cases place with
    | none => trivial
    | some whereabouts =>
        cases whereabouts with
        | placed tenant => exact False.elim (unrecorded tenant located.2)
        | closed tenant => exact False.elim (unrecorded tenant located.2.2)
  · refine located_mono ?_ ?_ ?_ ?_ located
    · intro tenant
      exact Nat.le_refl _
    · intro tenant member
      exact (Redis.mem_srem _ _ _ _).mpr ⟨member, fun equal => same (Prod.mk.inj equal).2⟩
    · intro tenant member
      exact ((Redis.mem_srem _ _ _ _).mp member).1
    · intro key present
      exact present

theorem located_client (consistent : Consistent state) (nonempty : sessionUuid ≠ [])
    (unusedProcess : processUuid ∉ sessionUuid :: state.used)
    (allowed : placesOwn state (.client call sessionUuid processUuid) = true)
    {sessionId : Bytes} {place : Option Whereabouts}
    (located : Located state.plane sessionId place) :
    Located (state.plane.processClient call sessionUuid processUuid).1 sessionId
      (moved sessionId place (state, .client call sessionUuid processUuid)) := by
  have unused : processUuid ∉ state.used := fun member =>
    unusedProcess (List.mem_cons_of_mem _ member)
  have own : state.plane.admits call = true ->
      (state.plane.resources.processes.find? Process.hasFreeSlot).all
        (fun first => decide (first.globalProcessId = call.processId)) = true := by
    intro admitted
    simpa only [placesOwn, admitted, Bool.not_true, Bool.false_or] using allowed
  unfold moved
  dsimp only
  have outcome := state.plane.clientOutcome call sessionUuid processUuid
  generalize state.plane.processClient call sessionUuid processUuid = result at outcome ⊢
  cases outcome with
  | refused reply other =>
      rw [if_neg (other sessionId)]
      exact located
  | lost missing =>
      rw [if_neg (by intro impossible; cases impossible)]
      exact located_lost missing located
  | created processName known admitted =>
      refine located_allocateSession consistent ?_ unused (own admitted) ?_ ?_ ?_ ?_ located
      · rfl
      · refine ⟨isSome_set _ _ _ _ ?_, ?_, nonempty⟩
        · change (state.plane.redis.get (.process call.processId)).isSome = true
          rw [known]
          rfl
        · change (Function.update state.plane.redis.strings (.session sessionUuid)
            (some call.details) (.session sessionUuid)).isSome = true
          rw [Function.update_self]
          rfl
      · intro tenant other _ member
        exact member
      · intro entry member
        exact member
      · intro key
        exact isSome_set _ _ key _
  | restored processName details known admitted named removed found =>
      refine located_allocateSession consistent ?_ unused (own admitted) ?_ ?_ ?_ ?_ located
      · rfl
      · refine ⟨?_, ?_, named⟩
        · change (state.plane.redis.get (.process call.processId)).isSome = true
          rw [known]
          rfl
        · change (state.plane.redis.get (.session call.sessionId)).isSome = true
          rw [found]
          rfl
      · intro tenant other different member
        exact (Redis.mem_srem _ _ _ _).mpr ⟨member, fun same => different (Prod.mk.inj same).2⟩
      · intro entry member
        exact ((Redis.mem_srem _ _ _ _).mp member).1
      · intro key present
        exact present

end Client

/-! ## `handle_session_closure` -/

section Closure

variable {state : State} {processId sessionId : Bytes} {process : Process} {memorySize : Int}

/-- The swapped-out sets gain at most the session that is closed. -/
theorem swappedCount_closure_le (plane : Plane) (process : Process) (memorySize : Int)
    (sessionId other : Bytes) :
    (plane.handleSessionClosure process memorySize sessionId).redis.swappedCount other ≤
      plane.redis.swappedCount other + (if sessionId = other then 1 else 0) := by
  simp only [Plane.handleSessionClosure, Redis.swappedCount_srem_alive]
  have more := (plane.redis.srem (.sessionsAlive process.processId)
    sessionId).2.swappedCount_sadd_swapped_le process.globalProcessId sessionId other
  rw [Redis.swappedCount_srem_alive] at more
  exact more

/-- A closure moves its session from the listings to a swapped-out set. -/
theorem closure_balance (consistent : Consistent state)
    (found : state.plane.resources.getProcess processId = some process)
    (listed : sessionId ∈ process.sessions) (memorySize : Int) (other : Bytes) :
    (state.plane.handleSessionClosure process memorySize sessionId).resources.listed other +
        (state.plane.handleSessionClosure process memorySize sessionId).redis.swappedCount other ≤
      state.plane.resources.listed other + state.plane.redis.swappedCount other := by
  have more := swappedCount_closure_le state.plane process memorySize sessionId other
  change (state.plane.resources.removeSession process.processId sessionId).listed other + _ ≤ _
  by_cases same : sessionId = other
  · subst same
    have present := Resources.listedAt_pos_of_mem (Resources.mem_of_getProcess found) listed
    have removed := Resources.listed_removeSession consistent.distinct present
    rw [if_pos rfl] at more
    omega
  · have kept := state.plane.resources.listed_removeSession_of_ne process.processId same
    rw [if_neg same] at more
    omega

theorem consistent_closure (consistent : Consistent state)
    (found : state.plane.resources.getProcess processId = some process)
    (listed : sessionId ∈ process.sessions) :
    Consistent { state with plane := state.plane.handleSessionClosure process memorySize sessionId }
    where
  distinct := by
    change (state.plane.resources.removeSession process.processId sessionId).processIds.Nodup
    rw [Resources.processIds_removeSession]
    exact consistent.distinct
  known := by
    intro id member
    change id ∈ (state.plane.resources.removeSession process.processId sessionId).processIds at member
    rw [Resources.processIds_removeSession] at member
    exact consistent.known id member
  single := fun other =>
    Nat.le_trans (closure_balance consistent found listed memorySize other) (consistent.single other)
  issued := fun other positive => consistent.issued other
    (Nat.lt_of_lt_of_le positive (closure_balance consistent found listed memorySize other))

/-- The worker that closes a session placed for a global process belongs to it. -/
theorem owner_of_placed (consistent : Consistent state)
    (found : state.plane.resources.getProcess processId = some process)
    (listed : sessionId ∈ process.sessions) {tenant : Bytes}
    (placed : 0 < state.plane.resources.listedFor tenant sessionId) :
    process.globalProcessId = tenant := by
  by_contra other
  have both := Resources.listedFor_add_count_le (Resources.mem_of_getProcess found) other sessionId
  have one := List.count_pos_iff.mpr listed
  have single := consistent.single sessionId
  omega

/-- A session that a worker lists is in no swapped-out set. -/
theorem not_swapped_of_listed (consistent : Consistent state)
    (found : state.plane.resources.getProcess processId = some process)
    (listed : sessionId ∈ process.sessions) (tenant : Bytes) :
    (Key.sessionsSwapped tenant, sessionId) ∉ state.plane.redis.sets := by
  intro member
  have swapped := Redis.swappedCount_pos member
  have present := Resources.listed_pos_of_mem (Resources.mem_of_getProcess found) listed
  have single := consistent.single sessionId
  omega

/-- The closure of another session leaves the whereabouts of this one. -/
theorem located_closure_other {plane : Plane} {other : Bytes} (different : sessionId ≠ other)
    {place : Option Whereabouts} (located : Located plane other place) :
    Located (plane.handleSessionClosure process memorySize sessionId) other place := by
  refine located_mono ?_ ?_ ?_ ?_ located
  · intro tenant
    exact Nat.le_of_eq
      (plane.resources.listedFor_removeSession_of_ne process.processId tenant different).symm
  · intro tenant member
    rw [Plane.mem_handleSessionClosure]
    refine ⟨Or.inr ⟨member, ?_⟩, ?_⟩ <;>
      · intro same
        cases (Prod.mk.inj same).1
  · intro tenant member
    rw [Plane.mem_handleSessionClosure] at member
    rcases member.1 with added | old
    · cases (Prod.mk.inj added).1
    · exact old.1
  · intro key present
    simp only [Plane.handleSessionClosure, Redis.get, Redis.srem_strings, Redis.sadd_strings]
    exact present

/-- The closed session is in the swapped-out set of its global process and no
longer marked alive there. -/
theorem located_closure_self (consistent : Consistent state)
    (found : state.plane.resources.getProcess processId = some process)
    (listed : sessionId ∈ process.sessions) {tenant : Bytes}
    (located : Located state.plane sessionId (some (.placed tenant))) :
    Located (state.plane.handleSessionClosure process memorySize sessionId) sessionId
      (some (.closed tenant)) := by
  have owner := owner_of_placed consistent found listed located.1
  refine ⟨?_, ?_, ?_⟩
  · rw [Plane.mem_handleSessionClosure, owner]
    refine ⟨Or.inl rfl, ?_⟩
    intro same
    cases (Prod.mk.inj same).1
  · rw [Plane.mem_handleSessionClosure, owner]
    intro member
    exact member.2 rfl
  · refine ⟨?_, ?_, located.2.named⟩
    · simp only [Plane.handleSessionClosure, Redis.get, Redis.srem_strings, Redis.sadd_strings]
      exact located.2.process
    · simp only [Plane.handleSessionClosure, Redis.get, Redis.srem_strings, Redis.sadd_strings]
      exact located.2.session

theorem located_closure (consistent : Consistent state)
    (found : state.plane.resources.getProcess processId = some process)
    (listed : sessionId ∈ process.sessions) {other : Bytes} {place : Option Whereabouts}
    (located : Located state.plane other place) :
    Located (state.plane.handleSessionClosure process memorySize sessionId) other
      (moved other place (state, .closure processId memorySize sessionId)) := by
  unfold moved
  dsimp only
  by_cases same : sessionId = other
  · subst same
    rw [if_pos rfl]
    cases place with
    | none => trivial
    | some whereabouts =>
        cases whereabouts with
        | placed tenant => exact located_closure_self consistent found listed located
        | closed tenant =>
            exact False.elim (not_swapped_of_listed consistent found listed tenant located.1)
  · rw [if_neg same]
    exact located_closure_other same located

end Closure

/-! ## Whole runs -/

/-- The tables are consistent, and every session is where the trace says. -/
structure Settled (trace : List (State × Operation)) (state : State) : Prop where
  consistent : Consistent state
  located : forall sessionId, Located state.plane sessionId (whereabouts sessionId trace)

theorem settled_step {trace : List (State × Operation)} {state next : State} {operation : Operation}
    (settled : Settled trace state) (allowed : placesOwn state operation = true)
    (stepped : step state operation = some next) :
    Settled (trace ++ [(state, operation)]) next := by
  have consistent := settled.consistent
  cases operation with
  | allocate processName uuid =>
      simp only [step] at stepped
      split at stepped
      · cases stepped
      · cases stepped
        refine ⟨consistent_redis consistent (fun id member => List.mem_cons_of_mem _ member)
          (fun _ => Nat.le_refl _), ?_⟩
        intro sessionId
        rw [whereabouts_append]
        refine located_mono ?_ ?_ ?_ ?_ (settled.located sessionId)
        · intro tenant
          exact Nat.le_refl _
        · intro tenant member
          exact member
        · intro tenant member
          exact member
        · intro key
          exact isSome_set _ _ key _
  | client call sessionUuid processUuid =>
      simp only [step] at stepped
      split at stepped
      · cases stepped
      · rename_i fresh
        cases stepped
        rcases not_or.mp fresh with ⟨nonempty, fresh⟩
        rcases not_or.mp fresh with ⟨unusedSession, unusedProcess⟩
        refine ⟨consistent_client consistent unusedSession unusedProcess, ?_⟩
        intro sessionId
        rw [whereabouts_append]
        exact located_client consistent nonempty unusedProcess allowed (settled.located sessionId)
  | connect processId =>
      cases stepped
      rcases state.plane.processProcess_kept processId with ⟨redis, identifiers, listed, owned⟩
      refine ⟨⟨?_, ?_, ?_, ?_⟩, ?_⟩
      · rw [identifiers]
        exact consistent.distinct
      · rw [identifiers]
        exact consistent.known
      · intro sessionId
        rw [redis, listed]
        exact consistent.single sessionId
      · intro sessionId
        rw [redis, listed]
        exact consistent.issued sessionId
      · intro sessionId
        rw [whereabouts_append]
        refine located_mono ?_ ?_ ?_ ?_ (settled.located sessionId)
        · intro tenant
          exact Nat.le_of_eq (owned tenant sessionId).symm
        · intro tenant member
          rw [redis]
          exact member
        · intro tenant member
          rw [redis] at member
          exact member
        · intro key present
          rw [redis]
          exact present
  | closure processId memorySize closedId =>
      simp only [step] at stepped
      split at stepped
      · cases stepped
      · rename_i process found
        split at stepped
        · rename_i listed
          cases stepped
          refine ⟨consistent_closure consistent found listed, ?_⟩
          intro sessionId
          rw [whereabouts_append]
          exact located_closure consistent found listed (settled.located sessionId)
        · cases stepped
  | reorder processes =>
      simp only [step] at stepped
      split at stepped
      · rename_i test
        cases stepped
        have permuted := List.isPerm_iff.mp test
        have listed := state.plane.resources.listed_reorder permuted
        refine ⟨⟨?_, ?_, ?_, ?_⟩, ?_⟩
        · exact (permuted.map Process.processId).nodup_iff.mpr consistent.distinct
        · intro id member
          exact consistent.known id ((permuted.map Process.processId).mem_iff.mp member)
        · intro sessionId
          dsimp only
          rw [listed]
          exact consistent.single sessionId
        · intro sessionId positive
          dsimp only at positive
          rw [listed] at positive
          exact consistent.issued sessionId positive
        · intro sessionId
          rw [whereabouts_append]
          refine located_mono ?_ ?_ ?_ ?_ (settled.located sessionId)
          · intro tenant
            exact Nat.le_of_eq
              (state.plane.resources.listedFor_reorder permuted tenant sessionId).symm
          · intro tenant member
            exact member
          · intro tenant member
            exact member
          · intro key present
            exact present
      · cases stepped

theorem settled_of_run {trace : List (State × Operation)} {final : State} (run : Run trace final)
    (allowed : TransitionSystem.Guarded (fun state operation => placesOwn state operation = true)
      trace) : Settled trace final := by
  refine run.guarded_traced Settled ⟨consistent_initial, fun _ => trivial⟩ ?_ allowed
  intro _ source operation target _ _ settled own stepped
  exact settled_step settled own stepped

/-- A call for a session that is swapped out, not marked alive and recorded
places the session. -/
theorem processClient_restores {plane : Plane} {call : ClientCall} (sessionUuid processUuid : Bytes)
    (recorded : Recorded plane call.processId call.sessionId)
    (swapped : (Key.sessionsSwapped call.processId, call.sessionId) ∈ plane.redis.sets)
    (notAlive : (Key.sessionsAlive call.processId, call.sessionId) ∉ plane.redis.sets) :
    (plane.processClient call sessionUuid processUuid).2 = .session call.sessionId := by
  rcases Option.isSome_iff_exists.mp recorded.process with ⟨processName, known⟩
  rcases Option.isSome_iff_exists.mp recorded.session with ⟨details, found⟩
  have removed := (plane.redis.srem_reply _ _).mpr swapped
  have kept : (plane.redis.srem (.sessionsSwapped call.processId) call.sessionId).2.get
      (.session call.sessionId) = some details := found
  simp only [Plane.processClient, known, recorded.named, ne_eq, not_false_eq_true, if_true,
    Redis.sismember, notAlive, decide_false, Bool.false_eq_true, if_false, removed, kept]
  rfl

/-- Along every run in which each call that places a session finds the first
free worker, if there is one, to be a worker of its own global process: a
session placed for a global process is listed by a worker of that global
process; once closed, it is swapped out for that global process, not marked
alive there, and the next call for it places it again. -/
theorem tenant_placement {trace : List (State × Operation)} {final : State} (run : Run trace final)
    (allowed : TransitionSystem.Guarded (fun state operation => placesOwn state operation = true)
      trace)
    (tenant sessionId : Bytes) :
    (whereabouts sessionId trace = some (.placed tenant) ->
        Exists fun process => process ∈ final.plane.resources.processes ∧
          process.globalProcessId = tenant ∧ sessionId ∈ process.sessions) ∧
      (whereabouts sessionId trace = some (.closed tenant) ->
        (Key.sessionsAlive tenant, sessionId) ∉ final.plane.redis.sets ∧
        (Key.sessionsSwapped tenant, sessionId) ∈ final.plane.redis.sets ∧
        forall (call : ClientCall) (sessionUuid processUuid : Bytes), call.processId = tenant ->
          call.sessionId = sessionId ->
          (final.plane.processClient call sessionUuid processUuid).2 = .session sessionId) := by
  have located := (settled_of_run run allowed).located sessionId
  constructor
  · intro placed
    rw [placed] at located
    exact Resources.mem_of_listedFor_pos located.1
  · intro closed
    rw [closed] at located
    refine ⟨located.2.1, located.1, ?_⟩
    intro call sessionUuid processUuid sameTenant sameSession
    subst sameTenant
    subst sameSession
    exact processClient_restores sessionUuid processUuid located.2.2 located.1 located.2.1

/-- Two global processes, each with a new session. -/
def twoTenants : List Operation :=
  [.allocate [] [1], .allocate [] [2],
    .client ⟨[1], [], [], [], 1, 1, []⟩ [10] [11], .client ⟨[2], [], [], [], 1, 1, []⟩ [12] [13]]

def oneTenant : List Operation :=
  [.allocate [] [1], .client ⟨[1], [], [], [], 1, 1, []⟩ [10] [11], .connect [11],
    .closure [11] 0 [10]]

theorem tenant_placement_first :
    Exists fun trace => Exists fun final => Run trace final ∧
      (Key.sessionsSwapped [1], [10]) ∈ final.plane.redis.sets := by
  have found := TransitionSystem.exists_run operations operations.initial oneTenant
    (fun trace _ => trace.all (fun entry => placesOwn entry.1 entry.2) &&
      decide (whereabouts [10] trace = some (.closed [1]))) (by decide +kernel)
  rcases found with ⟨trace, final, run, tested⟩
  simp only [Bool.and_eq_true, decide_eq_true_eq] at tested
  have closed := (tenant_placement run (TransitionSystem.guarded_of_all tested.1) [1] [10]).2 tested.2
  exact ⟨trace, final, run, closed.2.1⟩

/-- The session of the second global process is placed on the worker of the
first. -/
theorem session_placed_on_foreign_worker :
    ¬ forall (trace : List (State × Operation)) (final : State), Run trace final ->
      forall tenant sessionId,
      (whereabouts sessionId trace = some (.placed tenant) ->
          Exists fun process => process ∈ final.plane.resources.processes ∧
            process.globalProcessId = tenant ∧ sessionId ∈ process.sessions) ∧
        (whereabouts sessionId trace = some (.closed tenant) ->
          (Key.sessionsAlive tenant, sessionId) ∉ final.plane.redis.sets ∧
          (Key.sessionsSwapped tenant, sessionId) ∈ final.plane.redis.sets ∧
          forall (call : ClientCall) (sessionUuid processUuid : Bytes), call.processId = tenant ->
            call.sessionId = sessionId ->
            (final.plane.processClient call sessionUuid processUuid).2 = .session sessionId) := by
  intro always
  have found := TransitionSystem.exists_run operations operations.initial twoTenants
    (fun trace final => decide (whereabouts [12] trace = some (.placed [2])) &&
      final.plane.resources.processes.all (fun process =>
        decide (¬ (process.globalProcessId = [2] ∧ [12] ∈ process.sessions)))) (by decide +kernel)
  rcases found with ⟨trace, final, run, tested⟩
  simp only [Bool.and_eq_true, decide_eq_true_eq, List.all_eq_true] at tested
  rcases (always trace final run [2] [12]).1 tested.1 with ⟨process, member, owned, listed⟩
  exact tested.2 process member ⟨owned, listed⟩

end Tenancy
end Praas
