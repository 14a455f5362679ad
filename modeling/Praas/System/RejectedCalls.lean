import Praas.ControlPlane.Listing
import Praas.System.Transition

namespace Praas
namespace System

open Library
open ControlPlane

/-!
# Calls that are rejected

One of the error returns of `process_client` comes after the session has been
taken out of its set of swapped-out sessions.  It is not reached: every member
of a set was placed at some time, a session is placed under an identifier for
which a record has been written, and no record is ever deleted.

The interleavings here are those of `process_allocation`, `process_client` and
`handle_session_closure`.  The identifiers that are generated need not be new,
and a worker may close any session that has been placed, on whichever worker
and however often.
-/

namespace Rejection

inductive Operation
  | allocate (processName uuid : Bytes)
  | call (call : ClientCall)
  | client (index : Nat) (uuid : Bytes)
  | close (processId sessionId : Bytes)
  | closure (index : Nat)
  | reorder (processes : List Process)

def typed (call : ClientCall) : Bool :=
  decide (IsSigned 4 call.maxFunctions ∧ IsSigned 4 call.memorySize)

/-- The step function.  A step of a client may generate any identifier, so none
counts as used.  Entries of the table of sessions stay, so that every session
that was placed on some worker is found there. -/
def operate (state : State) : Operation -> Option State
  | .allocate processName uuid =>
      some { state with plane := state.plane.processAllocation processName uuid }
  | .call call =>
      if typed call then some { state with clients := state.clients ++ [.getProcess call] } else none
  | .client index uuid =>
      match state.clients[index]? with
      | none => none
      | some client => clientStep { state with used := [] } index uuid client
  | .close processId sessionId =>
      match state.plane.resources.getProcess processId with
      | none => none
      | some process =>
          if (state.plane.resources.getSession sessionId).isSome then
            some { state with closures := state.closures ++
              [⟨process.processId, process.globalProcessId, sessionId, .remove⟩] }
          else none
  | .closure index =>
      match state.closures[index]? with
      | none => none
      | some closure => closureStep state index closure
  | .reorder processes =>
      if processes.isPerm state.plane.resources.processes then
        some (state.setResources { state.plane.resources with processes := processes })
      else none

def operations : TransitionSystem State Operation where
  initial := State.initial
  step := operate

/-- What one step can do. -/
inductive Step (state : State) : Operation -> State -> Prop
  | allocate (processName uuid : Bytes) :
      Step state (.allocate processName uuid)
        { state with plane := state.plane.processAllocation processName uuid }
  | call {call : ClientCall} : typed call = true ->
      Step state (.call call) { state with clients := state.clients ++ [.getProcess call] }
  | client {index : Nat} {uuid : Bytes} {client : Client} {next : State} :
      state.clients[index]? = some client ->
      clientStep { state with used := [] } index uuid client = some next ->
      Step state (.client index uuid) next
  | close {processId sessionId : Bytes} {process : Process} :
      state.plane.resources.getProcess processId = some process ->
      (state.plane.resources.sessions sessionId).isSome = true ->
      Step state (.close processId sessionId) { state with closures := state.closures ++
        [⟨process.processId, process.globalProcessId, sessionId, .remove⟩] }
  | closure {index : Nat} {next : State} : Transition state (.closure index) next ->
      Step state (.closure index) next
  | reorder {processes : List Process} : processes.Perm state.plane.resources.processes ->
      Step state (.reorder processes)
        (state.setResources { state.plane.resources with processes := processes })

theorem operate_step {state next : State} {operation : Operation}
    (stepped : operate state operation = some next) : Step state operation next := by
  cases operation with
  | allocate processName uuid =>
      cases stepped
      exact .allocate processName uuid
  | call call =>
      simp only [operate] at stepped
      split at stepped
      · rename_i fits
        cases stepped
        exact .call fits
      · cases stepped
  | client index uuid =>
      simp only [operate] at stepped
      split at stepped
      · cases stepped
      · rename_i client present
        exact .client present stepped
  | close processId sessionId =>
      simp only [operate] at stepped
      split at stepped
      · cases stepped
      · rename_i process found
        split at stepped
        · rename_i placed
          cases stepped
          exact .close found placed
        · cases stepped
  | closure index =>
      simp only [operate] at stepped
      split at stepped
      · cases stepped
      · rename_i closure present
        exact .closure (closureStep_transition present stepped)
  | reorder processes =>
      simp only [operate] at stepped
      split at stepped
      · rename_i same
        cases stepped
        exact .reorder (List.isPerm_iff.mp same)
      · cases stepped

/-! ## Records -/

/-- The session has a record of two 32-bit numbers. -/
def HasRecord (redis : Redis) (sessionId : Bytes) : Prop :=
  Exists fun memory => Exists fun functions => IsSigned 4 memory ∧ IsSigned 4 functions ∧
    redis.get (.session sessionId) =
      some (toDecimal memory ++ separator :: toDecimal functions)

theorem hasRecord_congr {redis other : Redis} (same : other.strings = redis.strings)
    {sessionId : Bytes} : HasRecord other sessionId ↔ HasRecord redis sessionId := by
  simp only [HasRecord, Redis.get, same]

theorem hasRecord_setProcess {redis : Redis} {sessionId : Bytes}
    (recorded : HasRecord redis sessionId) (id value : Bytes) :
    HasRecord (redis.set (.process id) value) sessionId := by
  rcases recorded with ⟨memory, functions, signedMemory, signedFunctions, found⟩
  have other : Key.session sessionId ≠ Key.process id := fun same => nomatch same
  refine ⟨memory, functions, signedMemory, signedFunctions, ?_⟩
  exact (Function.update_of_ne other (some value) redis.strings).trans found

theorem hasRecord_details (redis : Redis) {call : ClientCall} (fits : typed call = true)
    (sessionId : Bytes) :
    HasRecord (redis.set (.session sessionId) call.details) sessionId := by
  have signed := of_decide_eq_true fits
  exact ⟨call.memorySize, call.maxFunctions, signed.2, signed.1, Function.update_self _ _ _⟩

theorem hasRecord_setDetails {redis : Redis} {call : ClientCall} (fits : typed call = true)
    (uuid : Bytes) {sessionId : Bytes} (recorded : HasRecord redis sessionId) :
    HasRecord (redis.set (.session uuid) call.details) sessionId := by
  by_cases same : sessionId = uuid
  · rw [same]
    exact hasRecord_details redis fits uuid
  · rcases recorded with ⟨memory, functions, signedMemory, signedFunctions, found⟩
    refine ⟨memory, functions, signedMemory, signedFunctions, ?_⟩
    exact (Function.update_of_ne (fun equal => same (Key.session.inj equal)) _ _).trans found

/-! ## The invariant -/

/-- The session that a client works on has a record, and no client found its
details missing. -/
def clientBacked (redis : Redis) : Client -> Prop
  | .getProcess call => typed call = true
  | .checkAlive call _ => typed call = true
  | .takeSwapped call _ => typed call = true
  | .recordDetails call _ => typed call = true
  | .readDetails call _ => HasRecord redis call.sessionId
  | .findProcess placement => HasRecord redis placement.sessionId
  | .addExisting placement _ => HasRecord redis placement.sessionId
  | .addProcess placement => HasRecord redis placement.sessionId
  | .inSection => True
  | .markAlive placement => HasRecord redis placement.sessionId
  | .returned reply => reply ≠ .detailsMissing

def sectionBacked (redis : Redis) : Option Section -> Prop
  | some (.writeRequest _ placement _) => HasRecord redis placement.sessionId
  | some (.addSession _ placement _) => HasRecord redis placement.sessionId
  | some (.allocateProcess _ placement _) => HasRecord redis placement.sessionId
  | _ => True

/-- Every session that is in a set, in the table or in the hands of a thread
has a record. -/
structure Backed (state : State) : Prop where
  members : forall entry, entry ∈ state.plane.redis.sets ->
    HasRecord state.plane.redis entry.2
  known : forall sessionId, (state.plane.resources.sessions sessionId).isSome = true ->
    HasRecord state.plane.redis sessionId
  clients : forall client, client ∈ state.clients -> clientBacked state.plane.redis client
  mutex : sectionBacked state.plane.redis state.mutex
  closures : forall closure, closure ∈ state.closures ->
    HasRecord state.plane.redis closure.sessionId

theorem clientBacked_mono {redis later : Redis}
    (kept : forall sessionId, HasRecord redis sessionId -> HasRecord later sessionId)
    {client : Client} (backed : clientBacked redis client) : clientBacked later client := by
  cases client with
  | readDetails call processName => exact kept _ backed
  | findProcess placement => exact kept _ backed
  | addExisting placement processId => exact kept _ backed
  | addProcess placement => exact kept _ backed
  | markAlive placement => exact kept _ backed
  | _ => exact backed

theorem sectionBacked_mono {redis later : Redis}
    (kept : forall sessionId, HasRecord redis sessionId -> HasRecord later sessionId)
    {held : Option Section} (backed : sectionBacked redis held) : sectionBacked later held := by
  cases held with
  | none => trivial
  | some held =>
      cases held with
      | sendPending processId index => trivial
      | _ => exact kept _ backed

/-- A step that keeps the records keeps the invariant, when it holds of what
the step adds. -/
theorem Backed.update {state next : State} (backed : Backed state)
    (kept : forall sessionId, HasRecord state.plane.redis sessionId ->
      HasRecord next.plane.redis sessionId)
    (members : forall entry, entry ∈ next.plane.redis.sets ->
      entry ∈ state.plane.redis.sets ∨ HasRecord next.plane.redis entry.2)
    (known : forall sessionId, (next.plane.resources.sessions sessionId).isSome = true ->
      (state.plane.resources.sessions sessionId).isSome = true ∨
        HasRecord next.plane.redis sessionId)
    (clients : forall client, client ∈ next.clients ->
      client ∈ state.clients ∨ clientBacked next.plane.redis client)
    (mutex : next.mutex = state.mutex ∨ sectionBacked next.plane.redis next.mutex)
    (closures : forall closure, closure ∈ next.closures ->
      Exists fun earlier => earlier ∈ state.closures ∧ earlier.sessionId = closure.sessionId) :
    Backed next := by
  refine ⟨?_, ?_, ?_, ?_, ?_⟩
  · intro entry member
    rcases members entry member with old | new
    · exact kept _ (backed.members entry old)
    · exact new
  · intro sessionId entry
    rcases known sessionId entry with old | new
    · exact kept _ (backed.known sessionId old)
    · exact new
  · intro client member
    rcases clients client member with old | new
    · exact clientBacked_mono kept (backed.clients client old)
    · exact new
  · rcases mutex with same | new
    · rw [same]
      exact sectionBacked_mono kept backed.mutex
    · exact new
  · intro closure member
    rcases closures closure member with ⟨earlier, old, same⟩
    rw [← same]
    exact kept _ (backed.closures earlier old)

/-- The rule for steps that leave the database and the closures alone. -/
theorem Backed.keepRedis {state next : State} (backed : Backed state)
    (redis : next.plane.redis = state.plane.redis)
    (known : forall sessionId, (next.plane.resources.sessions sessionId).isSome = true ->
      (state.plane.resources.sessions sessionId).isSome = true ∨
        HasRecord state.plane.redis sessionId)
    (clients : forall client, client ∈ next.clients ->
      client ∈ state.clients ∨ clientBacked state.plane.redis client)
    (mutex : next.mutex = state.mutex ∨ sectionBacked state.plane.redis next.mutex)
    (closures : next.closures = state.closures) : Backed next := by
  rw [← redis] at known clients mutex
  refine backed.update ?_ ?_ known clients mutex ?_
  · intro sessionId recorded
    rw [redis]
    exact recorded
  · intro entry member
    rw [redis] at member
    exact Or.inl member
  · intro closure member
    rw [closures] at member
    exact ⟨closure, member, rfl⟩

/-- The rule for steps that change the sets of the database and one client. -/
theorem Backed.changeSets {state next : State} (backed : Backed state)
    (strings : next.plane.redis.strings = state.plane.redis.strings)
    (members : forall entry, entry ∈ next.plane.redis.sets ->
      entry ∈ state.plane.redis.sets ∨ HasRecord state.plane.redis entry.2)
    (resources : next.plane.resources.sessions = state.plane.resources.sessions)
    (clients : forall client, client ∈ next.clients ->
      client ∈ state.clients ∨ clientBacked state.plane.redis client)
    (mutex : next.mutex = state.mutex)
    (closures : forall closure, closure ∈ next.closures ->
      Exists fun earlier => earlier ∈ state.closures ∧ earlier.sessionId = closure.sessionId) :
    Backed next := by
  have kept : forall sessionId, HasRecord state.plane.redis sessionId ->
      HasRecord next.plane.redis sessionId :=
    fun sessionId recorded => (hasRecord_congr strings).mpr recorded
  refine backed.update kept ?_ ?_ ?_ (Or.inl mutex) closures
  · intro entry member
    exact (members entry member).imp_right (kept _)
  · intro sessionId entry
    rw [resources] at entry
    exact Or.inl entry
  · intro client member
    exact (clients client member).imp_right (clientBacked_mono kept)

theorem Backed.unrestricted {state : State} (backed : Backed state) :
    Backed { state with used := [] } :=
  ⟨backed.members, backed.known, backed.clients, backed.mutex, backed.closures⟩

theorem backed_initial : Backed State.initial := by
  refine ⟨?_, ?_, ?_, trivial, ?_⟩
  · intro entry member
    cases member
  · intro sessionId entry
    cases entry
  · intro client member
    cases member
  · intro closure member
    cases member

/-! ## One step -/

section Step

variable {state next : State}

/-- A session is known after it has been added, and every other one as before. -/
theorem known_addSession {plane : Plane} {placement : Placement} {processId sessionId : Bytes}
    (entry : ((plane.addSession placement processId).resources.sessions sessionId).isSome = true) :
    (plane.resources.sessions sessionId).isSome = true ∨ sessionId = placement.sessionId := by
  rw [Plane.sessions_addSession] at entry
  by_cases same : sessionId = placement.sessionId
  · exact Or.inr same
  · rw [Function.update_of_ne same] at entry
    exact Or.inl entry

theorem known_writeRequest {plane : Plane} {processId sessionId other : Bytes}
    (entry : ((plane.writeRequest processId sessionId).resources.sessions other).isSome = true) :
    (plane.resources.sessions other).isSome = true := by
  rw [Plane.sessions_writeRequest] at entry
  by_cases same : other = sessionId
  · rw [same, Function.update_self, Option.isSome_map] at entry
    rw [same]
    exact entry
  · rw [Function.update_of_ne same] at entry
    exact entry

theorem sessions_addProcess (plane : Plane) (placement : Placement) (id : Bytes) :
    (plane.addProcess placement id).resources.sessions = plane.resources.sessions := by
  dsimp only [Plane.addProcess, Resources.addProcess]
  split <;> rfl

/-- A quiet move leaves a backed client behind: a client that has taken a
session out of its set finds the record. -/
theorem quiet_backed {client moved : Client} (backed : clientBacked state.plane.redis client)
    (quiet : client.Quiet state.plane moved) : clientBacked state.plane.redis moved := by
  cases quiet with
  | missing call => exact fun missing => nomatch missing
  | known call processName => exact backed
  | fresh call processName => exact backed
  | alive call processName => exact fun missing => nomatch missing
  | notAlive call processName => exact backed
  | unknown call processName => exact fun missing => nomatch missing
  | detailsMissing call processName absent =>
      rcases backed with ⟨_, _, _, _, found⟩
      rw [found] at absent
      cases absent
  | details call processName details => exact backed

theorem backed_client {index : Nat} {uuid : Bytes} (backed : Backed state)
    (moved : Transition state (.client index uuid) next) : Backed next := by
  cases moved with
  | quiet whole quiet =>
      have moved := quiet_backed (backed.clients _ (mem_middle whole)) quiet
      exact backed.keepRedis rfl (fun _ => Or.inl)
        (forall_mem_middle whole (fun _ => Or.inl) (Or.inr moved)) (Or.inl rfl) rfl
  | takeSwapped whole found =>
      have recorded := backed.members _ ((Redis.srem_reply _ _ _).mp found)
      refine backed.changeSets rfl ?_ rfl (forall_mem_middle whole (fun _ => Or.inl)
        (Or.inr recorded)) rfl (fun closure member => ⟨closure, member, rfl⟩)
      intro entry member
      exact Or.inl ((Redis.mem_srem _ _ _ entry).mp member).1
  | recordDetails whole unused =>
      have fits := backed.clients _ (mem_middle whole)
      exact backed.update (fun sessionId => hasRecord_setDetails fits uuid) (fun _ => Or.inl)
        (fun _ => Or.inl) (forall_mem_middle whole (fun _ => Or.inl)
          (Or.inr (hasRecord_details _ fits uuid))) (Or.inl rfl)
        (fun closure member => ⟨closure, member, rfl⟩)
  | reserve whole found =>
      have recorded := backed.clients _ (mem_middle whole)
      refine backed.keepRedis rfl ?_ (forall_mem_middle whole (fun _ => Or.inl) (Or.inr recorded))
        (Or.inl rfl) rfl
      intro sessionId entry
      left
      rw [← Resources.sessions_getFreeProcess]
      exact entry
  | allBusy whole found =>
      have recorded := backed.clients _ (mem_middle whole)
      exact backed.keepRedis rfl (fun _ => Or.inl)
        (forall_mem_middle whole (fun _ => Or.inl) (Or.inr recorded)) (Or.inl rfl) rfl
  | addExisting whole free present =>
      have recorded := backed.clients _ (mem_middle whole)
      refine backed.keepRedis rfl ?_ (forall_mem_middle whole (fun _ => Or.inl) (Or.inr trivial))
        (Or.inr recorded) rfl
      intro sessionId entry
      refine (known_addSession entry).imp_right (fun same => ?_)
      rw [same]
      exact recorded
  | addProcess whole free unused =>
      have recorded := backed.clients _ (mem_middle whole)
      refine backed.keepRedis rfl ?_ (forall_mem_middle whole (fun _ => Or.inl) (Or.inr trivial))
        (Or.inr recorded) rfl
      intro sessionId entry
      left
      rw [sessions_addProcess] at entry
      exact entry
  | writeRequest whole held =>
      have recorded := backed.mutex
      rw [held] at recorded
      exact backed.keepRedis (Plane.redis_writeRequest _ _ _)
        (fun _ entry => Or.inl (known_writeRequest entry))
        (forall_mem_middle whole (fun _ => Or.inl) (Or.inr recorded)) (Or.inr trivial) rfl
  | addSession whole held =>
      have recorded := backed.mutex
      rw [held] at recorded
      refine backed.keepRedis rfl ?_ (fun _ => Or.inl) (Or.inr recorded) rfl
      intro sessionId entry
      refine (known_addSession entry).imp_right (fun same => ?_)
      rw [same]
      exact recorded
  | allocateProcess whole held =>
      have recorded := backed.mutex
      rw [held] at recorded
      exact backed.keepRedis rfl (fun _ => Or.inl)
        (forall_mem_middle whole (fun _ => Or.inl) (Or.inr recorded)) (Or.inr trivial) rfl
  | markAlive whole =>
      have recorded := backed.clients _ (mem_middle whole)
      refine backed.changeSets (Redis.sadd_strings _ _ _) ?_ rfl
        (forall_mem_middle whole (fun _ => Or.inl) (Or.inr (fun missing => nomatch missing))) rfl
        (fun closure member => ⟨closure, member, rfl⟩)
      intro entry member
      rcases (Redis.mem_sadd _ _ _ entry).mp member with new | old
      · rw [new]
        exact Or.inr recorded
      · exact Or.inl old

theorem backed_closure {index : Nat} (backed : Backed state)
    (moved : Transition state (.closure index) next) : Backed next := by
  have kept : forall {before after : List Closure} {closure : Closure} {stage : ClosureStage},
      state.closures = before ++ closure :: after ->
      forall other, other ∈ before ++ { closure with stage := stage } :: after ->
        Exists fun earlier => earlier ∈ state.closures ∧ earlier.sessionId = other.sessionId := by
    intro before after closure stage whole
    exact forall_mem_middle whole (fun other member => ⟨other, member, rfl⟩)
      ⟨closure, mem_middle whole, rfl⟩
  cases moved with
  | remove whole stage free =>
      exact backed.changeSets rfl (fun _ => Or.inl) rfl (fun _ => Or.inl) rfl (kept whole)
  | unmarkOwn whole stage =>
      refine backed.changeSets rfl ?_ rfl (fun _ => Or.inl) rfl (kept whole)
      intro entry member
      exact Or.inl ((Redis.mem_srem _ _ _ entry).mp member).1
  | addSwapped whole stage =>
      have recorded := backed.closures _ (mem_middle whole)
      refine backed.changeSets (Redis.sadd_strings _ _ _) ?_ rfl (fun _ => Or.inl) rfl (kept whole)
      intro entry member
      rcases (Redis.mem_sadd _ _ _ entry).mp member with new | old
      · rw [new]
        exact Or.inr recorded
      · exact Or.inl old
  | unmark whole stage =>
      refine backed.changeSets rfl ?_ rfl (fun _ => Or.inl) rfl (kept whole)
      intro entry member
      exact Or.inl ((Redis.mem_srem _ _ _ entry).mp member).1

theorem backed_step {operation : Operation} (backed : Backed state)
    (stepped : Step state operation next) : Backed next := by
  cases stepped with
  | allocate processName uuid =>
      exact backed.update (fun _ recorded => hasRecord_setProcess recorded uuid processName)
        (fun _ => Or.inl) (fun _ => Or.inl) (fun _ => Or.inl) (Or.inl rfl)
        (fun closure member => ⟨closure, member, rfl⟩)
  | call fits =>
      refine backed.keepRedis rfl (fun _ => Or.inl) ?_ (Or.inl rfl) rfl
      intro client member
      refine (List.mem_append.mp member).imp_right (fun last => ?_)
      rw [List.mem_singleton.mp last]
      exact fits
  | client present stepped =>
      exact backed_client backed.unrestricted (clientStep_transition present stepped)
  | close found placed =>
      refine ⟨backed.members, backed.known, backed.clients, backed.mutex, ?_⟩
      intro closure member
      rcases List.mem_append.mp member with old | new
      · exact backed.closures closure old
      · rw [List.mem_singleton.mp new]
        exact backed.known _ placed
  | closure moved => exact backed_closure backed moved
  | reorder same =>
      exact backed.keepRedis rfl (fun _ => Or.inl) (fun _ => Or.inl) (Or.inl rfl) rfl

end Step

/-! ## Clients that can no longer be rejected -/

/-- The client has changed something, or is about to return a session. -/
def committed : Client -> Prop
  | .getProcess _ => False
  | .checkAlive _ _ => False
  | .takeSwapped _ _ => False
  | .recordDetails _ _ => False
  | .returned .processMissing => False
  | .returned .alreadyAlive => False
  | .returned .sessionUnknown => False
  | .returned .detailsMissing => False
  | _ => True

theorem not_committed_of_code {reply : Reply} (rejected : reply.code = 400) :
    ¬ committed (.returned reply) := by
  cases reply with
  | session id => cases rejected
  | _ => exact id

/-- The next command of the client is a write to the database that succeeds: a
key is set, or a member is added to or removed from a set. -/
def writes (redis : Redis) : Client -> Prop
  | .takeSwapped call _ => (redis.srem (.sessionsSwapped call.processId) call.sessionId).1 = 1
  | .recordDetails _ _ => True
  | .markAlive _ => True
  | _ => False

section Committed

variable {state next : State}

/-- A client that writes is committed afterwards. -/
theorem committed_of_writes {index : Nat} {uuid : Bytes} {client : Client}
    (present : state.clients[index]? = some client)
    (stepped : clientStep state index uuid client = some next)
    (writing : writes state.plane.redis client) :
    Exists fun moved => next.clients[index]? = some moved ∧ committed moved := by
  have inside : index < state.clients.length := (List.getElem?_eq_some_iff.mp present).1
  cases client with
  | takeSwapped call processName =>
      have found : (state.plane.redis.srem (.sessionsSwapped call.processId) call.sessionId).1 = 1 :=
        writing
      simp only [clientStep] at stepped
      rw [if_pos found] at stepped
      cases stepped
      exact ⟨_, List.getElem?_set_self inside, trivial⟩
  | recordDetails call processName =>
      simp only [clientStep] at stepped
      split at stepped
      · cases stepped
      · cases stepped
        exact ⟨_, List.getElem?_set_self inside, trivial⟩
  | markAlive placement =>
      cases stepped
      exact ⟨_, List.getElem?_set_self inside, trivial⟩
  | _ => exact False.elim writing

/-- The client at `index` moves, a committed one stays committed, and one that
is not has written and changed nothing. -/
def Moves (state next : State) (index : Nat) : Prop :=
  Exists fun client => Exists fun moved => state.clients[index]? = some client ∧
    next.clients = state.clients.set index moved ∧
    (committed client -> committed moved) ∧
    (committed moved ∨ (next.plane = state.plane ∧ ¬ writes state.plane.redis client))

theorem set_middle {before after : List Client} {client : Client} (moved : Client)
    (whole : state.clients = before ++ client :: after) :
    before ++ moved :: after = state.clients.set before.length moved := by
  rw [whole, List.set_append_right _ _ (Nat.le_refl _), Nat.sub_self, List.set_cons_zero]

theorem moves_of_committed {before after : List Client} {client moved : Client}
    (whole : state.clients = before ++ client :: after)
    (result : next.clients = before ++ moved :: after) (now : committed moved) :
    Moves state next before.length :=
  ⟨client, moved, getElem?_middle whole, result.trans (set_middle moved whole), fun _ => now,
    Or.inl now⟩

theorem moves_client {index : Nat} {uuid : Bytes} {client : Client} (backed : Backed state)
    (present : state.clients[index]? = some client)
    (stepped : clientStep state index uuid client = some next) : Moves state next index := by
  have commits := committed_of_writes present stepped
  cases clientStep_transition present stepped with
  | quiet whole quiet =>
      rename_i before after old moved
      have same : old = client :=
        Option.some.inj ((getElem?_middle whole).symm.trans present)
      subst same
      refine ⟨old, moved, present, set_middle moved whole, ?_, ?_⟩
      · intro was
        have recorded := quiet_backed (backed.clients _ (mem_middle whole)) quiet
        cases quiet with
        | detailsMissing call processName absent => exact recorded rfl
        | details call processName details => trivial
        | _ => exact was
      · by_cases now : committed moved
        · exact Or.inl now
        · refine Or.inr ⟨rfl, fun writing => ?_⟩
          rcases commits writing with ⟨reached, located, done⟩
          have equal : moved = reached :=
            Option.some.inj ((getElem?_middle rfl).symm.trans located)
          exact now (equal ▸ done)
  | takeSwapped whole found => exact moves_of_committed whole rfl trivial
  | recordDetails whole unused => exact moves_of_committed whole rfl trivial
  | reserve whole found => exact moves_of_committed whole rfl trivial
  | allBusy whole found => exact moves_of_committed whole rfl trivial
  | addExisting whole free present => exact moves_of_committed whole rfl trivial
  | addProcess whole free unused => exact moves_of_committed whole rfl trivial
  | writeRequest whole held => exact moves_of_committed whole rfl trivial
  | addSession whole held => exact moves_of_committed whole whole trivial
  | allocateProcess whole held => exact moves_of_committed whole rfl trivial
  | markAlive whole => exact moves_of_committed whole rfl trivial

theorem clients_step {operation : Operation} (backed : Backed state)
    (stepped : Step state operation next) :
    (Exists fun index => Exists fun uuid => operation = .client index uuid ∧
      Moves state next index) ∨
    ((forall index uuid, operation ≠ .client index uuid) ∧
      Exists fun more => next.clients = state.clients ++ more) := by
  cases stepped with
  | client present stepped =>
      rename_i index uuid client
      have moved : Moves { state with used := [] } next index :=
        moves_client backed.unrestricted present stepped
      exact Or.inl ⟨index, uuid, rfl, moved⟩
  | call fits => exact Or.inr ⟨fun _ _ same => (nomatch same), _, rfl⟩
  | closure moved =>
      refine Or.inr ⟨fun _ _ same => (nomatch same), [], ?_⟩
      cases moved <;> exact (List.append_nil _).symm
  | allocate => exact Or.inr ⟨fun _ _ same => (nomatch same), [], (List.append_nil _).symm⟩
  | close => exact Or.inr ⟨fun _ _ same => (nomatch same), [], (List.append_nil _).symm⟩
  | reorder => exact Or.inr ⟨fun _ _ same => (nomatch same), [], (List.append_nil _).symm⟩

end Committed

/-! ## Whole runs -/

/-- A step from one state to the other, by the client at `index`, writes
nothing to the database and leaves the control plane as it was. -/
def Harmless (index : Nat) (source target : State) : Prop :=
  target.plane = source.plane ∧
    forall client, source.clients[index]? = some client -> ¬ writes source.plane.redis client

/-- The steps of the client at `index` in a trace left the database and the tables
alone.  Those of other threads that come between them may change both. -/
def Unchanged (index : Nat) (trace : List (State × Operation)) : Prop :=
  forall source uuid target, (source, Operation.client index uuid) ∈ trace ->
    operate source (.client index uuid) = some target -> Harmless index source target

/-- What is known of the steps taken so far: they were steps of clients that
exist, and those of a client that is not committed changed nothing. -/
structure Traced (trace : List (State × Operation)) (state : State) : Prop where
  backed : Backed state
  existing : forall source index uuid, (source, Operation.client index uuid) ∈ trace ->
    index < state.clients.length
  unchanged : forall index client, state.clients[index]? = some client -> ¬ committed client ->
    Unchanged index trace

theorem unchanged_append {index : Nat} {trace : List (State × Operation)} {source : State}
    {operation : Operation} (earlier : Unchanged index trace)
    (last : forall uuid target, operation = .client index uuid ->
      operate source operation = some target -> Harmless index source target) :
    Unchanged index (trace ++ [(source, operation)]) := by
  intro before uuid target member stepped
  rcases List.mem_append.mp member with old | new
  · exact earlier before uuid target old stepped
  · rw [List.mem_singleton, Prod.mk.injEq] at new
    rw [new.1, new.2] at stepped
    rw [new.1]
    exact last uuid target new.2.symm stepped

theorem traced_step {trace : List (State × Operation)} {source target : State}
    {operation : Operation} (traced : Traced trace source)
    (stepped : operate source operation = some target) :
    Traced (trace ++ [(source, operation)]) target := by
  have backed := backed_step traced.backed (operate_step stepped)
  rcases clients_step traced.backed (operate_step stepped) with
    ⟨index, uuid, rfl, client, moved, present, replaced, stays, changed⟩ | ⟨other, more, appended⟩
  · have length : target.clients.length = source.clients.length := by
      rw [replaced, List.length_set]
    have inside : index < source.clients.length := (List.getElem?_eq_some_iff.mp present).1
    refine ⟨backed, ?_, ?_⟩
    · intro before other uuid' member
      rw [length]
      rcases List.mem_append.mp member with old | new
      · exact traced.existing before other uuid' old
      · rw [List.mem_singleton, Prod.mk.injEq, Operation.client.injEq] at new
        rw [new.2.1]
        exact inside
    · intro place found located uncommitted
      by_cases same : place = index
      · subst same
        rw [replaced, List.getElem?_set_self inside, Option.some.injEq] at located
        subst located
        refine unchanged_append (traced.unchanged place client present (mt stays uncommitted)) ?_
        intro _ reached _ again
        rw [stepped, Option.some.injEq] at again
        rw [← again]
        have harmless := changed.resolve_left uncommitted
        refine ⟨harmless.1, ?_⟩
        intro other located
        rw [present, Option.some.injEq] at located
        rw [← located]
        exact harmless.2
      · rw [replaced, List.getElem?_set_ne (Ne.symm same)] at located
        refine unchanged_append (traced.unchanged place found located uncommitted) ?_
        intro uuid' reached equal
        exact False.elim (same (Operation.client.inj equal).1.symm)
  · refine ⟨backed, ?_, ?_⟩
    · intro before index uuid member
      rw [appended, List.length_append]
      rcases List.mem_append.mp member with old | new
      · exact Nat.lt_add_right _ (traced.existing before index uuid old)
      · rw [List.mem_singleton, Prod.mk.injEq] at new
        exact False.elim (other index uuid new.2.symm)
    · intro index client located uncommitted
      apply unchanged_append
      · by_cases inside : index < source.clients.length
        · rw [appended, List.getElem?_append_left inside] at located
          exact traced.unchanged index client located uncommitted
        · intro before uuid reached member
          exact False.elim (inside (traced.existing before index uuid member))
      · intro uuid reached equal
        exact False.elim (other index uuid equal)

theorem traced_run {trace : List (State × Operation)} {final : State}
    (run : TransitionSystem.Run operations State.initial trace final) : Traced trace final := by
  refine run.traced_invariant Traced ?_ ?_
  · refine ⟨backed_initial, ?_, ?_⟩
    · intro source index uuid member
      cases member
    · intro index client present
      cases present
  · intro trace source operation target _ traced stepped
    exact traced_step traced stepped

/-- In every interleaving, a call that has returned 400 has written nothing to
the database and changed neither it nor the tables, and its session details
were not missing: every member of a set of alive or swapped-out sessions has a
record of two 32-bit numbers. -/
theorem rejected_call_changes_nothing {trace : List (State × Operation)} {final : State}
    (run : TransitionSystem.Run operations State.initial trace final) :
    (forall index reply, final.clients[index]? = some (.returned reply) -> reply.code = 400 ->
      reply ≠ .detailsMissing ∧
      forall source uuid target, (source, Operation.client index uuid) ∈ trace ->
        operate source (.client index uuid) = some target ->
        (forall client, source.clients[index]? = some client ->
          ¬ writes source.plane.redis client) ∧
        target.plane.redis = source.plane.redis ∧
        target.plane.resources = source.plane.resources) ∧
    (forall id sessionId, (Key.sessionsAlive id, sessionId) ∈ final.plane.redis.sets ∨
      (Key.sessionsSwapped id, sessionId) ∈ final.plane.redis.sets ->
      HasRecord final.plane.redis sessionId) := by
  have traced := traced_run run
  constructor
  · intro index reply located rejected
    refine ⟨traced.backed.clients _ (List.mem_of_getElem? located), ?_⟩
    intro source uuid target member stepped
    have harmless := traced.unchanged index _ located (not_committed_of_code rejected) source uuid
      target member stepped
    rw [harmless.1]
    exact ⟨harmless.2, rfl, rfl⟩
  · intro id sessionId member
    rcases member with alive | swapped
    · exact traced.backed.members _ alive
    · exact traced.backed.members _ swapped

/-! ## Sessions placed on a worker may be closed -/

/-- Every session that a process lists has an entry in the table. -/
def ListedKnown (resources : Resources) : Prop :=
  forall process, process ∈ resources.processes -> forall sessionId, sessionId ∈ process.sessions ->
    (resources.sessions sessionId).isSome = true

theorem ListedKnown.update {resources : Resources} (listed : ListedKnown resources)
    (test : Process -> Bool) (change : Process -> Process)
    (fewer : forall process, (change process).sessions ⊆ process.sessions) :
    ListedKnown { resources with processes := updateFirst test change resources.processes } := by
  intro process member sessionId placed
  rcases mem_or_of_mem_updateFirst member with same | ⟨old, present, rfl⟩
  · exact listed process same sessionId placed
  · exact listed old present sessionId (fewer old placed)

theorem listedKnown_getFreeProcess {resources : Resources} (listed : ListedKnown resources)
    (id : Bytes) : ListedKnown (resources.getFreeProcess id).2 := by
  unfold Resources.getFreeProcess
  split
  · exact listed
  · exact listed.update _ _ (fun _ => List.Subset.refl _)

theorem listedKnown_addSession {plane : Plane} (listed : ListedKnown plane.resources)
    (placement : Placement) (id : Bytes) :
    ListedKnown (plane.addSession placement id).resources := by
  intro process member sessionId placed
  rw [Plane.sessions_addSession]
  by_cases same : sessionId = placement.sessionId
  · rw [same, Function.update_self]
    rfl
  · rw [Function.update_of_ne same]
    rcases mem_or_of_mem_updateFirst member with kept | ⟨old, present, rfl⟩
    · exact listed process kept sessionId placed
    · rcases List.mem_append.mp placed with earlier | new
      · exact listed old present sessionId earlier
      · exact False.elim (same (List.mem_singleton.mp new))

theorem listedKnown_addProcess {plane : Plane} (listed : ListedKnown plane.resources)
    (placement : Placement) (id : Bytes) :
    ListedKnown (plane.addProcess placement id).resources := by
  dsimp only [Plane.addProcess, Resources.addProcess]
  split
  · exact listed.update _ _ (fun _ => List.nil_subset _)
  · intro process member sessionId placed
    rcases List.mem_append.mp member with old | new
    · exact listed process old sessionId placed
    · rw [List.mem_singleton.mp new] at placed
      cases placed

theorem listedKnown_writeRequest {plane : Plane} (listed : ListedKnown plane.resources)
    (id sessionId : Bytes) : ListedKnown (plane.writeRequest id sessionId).resources := by
  intro process member other placed
  rw [Plane.processes_writeRequest] at member
  have known := listed process member other placed
  rw [Plane.sessions_writeRequest]
  by_cases same : other = sessionId
  · rw [same] at known
    rw [same, Function.update_self, Option.isSome_map]
    exact known
  · rw [Function.update_of_ne same]
    exact known

theorem listedKnown_removeSession {resources : Resources} (listed : ListedKnown resources)
    (id sessionId : Bytes) : ListedKnown (resources.removeSession id sessionId) := by
  refine listed.update _ _ ?_
  intro process
  unfold Process.removeSession
  split
  · exact List.erase_subset
  · exact List.Subset.refl _

theorem listedKnown_client {state next : State} {index : Nat} {uuid : Bytes}
    (listed : ListedKnown state.plane.resources)
    (moved : Transition state (.client index uuid) next) : ListedKnown next.plane.resources := by
  cases moved with
  | reserve whole found => exact listedKnown_getFreeProcess listed _
  | addExisting whole free present => exact listedKnown_addSession listed _ _
  | addSession whole held => exact listedKnown_addSession listed _ _
  | addProcess whole free unused => exact listedKnown_addProcess listed _ _
  | writeRequest whole held => exact listedKnown_writeRequest listed _ _
  | _ => exact listed

theorem listedKnown_step {state next : State} {operation : Operation}
    (listed : ListedKnown state.plane.resources) (stepped : Step state operation next) :
    ListedKnown next.plane.resources := by
  cases stepped with
  | client present stepped =>
      have unrestricted : ListedKnown ({ state with used := [] } : State).plane.resources := listed
      exact listedKnown_client unrestricted (clientStep_transition present stepped)
  | closure moved =>
      cases moved with
      | remove whole stage free => exact listedKnown_removeSession listed _ _
      | _ => exact listed
  | reorder same =>
      intro process member
      exact listed process (same.mem_iff.mp member)
  | _ => exact listed

theorem close_enabled {trace : List (State × Operation)} {final : State}
    (run : TransitionSystem.Run operations State.initial trace final) {processId sessionId : Bytes}
    {process : Process} (found : final.plane.resources.getProcess processId = some process)
    (placed : sessionId ∈ process.sessions) :
    (operate final (.close processId sessionId)).isSome = true := by
  have listed : ListedKnown final.plane.resources := by
    refine run.invariant (fun state => ListedKnown state.plane.resources) ?_ ?_
    · intro process member
      cases member
    · intro source operation target listed stepped
      exact listedKnown_step listed (operate_step stepped)
  have known : (final.plane.resources.getSession sessionId).isSome = true :=
    listed process (Resources.mem_of_getProcess found) sessionId placed
  simp only [operate, found]
  rw [if_pos known]
  rfl

/-- A session is created and then asked for again while it is alive. -/
def askAgain : List Operation :=
  [.allocate [] [1], .call newSessionCall, .client 0 [], .client 0 [2], .client 0 [], .client 0 [3],
    .client 0 [], .client 0 [], .client 0 [], .call swapInCall, .client 1 [], .client 1 []]

theorem second_call_rejected :
    Exists fun trace => Exists fun final =>
      TransitionSystem.Run operations State.initial trace final ∧
      final.clients[1]? = some (.returned .alreadyAlive) ∧
      (Key.sessionsAlive [1], [2]) ∈ final.plane.redis.sets ∧
      HasRecord final.plane.redis [2] ∧
      forall source uuid target, (source, Operation.client 1 uuid) ∈ trace ->
        operate source (.client 1 uuid) = some target ->
        target.plane.resources = source.plane.resources := by
  rcases TransitionSystem.exists_run operations State.initial askAgain
    (fun _ final => decide (final.clients[1]? = some (Client.returned Reply.alreadyAlive) ∧
      (Key.sessionsAlive [1], [2]) ∈ final.plane.redis.sets))
    (by decide +kernel) with ⟨trace, final, run, tested⟩
  rcases of_decide_eq_true tested with ⟨located, alive⟩
  have whole := rejected_call_changes_nothing run
  refine ⟨trace, final, run, located, alive, whole.2 [1] [2] (Or.inl alive), ?_⟩
  intro source uuid target member stepped
  exact ((whole.1 1 .alreadyAlive located rfl).2 source uuid target member stepped).2.2

end Rejection
end System
end Praas
