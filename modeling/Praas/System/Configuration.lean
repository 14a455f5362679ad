import Praas.System.ForeignClosures
import Praas.Wire.ProcessLink

namespace Praas
namespace System

open Library
open ControlPlane

/-!
# The configuration of a session

The two numbers of a session are written to the database as text when it is
created.  Every swap-in reads them back, negates the memory size and places the
session with them, and the request is filled from the entry of the table.  The
record is written under a new identifier and never again, and the numbers in
the hands of a thread or in the table are always those of the record.
-/

namespace Foreign

variable {state next : State} {event : Event}

/-! ## The record -/

theorem details_read {call : ClientCall} (fits : Rejection.typed call = true) (old : Int) :
    fromChars (split call.details separator).1 old = call.memorySize ∧
      fromChars (split call.details separator).2 old = call.maxFunctions := by
  have signed := of_decide_eq_true fits
  have absent : separator ∉ toDecimal call.memorySize :=
    not_mem_toDecimal (by decide) (by decide)
  unfold ClientCall.details
  rw [split_append absent]
  exact ⟨fromChars_toDecimal signed.2 old, fromChars_toDecimal signed.1 old⟩

/-- The text of a record determines its numbers. -/
theorem details_injective {first second : ClientCall} (left : Rejection.typed first = true)
    (right : Rejection.typed second = true) (same : first.details = second.details) :
    first.memorySize = second.memorySize ∧ first.maxFunctions = second.maxFunctions := by
  have one := details_read left 0
  have two := details_read right 0
  rw [same] at one
  exact ⟨one.1.symm.trans two.1, one.2.symm.trans two.2⟩

/-- The memory size that is sent for a session with the given record. -/
def sentSize (swapIn : Bool) (memorySize : Int) : Int :=
  if swapIn then int32 (memorySize * -1) else memorySize

/-- The numbers are those of the record of the session. -/
def Configured (redis : Redis) (sessionId : Bytes) (maxFunctions memorySize : Int)
    (swapIn : Bool) : Prop :=
  Exists fun call => Rejection.typed call = true ∧
    redis.get (.session sessionId) = some call.details ∧ maxFunctions = call.maxFunctions ∧
    memorySize = sentSize swapIn call.memorySize

/-- No record is lost or replaced. -/
def Keeps (before after : Redis) : Prop :=
  forall sessionId details, before.get (.session sessionId) = some details ->
    after.get (.session sessionId) = some details

theorem Configured.mono {before after : Redis} (kept : Keeps before after) {sessionId : Bytes}
    {maxFunctions memorySize : Int} {swapIn : Bool}
    (configured : Configured before sessionId maxFunctions memorySize swapIn) :
    Configured after sessionId maxFunctions memorySize swapIn := by
  rcases configured with ⟨call, fits, recorded, functions, memory⟩
  exact ⟨call, fits, kept sessionId _ recorded, functions, memory⟩

/-! ## The invariant -/

def placementConfigured (redis : Redis) (placement : Placement) : Prop :=
  Configured redis placement.sessionId placement.maxFunctions placement.memorySize placement.swapIn

/-- A client that creates a session has two 32-bit numbers, and one that places
a session has those of its record. -/
def clientConfigured (redis : Redis) : Client -> Prop
  | .getProcess call => Rejection.typed call = true
  | .recordDetails call _ => Rejection.typed call = true
  | .findProcess placement => placementConfigured redis placement
  | .addExisting placement _ => placementConfigured redis placement
  | .addProcess placement => placementConfigured redis placement
  | _ => True

def sectionConfigured (redis : Redis) : Option Section -> Prop
  | some (.writeRequest _ placement _) => placementConfigured redis placement
  | some (.addSession _ placement _) => placementConfigured redis placement
  | _ => True

/-- Every record is that of a call and belongs to an identifier in use, and the
entries of the table and the threads agree with the records. -/
structure Consistent (state : State) : Prop where
  formed : forall sessionId details, state.plane.redis.get (.session sessionId) = some details ->
    sessionId ∈ state.used ∧
      Exists fun call => Rejection.typed call = true ∧ details = ClientCall.details call
  entries : forall sessionId session, state.plane.resources.sessions sessionId = some session ->
    Configured state.plane.redis sessionId session.maxFunctions session.memorySize session.swapIn
  clients : forall client, client ∈ state.clients -> clientConfigured state.plane.redis client
  mutex : sectionConfigured state.plane.redis state.mutex

theorem clientConfigured_mono {before after : Redis} (kept : Keeps before after) {client : Client}
    (configured : clientConfigured before client) : clientConfigured after client := by
  cases client with
  | findProcess placement => exact Configured.mono kept configured
  | addExisting placement processId => exact Configured.mono kept configured
  | addProcess placement => exact Configured.mono kept configured
  | _ => exact configured

theorem sectionConfigured_mono {before after : Redis} (kept : Keeps before after)
    {held : Option Section} (configured : sectionConfigured before held) :
    sectionConfigured after held := by
  cases held with
  | none => trivial
  | some held =>
      cases held with
      | writeRequest owner placement processId => exact Configured.mono kept configured
      | addSession owner placement processId => exact Configured.mono kept configured
      | allocateProcess owner placement processId => trivial
      | sendPending processId index => trivial

/-- An entry with the numbers of an old one, or with those of the record. -/
def entryConfigured (state next : State) (sessionId : Bytes) (session : Session) : Prop :=
  (Exists fun old => state.plane.resources.sessions sessionId = some old ∧
    old.maxFunctions = session.maxFunctions ∧ old.memorySize = session.memorySize ∧
    old.swapIn = session.swapIn) ∨
  Configured next.plane.redis sessionId session.maxFunctions session.memorySize session.swapIn

theorem entryConfigured_same {sessionId : Bytes} {session : Session}
    (entry : state.plane.resources.sessions sessionId = some session) :
    entryConfigured state next sessionId session :=
  Or.inl ⟨session, entry, rfl, rfl, rfl⟩

theorem entryConfigured_added {placement : Placement}
    (configured : placementConfigured next.plane.redis placement)
    (sessions : next.plane.resources.sessions =
      Function.update state.plane.resources.sessions placement.sessionId
        (some (state.plane.added placement))) (sessionId : Bytes) (session : Session)
    (entry : next.plane.resources.sessions sessionId = some session) :
    entryConfigured state next sessionId session := by
  rw [sessions] at entry
  by_cases same : sessionId = placement.sessionId
  · rw [same, Function.update_self] at entry
    cases entry
    rw [same]
    exact Or.inr configured
  · rw [Function.update_of_ne same] at entry
    exact entryConfigured_same entry

/-- A request that is written changes only the flag of the entry. -/
theorem entryConfigured_written {processId written : Bytes}
    (sessions : next.plane.resources.sessions =
      (state.plane.writeRequest processId written).resources.sessions)
    (sessionId : Bytes) (session : Session)
    (entry : next.plane.resources.sessions sessionId = some session) :
    entryConfigured state next sessionId session := by
  rw [sessions, Plane.sessions_writeRequest] at entry
  by_cases same : sessionId = written
  · rw [same, Function.update_self] at entry
    rcases Option.map_eq_some_iff.mp entry with ⟨old, before, rfl⟩
    rw [same]
    exact Or.inl ⟨old, before, rfl, rfl, rfl⟩
  · rw [Function.update_of_ne same] at entry
    exact entryConfigured_same entry

/-! ## What a step does to the records -/

/-- The call creates the session in this step: its numbers are recorded under
the identifier that the step generates. -/
def Creates (state : State) (event : Event) (sessionId : Bytes) (call : ClientCall) : Prop :=
  Exists fun index => Exists fun processName => event = .own (.client index sessionId) ∧
    state.clients[index]? = some (.recordDetails call processName)

theorem Consistent.typed_of_creates (consistent : Consistent state) {sessionId : Bytes}
    {call : ClientCall} (creates : Creates state event sessionId call) :
    Rejection.typed call = true := by
  rcases creates with ⟨index, processName, _, present⟩
  exact consistent.clients _ (List.mem_of_getElem? present)

/-- A step writes a record only under a new identifier, for the call that
creates the session. -/
theorem record_happens (happens : Happens state event next) (sessionId : Bytes) :
    next.plane.redis.get (.session sessionId) = state.plane.redis.get (.session sessionId) ∨
      (sessionId ∉ state.used ∧ sessionId ∈ next.used ∧
        Exists fun call => Creates state event sessionId call ∧
          next.plane.redis.get (.session sessionId) = some call.details) := by
  cases happens with
  | close other found => exact Or.inl rfl
  | own fits moved =>
      cases moved with
      | @recordDetails before after call processName uuid whole unused =>
          by_cases same : sessionId = uuid
          · subst same
            refine Or.inr ⟨unused, List.mem_cons_self, call, ?_, Function.update_self _ _ _⟩
            refine ⟨before.length, processName, rfl, ?_⟩
            rw [whole, List.getElem?_append_right (Nat.le_refl _), Nat.sub_self,
              List.getElem?_cons_zero]
          · have other : Key.session sessionId ≠ Key.session uuid :=
              fun equal => same (Key.session.inj equal)
            exact Or.inl (Function.update_of_ne other _ _)
      | allocate processName uuid unused =>
          have other : Key.session sessionId ≠ Key.process uuid := fun same => nomatch same
          exact Or.inl (Function.update_of_ne other (some processName) state.plane.redis.strings)
      | writeRequest whole held =>
          exact Or.inl (congrArg (fun redis : Redis => redis.get (.session sessionId))
            (Plane.redis_writeRequest _ _ _))
      | @sendPending processId other index process held found pending =>
          left
          rcases Plane.sendPending_cases state.plane processId other with ⟨_, sent⟩ | ⟨_, same⟩
          · simp only [sent, Plane.redis_writeRequest]
          · simp only [same]
      | markAlive whole => exact Or.inl (congrFun (Redis.sadd_strings _ _ _) _)
      | addSwapped whole stage => exact Or.inl (congrFun (Redis.sadd_strings _ _ _) _)
      | _ => exact Or.inl rfl

theorem used_happens (happens : Happens state event next) {id : Bytes} (known : id ∈ state.used) :
    id ∈ next.used := by
  cases happens with
  | own fits moved => exact used_step moved known
  | close sessionId found => exact known

theorem Consistent.keeps (consistent : Consistent state) (happens : Happens state event next) :
    Keeps state.plane.redis next.plane.redis := by
  intro sessionId details recorded
  rcases record_happens happens sessionId with same | ⟨unused, _⟩
  · rw [same]
    exact recorded
  · exact absurd (consistent.formed sessionId details recorded).1 unused

/-! ## One step -/

/-- The rule for one step: the records take care of themselves, and the entries,
clients and section of the next state are old ones or agree with the records. -/
theorem Consistent.step (consistent : Consistent state) (happens : Happens state event next)
    (entries : forall sessionId session, next.plane.resources.sessions sessionId = some session ->
      entryConfigured state next sessionId session)
    (clients : forall client, client ∈ next.clients ->
      client ∈ state.clients ∨ clientConfigured next.plane.redis client)
    (mutex : next.mutex = state.mutex ∨ sectionConfigured next.plane.redis next.mutex) :
    Consistent next := by
  have kept := consistent.keeps happens
  refine ⟨?_, ?_, ?_, ?_⟩
  · intro sessionId details recorded
    rcases record_happens happens sessionId with same | ⟨_, known, call, creates, written⟩
    · rw [same] at recorded
      have old := consistent.formed sessionId details recorded
      exact ⟨used_happens happens old.1, old.2⟩
    · exact ⟨known, call, consistent.typed_of_creates creates,
        Option.some.inj (recorded.symm.trans written)⟩
  · intro sessionId session entry
    rcases entries sessionId session entry with ⟨old, before, functions, memory, swapIn⟩ | configured
    · rw [← functions, ← memory, ← swapIn]
      exact (consistent.entries sessionId old before).mono kept
    · exact configured
  · intro client member
    rcases clients client member with old | new
    · exact clientConfigured_mono kept (consistent.clients client old)
    · exact new
  · rcases mutex with same | new
    · rw [same]
      exact sectionConfigured_mono kept consistent.mutex
    · exact new

theorem consistent_initial : Consistent State.initial := by
  refine ⟨?_, ?_, ?_, trivial⟩
  · intro sessionId details recorded
    cases recorded
  · intro sessionId session entry
    cases entry
  · intro client member
    cases member

/-- A client that reads a record goes on with the numbers of the record. -/
theorem quiet_configured (consistent : Consistent state) {client moved : Client}
    (configured : clientConfigured state.plane.redis client)
    (quiet : client.Quiet state.plane moved) : clientConfigured state.plane.redis moved := by
  cases quiet with
  | fresh call processName found => exact configured
  | details call processName details found =>
      rcases (consistent.formed call.sessionId details found).2 with ⟨creation, fits, rfl⟩
      refine ⟨creation, fits, found, (details_read fits call.maxFunctions).2, ?_⟩
      have memory := (details_read fits call.memorySize).1
      simp only [ClientCall.restored, sentSize, memory, if_true]
  | _ => trivial

theorem consistent_happens (consistent : Consistent state) (happens : Happens state event next) :
    Consistent next := by
  -- Clients and sections that hold a call or a placement pass it on unchanged, except for the
  -- client that reads a record and the one that writes it.
  have rule := consistent.step happens
  cases happens with
  | close sessionId found =>
      exact rule (fun _ _ => entryConfigured_same) (fun _ => Or.inl) (Or.inl rfl)
  | own fits moved =>
      cases moved with
      | call call =>
          refine rule (fun _ _ => entryConfigured_same) ?_ (Or.inl rfl)
          intro client member
          refine (List.mem_append.mp member).imp_right (fun last => ?_)
          rw [List.mem_singleton.mp last]
          exact fits
      | quiet whole quiet =>
          have moved := quiet_configured consistent (consistent.clients _ (mem_middle whole)) quiet
          exact rule (fun _ _ => entryConfigured_same)
            (forall_mem_middle whole (fun _ => Or.inl) (Or.inr moved)) (Or.inl rfl)
      | recordDetails whole unused =>
          have typed : Rejection.typed _ = true := consistent.clients _ (mem_middle whole)
          exact rule (fun _ _ => entryConfigured_same)
            (forall_mem_middle whole (fun _ => Or.inl)
              (Or.inr ⟨_, typed, Function.update_self _ _ _, rfl, rfl⟩)) (Or.inl rfl)
      | reserve whole found =>
          have configured := consistent.clients _ (mem_middle whole)
          refine rule ?_ (forall_mem_middle whole (fun _ => Or.inl) (Or.inr configured))
            (Or.inl rfl)
          intro sessionId session entry
          apply entryConfigured_same
          rw [← Resources.sessions_getFreeProcess]
          exact entry
      | allBusy whole found =>
          have configured := consistent.clients _ (mem_middle whole)
          exact rule (fun _ _ => entryConfigured_same)
            (forall_mem_middle whole (fun _ => Or.inl) (Or.inr configured)) (Or.inl rfl)
      | addExisting whole free present =>
          have configured := consistent.clients _ (mem_middle whole)
          exact rule (entryConfigured_added configured (Plane.sessions_addSession _ _ _))
            (forall_mem_middle whole (fun _ => Or.inl) (Or.inr trivial)) (Or.inr configured)
      | addProcess whole free unused =>
          have configured := consistent.clients _ (mem_middle whole)
          refine rule ?_ (forall_mem_middle whole (fun _ => Or.inl) (Or.inr trivial))
            (Or.inr configured)
          intro sessionId session entry
          apply entryConfigured_same
          rw [← Rejection.sessions_addProcess]
          exact entry
      | writeRequest whole held =>
          exact rule (entryConfigured_written rfl)
            (forall_mem_middle whole (fun _ => Or.inl) (Or.inr trivial)) (Or.inr trivial)
      | addSession whole held =>
          have configured := consistent.mutex
          rw [held] at configured
          exact rule (entryConfigured_added configured (Plane.sessions_addSession _ _ _))
            (fun _ => Or.inl) (Or.inr trivial)
      | takeSwapped whole found | markAlive whole =>
          exact rule (fun _ _ => entryConfigured_same)
            (forall_mem_middle whole (fun _ => Or.inl) (Or.inr trivial)) (Or.inl rfl)
      | allocateProcess whole held =>
          exact rule (fun _ _ => entryConfigured_same)
            (forall_mem_middle whole (fun _ => Or.inl) (Or.inr trivial)) (Or.inr trivial)
      | @sendPending processId sessionId index process held found pending =>
          refine rule ?_ (fun _ => Or.inl) (Or.inr trivial)
          rcases Plane.sendPending_cases state.plane processId sessionId with ⟨_, sent⟩ | ⟨_, same⟩
          · exact entryConfigured_written (congrArg (fun plane => plane.resources.sessions) sent)
          · intro other session entry
            apply entryConfigured_same
            rw [← same]
            exact entry
      | enterPending | poll =>
          exact rule (fun _ _ => entryConfigured_same) (fun _ => Or.inl) (Or.inr trivial)
      | _ => exact rule (fun _ _ => entryConfigured_same) (fun _ => Or.inl) (Or.inl rfl)

theorem consistent_of_run {trace : List (State × Event)} {final : State}
    (run : Run trace final) : Consistent final := by
  apply run.invariant Consistent consistent_initial
  intro source event target consistent stepped
  exact consistent_happens consistent (respond_happens stepped)

/-! ## Along a run -/

/-- The call created the session in some step of the run. -/
def Created (trace : List (State × Event)) (sessionId : Bytes) (call : ClientCall) : Prop :=
  Exists fun step => step ∈ trace ∧ Creates step.1 step.2 sessionId call

theorem Created.append {trace : List (State × Event)} {sessionId : Bytes} {call : ClientCall}
    (created : Created trace sessionId call) (more : List (State × Event)) :
    Created (trace ++ more) sessionId call := by
  rcases created with ⟨step, member, creates⟩
  exact ⟨step, List.mem_append.mpr (Or.inl member), creates⟩

theorem Created.last {trace : List (State × Event)} {sessionId : Bytes} {call : ClientCall}
    (creates : Creates state event sessionId call) :
    Created (trace ++ [(state, event)]) sessionId call :=
  ⟨(state, event), List.mem_append.mpr (Or.inr (List.mem_singleton.mpr rfl)), creates⟩

/-- A creation writes the record of its call. -/
theorem recorded_of_creates (consistent : Consistent state) {sessionId : Bytes} {call : ClientCall}
    (creates : Creates state event sessionId call) (stepped : respond state event = some next) :
    Rejection.typed call = true ∧ next.plane.redis.get (.session sessionId) = some call.details := by
  refine ⟨consistent.typed_of_creates creates, ?_⟩
  rcases creates with ⟨index, processName, rfl, present⟩
  simp only [respond, typed, step, present, clientStep, if_true] at stepped
  split at stepped
  · cases stepped
  · cases stepped
    exact Function.update_self _ _ _

/-- The record of a session is that of the call that created it, in every later
state. -/
theorem recorded_of_created {trace : List (State × Event)} {final : State} (run : Run trace final)
    {sessionId : Bytes} {call : ClientCall} (created : Created trace sessionId call) :
    Rejection.typed call = true ∧
      final.plane.redis.get (.session sessionId) = some call.details := by
  revert created
  apply run.traced_invariant (fun trace state => Created trace sessionId call ->
    Rejection.typed call = true ∧ state.plane.redis.get (.session sessionId) = some call.details)
  · rintro ⟨step, member, _⟩
    cases member
  · intro trace source event target earlier inductionHypothesis stepped
    have consistent := consistent_of_run earlier
    rintro ⟨step, member, creates⟩
    rcases List.mem_append.mp member with old | new
    · have known := inductionHypothesis ⟨step, old, creates⟩
      exact ⟨known.1, consistent.keeps (respond_happens stepped) _ _ known.2⟩
    · cases List.mem_singleton.mp new
      exact recorded_of_creates consistent creates stepped

/-- Every record was written by a creation. -/
theorem created_of_recorded {trace : List (State × Event)} {final : State} (run : Run trace final)
    (sessionId : Bytes) (recorded : final.plane.redis.get (.session sessionId) ≠ none) :
    Exists fun call => Created trace sessionId call := by
  revert recorded
  apply run.traced_invariant (fun trace state =>
    state.plane.redis.get (.session sessionId) ≠ none ->
      Exists fun call => Created trace sessionId call)
  · intro recorded
    exact False.elim (recorded rfl)
  · intro trace source event target earlier inductionHypothesis stepped recorded
    rcases record_happens (respond_happens stepped) sessionId with same | ⟨_, _, call, creates, _⟩
    · rw [same] at recorded
      rcases inductionHypothesis recorded with ⟨call, created⟩
      exact ⟨call, created.append _⟩
    · exact ⟨call, Created.last creates⟩

end Foreign
end System
end Praas
