import Praas.Runtime.MemoryOwnership
import Praas.Runtime.SessionArguments

namespace Praas
namespace Runtime
namespace Isolation

open Library
open ControlPlane (SessionRequest)
open SessionProgram (Options Printable opts declared)

/-!
# Sessions of one worker do not disturb each other

A worker starts a program for every session.  The program learns from its
arguments which shared memory to open, and all programs of the worker run at
the same time, while the worker starts further sessions and deletes those
whose programs have ended.

What a program does with its memory is not known; it is given by its steps on
its own variables and the bytes of its mapping.  A program reaches its memory
by a name.  The name of a session is neither unlinked nor created again before
its program has ended, so a write through the mapping is a write to the object
of that name.
-/

/-! ## Programs -/

variable {Input Local Step : Type}

/-- The program of a session after it has opened its memory: its first
variables, for its options and for what it will receive, its steps, and the
variables with which it may end.  A mapping is not left, so its length does not
change. -/
structure Program (Input Local Step : Type) where
  start : Options -> Input -> Local
  step : Local -> Bytes -> Step -> Option (Local × Bytes)
  ends : Local -> Bool
  sized : forall current memory action next, step current memory action = some next ->
    next.2.length = memory.length

/-- The program on a memory that nothing else uses. -/
def Program.alone (program : Program Input Local Step) (options : Options) (input : Input)
    (memory : Bytes) : TransitionSystem (Local × Bytes) Step where
  initial := (program.start options input, memory)
  step state action := program.step state.1 state.2 action

/-- The program alone can come from this memory to these variables and bytes. -/
def Program.Reaches (program : Program Input Local Step) (options : Options) (input : Input)
    (memory : Bytes) (current : Local) (left : Bytes) : Prop :=
  (program.alone options input memory).Leads (program.alone options input memory).initial
    (current, left)

theorem Program.Reaches.step {program : Program Input Local Step} {options : Options}
    {input : Input} {memory : Bytes} {current : Local} {left : Bytes}
    (reaches : program.Reaches options input memory current left) {action : Step}
    {next : Local × Bytes} (stepped : program.step current left action = some next) :
    program.Reaches options input memory next.1 next.2 := by
  rcases reaches with ⟨trace, run⟩
  exact ⟨_, run.extend stepped⟩

/-! ## The machine of a worker -/

/-- The program of the sessions, its option parser, and the addresses that the
worker passes on. -/
structure Machine (Input Local Step : Type) where
  program : Program Input Local Step
  parser : OptionParser
  controllerAddress : Bytes
  holePuncherAddress : Bytes

/-- A program at work: its mapping, what it receives, and its variables.  The
bytes of its memory are in the object that it has mapped, and not in it. -/
structure Work (Input Local : Type) where
  memory : SharedMemory
  input : Input
  current : Local

/-- A program that is started has not opened its memory yet; one that has ended
may have failed to. -/
inductive Phase (Input Local : Type)
  | launched
  | working (work : Work Input Local)
  | ended (last : Option (Work Input Local))

def Phase.last : Phase Input Local -> Option (Work Input Local)
  | .launched => none
  | .working work => some work
  | .ended last => last

/-- A program may fail before it opens its memory; afterwards it ends where it
can. -/
def Program.mayEnd (program : Program Input Local Step) : Phase Input Local -> Bool
  | .launched => true
  | .working work => program.ends work.current
  | .ended _ => false

/-- The program of a session, and what its memory held when it was created. -/
structure SessionProcess (Input Local : Type) where
  pid : Int
  arguments : List Bytes
  created : Bytes
  phase : Phase Input Local

/-- The worker with its memory objects, and the programs that it has started and
not yet waited for. -/
structure State (Input Local : Type) where
  owned : Ownership.State
  processes : List (SessionProcess Input Local)

/-- A session request; the start of a program, one of its steps and its end;
and `session_deleted` for a program that has ended. -/
inductive Action (Input Step : Type)
  | allocate (request : SessionRequest) (calls : Syscalls)
  | start (index : Nat) (shmOpen : Int) (mmap : Bool) (input : Input)
  | work (index : Nat) (action : Step)
  | exit (index : Nat)
  | delete (index : Nat) (putObject : Bool)

/-- The bytes of a mapping: those of the object up to its size. -/
def view (objects : SharedObjects) (memory : SharedMemory) : Bytes :=
  (memory.image objects).take memory.size.toNat

/-- The objects after bytes have been written through a mapping. -/
def write (objects : SharedObjects) (memory : SharedMemory) (bytes : Bytes) : SharedObjects :=
  Function.update objects memory.path
    (some (bytes ++ (memory.image objects).drop memory.size.toNat))

namespace State

def setPhase (state : State Input Local) (index : Nat) (process : SessionProcess Input Local)
    (phase : Phase Input Local) : State Input Local :=
  { state with processes := state.processes.set index { process with phase := phase } }

def setObjects (state : State Input Local) (objects : SharedObjects) : State Input Local :=
  { state with owned := { state.owned with
    worker := { state.owned.worker with objects := objects } } }

end State

namespace Machine

variable (machine : Machine Input Local Step)

def launch (owned : Ownership.State) (request : SessionRequest) (calls : Syscalls) :
    List (SessionProcess Input Local) :=
  let allocated := owned.worker.allocateSession owned.store request calls
  if allocated.1 = .success ∧ 0 < calls.vfork then
    allocated.2.sessions.getLast?.toList.map (fun entry =>
      ⟨calls.vfork, entry.arguments machine.controllerAddress machine.holePuncherAddress,
        (allocated.2.objects entry.memory.path).getD [], .launched⟩)
  else []

/-- `main` of `runtime_session` up to the opening of the memory in
`Session::start`. -/
def startProgram (objects : SharedObjects) (arguments : List Bytes) (shmOpen : Int) (mmap : Bool)
    (input : Input) : Phase Input Local :=
  let options := opts machine.parser arguments
  match SharedMemory.openExisting objects options.sessionId options.sharedMemorySize shmOpen mmap
    with
  | none => .ended none
  | some memory => .working ⟨memory, input, machine.program.start options input⟩

def step (state : State Input Local) : Action Input Step -> Option (State Input Local)
  | .allocate request calls =>
      if NulFree request.sessionId ∧ IsSigned 4 request.maxFunctions ∧
          Ownership.validFork state.owned.worker calls then
        some ⟨state.owned.allocate request calls,
          state.processes ++ machine.launch state.owned request calls⟩
      else none
  | .start index shmOpen mmap input =>
      state.processes[index]?.bind fun process =>
        match process.phase with
        | .launched => some (state.setPhase index process
            (machine.startProgram state.owned.worker.objects process.arguments shmOpen mmap input))
        | _ => none
  | .work index action =>
      state.processes[index]?.bind fun process =>
        match process.phase with
        | .working work =>
            (machine.program.step work.current (view state.owned.worker.objects work.memory)
              action).map fun next =>
                (state.setPhase index process (.working { work with current := next.1 })).setObjects
                  (write state.owned.worker.objects work.memory next.2)
        | _ => none
  | .exit index =>
      state.processes[index]?.bind fun process =>
        if machine.program.mayEnd process.phase = true then
          some (state.setPhase index process (.ended process.phase.last))
        else none
  | .delete index putObject =>
      state.processes[index]?.bind fun process =>
        match process.phase with
        | .ended _ => some ⟨state.owned.delete process.pid putObject,
            state.processes.eraseIdx index⟩
        | _ => none

def system (maxSessions : Int) (swapper : S3Swapper) (store : ObjectStore) :
    TransitionSystem (State Input Local) (Action Input Step) where
  initial := ⟨⟨Worker.start maxSessions swapper, store, []⟩, []⟩
  step := machine.step

end Machine

/-! ## What a process has done -/

/-- What the memory of a session holds: what it was created with, or what its
program alone makes of that. -/
def Explains (machine : Machine Input Local Step) (process : SessionProcess Input Local)
    (contents : Bytes) : Option (Work Input Local) -> Prop
  | none => contents = process.created
  | some work => machine.program.Reaches (opts machine.parser process.arguments) work.input
      process.created work.current contents

/-- A process belongs to an entry of the worker and works on its memory, which
holds what the program alone would have made of the bytes at its creation. -/
structure Serves (machine : Machine Input Local Step) (owned : Ownership.State)
    (process : SessionProcess Input Local) (entry : SessionFork) (contents : Bytes) : Prop where
  listed : entry ∈ owned.worker.sessions
  child : entry.childPid = process.pid
  arguments : process.arguments =
    entry.arguments machine.controllerAddress machine.holePuncherAddress
  object : owned.worker.objects (SharedMemory.pathOf entry.sessionId) = some contents
  sized : contents.length = entry.memory.size.toNat
  uses : forall work, process.phase.last = some work ->
    work.memory.path = SharedMemory.pathOf entry.sessionId ∧ work.memory.mapped = true ∧
      work.memory.size = entry.memory.size
  explained : Explains machine process contents process.phase.last

/-- What holds in every state reached: each process that was not waited for
serves an entry of the worker, each its own, and the names of the memories are
different. -/
structure Sound (machine : Machine Input Local Step) (state : State Input Local) : Prop where
  owners : Ownership.Owners state.owned
  mapped : state.owned.worker.Mapped
  printable : forall entry, entry ∈ state.owned.worker.sessions -> Printable entry
  pids : (state.processes.map SessionProcess.pid).Nodup
  positive : forall process, process ∈ state.processes -> 0 < process.pid
  served : forall process, process ∈ state.processes ->
    Exists fun entry => Exists fun contents => Serves machine state.owned process entry contents

/-- An entry that stays, with its object, serves as before. -/
theorem Serves.frame {machine : Machine Input Local Step} {owned next : Ownership.State}
    {process : SessionProcess Input Local} {entry : SessionFork} {contents : Bytes}
    (serves : Serves machine owned process entry contents)
    (listed : entry ∈ next.worker.sessions)
    (object : next.worker.objects (SharedMemory.pathOf entry.sessionId) =
      owned.worker.objects (SharedMemory.pathOf entry.sessionId)) :
    Serves machine next process entry contents :=
  { serves with listed := listed, object := object.trans serves.object }

theorem name_ne {owned : Ownership.State} (owners : Ownership.Owners owned)
    {first second : SessionFork} (listedFirst : first ∈ owned.worker.sessions)
    (listedSecond : second ∈ owned.worker.sessions) (different : first.childPid ≠ second.childPid) :
    SharedMemory.pathOf first.sessionId ≠ SharedMemory.pathOf second.sessionId := by
  intro same
  have entries := List.inj_on_of_nodup_map owners.ids listedFirst listedSecond
    (SharedMemory.pathOf_injective same)
  exact different (congrArg SessionFork.childPid entries)

/-! ## Mappings -/

theorem openExisting_some {objects : SharedObjects} {sessionId : Bytes} {size shmOpen : Int}
    {mmap : Bool} {memory : SharedMemory}
    (opened : SharedMemory.openExisting objects sessionId size shmOpen mmap = some memory) :
    memory.path = SharedMemory.pathOf sessionId ∧ memory.mapped = true ∧ memory.size = size := by
  unfold SharedMemory.openExisting at opened
  split at opened
  · cases opened
  split at opened
  · cases opened
  · cases opened
    exact ⟨rfl, rfl, rfl⟩

/-- A mapping of the size of its object shows all of it, and bytes that are
written through it are the whole object. -/
theorem view_write {objects : SharedObjects} {memory : SharedMemory} {contents : Bytes}
    (mapped : memory.mapped = true) (object : objects memory.path = some contents)
    (sized : contents.length = memory.size.toNat) :
    view objects memory = contents ∧ forall bytes, write objects memory bytes =
      Function.update objects memory.path (some bytes) := by
  have image : memory.image objects = contents := by
    rw [SharedMemory.image, if_pos mapped, object, Option.getD_some]
  constructor
  · rw [view, image, List.take_of_length_le (Nat.le_of_eq sized)]
  · intro bytes
    rw [write, image, List.drop_of_length_le (Nat.le_of_eq sized), List.append_nil]

/-! ## A new session -/

/-- A request that succeeds appends the entry of its session, with the memory
that `create` has made. -/
theorem allocateSession_success {worker : Worker} {store : ObjectStore} {request : SessionRequest}
    {calls : Syscalls} (success : (worker.allocateSession store request calls).1 = .success) :
    Exists fun objects => Exists fun memory =>
      SharedMemory.create worker.objects worker.swapper store request.sessionId request.memorySize
        calls = (objects, some memory) ∧
      (worker.allocateSession store request calls).2 = ⟨worker.maxSessions,
        worker.sessions ++ [⟨memory, request.sessionId, request.maxFunctions, request.memorySize,
          calls.vfork⟩], objects, worker.swapper⟩ := by
  unfold Worker.allocateSession Worker.fork at success ⊢
  split at success
  · cases success
  split at success
  · cases success
  rename_i room unlisted
  rw [if_neg room, if_neg unlisted]
  cases created : SharedMemory.create worker.objects worker.swapper store request.sessionId
      request.memorySize calls with
  | mk objects result =>
      cases result with
      | none => simp only [SessionFork.new, created, Bool.false_eq_true, if_false, reduceCtorEq]
          at success
      | some memory => exact ⟨objects, memory, rfl, by simp only [SessionFork.new, created]⟩

theorem mem_allocateSession {worker : Worker} {store : ObjectStore} {request : SessionRequest}
    {calls : Syscalls} {entry : SessionFork}
    (member : entry ∈ (worker.allocateSession store request calls).2.sessions) :
    entry ∈ worker.sessions ∨ (entry.sessionId = request.sessionId ∧
      entry.maxFunctions = request.maxFunctions ∧ IsSigned 4 entry.memory.size) := by
  unfold Worker.allocateSession at member
  split at member
  · exact Or.inl member
  split at member
  · exact Or.inl member
  · have creation := SharedMemory.create_creation worker.objects worker.swapper store
      request.sessionId request.memorySize calls
    rcases List.mem_append.mp member with old | new
    · exact Or.inl old
    · have unset : IsSigned 4 SharedMemory.empty.size := by decide
      rw [List.mem_singleton.mp new]
      unfold Worker.fork SessionFork.new
      dsimp only
      generalize SharedMemory.create worker.objects worker.swapper store request.sessionId
        request.memorySize calls = result at creation
      cases creation with
      | closed | unmapped | missing => exact Or.inr ⟨rfl, rfl, unset⟩
      | loaded | fresh => exact Or.inr ⟨rfl, rfl, int32_signed _⟩

/-- A request leaves the entries of other sessions and their objects. -/
theorem allocate_keeps {owned : Ownership.State} {entry : SessionFork}
    (listed : entry ∈ owned.worker.sessions) (request : SessionRequest) (calls : Syscalls) :
    entry ∈ (owned.allocate request calls).worker.sessions ∧
      (owned.allocate request calls).worker.objects (SharedMemory.pathOf entry.sessionId) =
        owned.worker.objects (SharedMemory.pathOf entry.sessionId) := by
  have other : owned.worker.refuses request = false ->
      SharedMemory.pathOf entry.sessionId ≠ SharedMemory.pathOf request.sessionId := by
    intro accepted same
    rw [Worker.refuses, Bool.or_eq_false_iff] at accepted
    exact Bool.eq_false_iff.mp accepted.2 (List.any_eq_true.mpr
      ⟨entry, listed, decide_eq_true (SharedMemory.pathOf_injective same)⟩)
  unfold Ownership.State.allocate
  have allocated := Ownership.allocateSession_allocated owned.worker owned.store request calls
  generalize owned.worker.allocateSession owned.store request calls = result at allocated
  cases allocated with
  | refused => exact ⟨listed, rfl⟩
  | failed accepted _ others | started accepted others =>
      exact ⟨List.mem_append_left _ listed, others _ (other accepted)⟩

/-- The program that a request starts serves the new entry. -/
theorem launch_serves {machine : Machine Input Local Step} {owned : Ownership.State}
    {request : SessionRequest} {calls : Syscalls} {process : SessionProcess Input Local}
    (launched : process ∈ machine.launch owned request calls) :
    process.pid = calls.vfork ∧ 0 < calls.vfork ∧ Exists fun entry => Exists fun contents =>
      Serves machine (owned.allocate request calls) process entry contents := by
  unfold Machine.launch at launched
  dsimp only at launched
  split at launched
  · rename_i started
    rcases allocateSession_success started.1 with ⟨objects, memory, created, allocated⟩
    have holds := Ownership.create_holds created request.maxFunctions request.memorySize calls.vfork
    rcases Option.isSome_iff_exists.mp holds.linked with ⟨contents, linked⟩
    have path := (SharedMemory.create_mapped created).1
    have length := (SharedMemory.create_mapped created).2
    dsimp only at linked
    rw [allocated, List.getLast?_concat, Option.toList_some, List.map_singleton,
      List.mem_singleton] at launched
    subst launched
    rw [← path, linked, Option.getD_some] at length
    refine ⟨rfl, started.2, ⟨memory, request.sessionId, request.maxFunctions, request.memorySize,
      calls.vfork⟩, contents, ?_, rfl, rfl, ?_, length, ?_, ?_⟩
    · unfold Ownership.State.allocate
      dsimp only
      rw [allocated]
      exact List.mem_append_right _ List.mem_cons_self
    · unfold Ownership.State.allocate
      dsimp only
      rw [allocated, ← path]
      exact linked
    · intro work working
      cases working
    · change contents = (objects memory.path).getD []
      rw [linked, Option.getD_some]
  · cases launched

theorem sound_allocate {machine : Machine Input Local Step} {state : State Input Local}
    (sound : Sound machine state) {request : SessionRequest} {calls : Syscalls}
    (free : NulFree request.sessionId) (functions : IsSigned 4 request.maxFunctions)
    (valid : Ownership.validFork state.owned.worker calls = true) :
    Sound machine ⟨state.owned.allocate request calls,
      state.processes ++ machine.launch state.owned request calls⟩ := by
  refine ⟨Ownership.owners_allocate sound.owners valid request,
    Worker.mapped_allocateSession sound.mapped _ _ _, ?_, ?_, ?_, ?_⟩
  · intro entry member
    rcases mem_allocateSession member with old | ⟨named, limit, size⟩
    · exact sound.printable entry old
    · exact ⟨named ▸ free, size, limit ▸ functions⟩
  · rw [List.map_append, List.nodup_append]
    refine ⟨sound.pids, ?_, ?_⟩
    · unfold Machine.launch
      dsimp only
      split
      · generalize (state.owned.worker.allocateSession state.owned.store request
          calls).2.sessions.getLast? = last
        cases last with
        | none => exact List.nodup_nil
        | some entry => exact List.nodup_singleton _
      · exact List.nodup_nil
    · -- the new identifier belongs to no entry, and every process has one
      intro pid old other new same
      rcases List.mem_map.mp old with ⟨process, present, rfl⟩
      rcases List.mem_map.mp new with ⟨started, launched, rfl⟩
      rcases launch_serves launched with ⟨fresh, positive, _⟩
      rcases sound.served process present with ⟨entry, contents, serves⟩
      rcases of_decide_eq_true valid with failed | ⟨_, unused⟩
      · omega
      · refine unused (List.mem_map.mpr ⟨⟨entry.childPid, entry.sessionId⟩, mem_children.mpr
          ⟨entry, serves.listed, ?_, rfl, rfl⟩, ?_⟩)
        · rw [serves.child]
          exact sound.positive process present
        · exact serves.child.trans (same.trans fresh)
  · intro process member
    rcases List.mem_append.mp member with old | new
    · exact sound.positive process old
    · rcases launch_serves new with ⟨fresh, positive, _⟩
      exact fresh ▸ positive
  · intro process member
    rcases List.mem_append.mp member with old | new
    · rcases sound.served process old with ⟨entry, contents, serves⟩
      have keeps := allocate_keeps serves.listed request calls
      exact ⟨entry, contents, serves.frame keeps.1 keeps.2⟩
    · exact (launch_serves new).2.2

/-! ## A step of a program -/

/-- The processes other than the one at an index have other identifiers. -/
theorem pid_ne {processes before after : List (SessionProcess Input Local)}
    {process other : SessionProcess Input Local}
    (listed : processes = before ++ process :: after)
    (distinct : (processes.map SessionProcess.pid).Nodup) (member : other ∈ before ++ after) :
    other.pid ≠ process.pid := by
  rw [listed, List.map_append, List.map_cons] at distinct
  have single := (List.nodup_cons.mp (List.nodup_middle.mp distinct)).1
  rw [← List.map_append] at single
  intro same
  exact single (same ▸ List.mem_map_of_mem member)

/-- A process in another phase, and its object with other contents, disturb no
other process. -/
theorem sound_change {machine : Machine Input Local Step} {state : State Input Local}
    (sound : Sound machine state) {index : Nat} {process : SessionProcess Input Local}
    (present : state.processes[index]? = some process) {phase : Phase Input Local}
    (objects : SharedObjects) (entry : SessionFork) (contents : Bytes)
    (owners : Ownership.Owners (state.setObjects objects).owned)
    (mapped : (state.setObjects objects).owned.worker.Mapped)
    (others : forall path, path ≠ SharedMemory.pathOf entry.sessionId ->
      objects path = state.owned.worker.objects path)
    (serves : Serves machine (state.setObjects objects).owned { process with phase := phase }
      entry contents) :
    Sound machine ((state.setPhase index process phase).setObjects objects) := by
  rcases split_of_getElem present with ⟨before, after, listed, _, replaced⟩
  have processes : ((state.setPhase index process phase).setObjects objects).processes =
      before ++ { process with phase := phase } :: after := replaced _
  refine ⟨owners, mapped, sound.printable, ?_, ?_, ?_⟩
  · have pids := sound.pids
    rw [listed, List.map_append, List.map_cons] at pids
    rw [processes, List.map_append, List.map_cons]
    exact pids
  · rw [processes]
    exact forall_mem_middle listed sound.positive (sound.positive process (mem_middle listed))
  · rw [processes]
    intro other member
    rcases List.mem_cons.mp (List.perm_middle.subset member) with rfl | around
    · exact ⟨entry, contents, serves⟩
    · rcases sound.served other (mem_around listed around) with ⟨own, bytes, servesOther⟩
      have apart := pid_ne listed sound.pids around
      have different : own.childPid ≠ entry.childPid := by
        rw [servesOther.child, serves.child]
        exact apart
      have name := name_ne sound.owners servesOther.listed serves.listed different
      exact ⟨own, bytes, servesOther.frame servesOther.listed (others _ name)⟩

theorem sound_phase {machine : Machine Input Local Step} {state : State Input Local}
    (sound : Sound machine state) {index : Nat} {process : SessionProcess Input Local}
    (present : state.processes[index]? = some process) {phase : Phase Input Local}
    (entry : SessionFork) (contents : Bytes)
    (serves : Serves machine state.owned { process with phase := phase } entry contents) :
    Sound machine (state.setPhase index process phase) :=
  sound_change sound present state.owned.worker.objects entry contents sound.owners sound.mapped
    (fun _ _ => rfl) serves

theorem sound_start {machine : Machine Input Local Step}
    (takesNext : declared.TakesNext machine.parser) {state : State Input Local}
    (sound : Sound machine state) {index : Nat}
    {process : SessionProcess Input Local} (present : state.processes[index]? = some process)
    (launched : process.phase = .launched) (shmOpen : Int) (mmap : Bool) (input : Input) :
    Sound machine (state.setPhase index process
      (machine.startProgram state.owned.worker.objects process.arguments shmOpen mmap input)) := by
  rcases sound.served process (List.mem_of_getElem? present) with ⟨entry, contents, serves⟩
  have read := SessionProgram.opts_arguments takesNext (sound.printable entry serves.listed)
    machine.controllerAddress machine.holePuncherAddress
  rw [← serves.arguments] at read
  have created := serves.explained
  rw [launched] at created
  refine sound_phase sound present entry contents
    ⟨serves.listed, serves.child, serves.arguments, serves.object, serves.sized, ?_, ?_⟩
  · intro work working
    unfold Machine.startProgram at working
    dsimp only at working
    split at working
    · cases working
    · rename_i memory opened
      cases working
      rcases openExisting_some opened with ⟨path, mapped, size⟩
      exact ⟨path.trans (congrArg _ read.1), mapped, size.trans read.2.1⟩
  · unfold Machine.startProgram
    dsimp only
    split
    · exact created
    · rw [show contents = process.created from created]
      exact TransitionSystem.Leads.refl _

theorem sound_work {machine : Machine Input Local Step} {state : State Input Local}
    (sound : Sound machine state) {index : Nat} {process : SessionProcess Input Local}
    (present : state.processes[index]? = some process) {work : Work Input Local}
    (working : process.phase = .working work) {action : Step} {next : Local × Bytes}
    (stepped : machine.program.step work.current (view state.owned.worker.objects work.memory)
      action = some next) :
    Sound machine ((state.setPhase index process
      (.working { work with current := next.1 })).setObjects
        (write state.owned.worker.objects work.memory next.2)) := by
  rcases sound.served process (List.mem_of_getElem? present) with ⟨entry, contents, serves⟩
  have last : process.phase.last = some work := by
    rw [working]
    rfl
  rcases serves.uses work last with ⟨path, mapped, size⟩
  have object := serves.object
  have explained := serves.explained
  rw [last] at explained
  rw [← path] at object
  rcases view_write mapped object (serves.sized.trans (congrArg Int.toNat size.symm)) with
    ⟨seen, written⟩
  rw [seen] at stepped
  have length := machine.program.sized _ _ _ _ stepped
  rw [written, path]
  refine sound_change sound present _ entry next.2 ?_ ?_ ?_
    ⟨serves.listed, serves.child, serves.arguments, ?_, length.trans serves.sized, ?_, ?_⟩
  · refine ⟨sound.owners.ids, sound.owners.pids, ?_, sound.owners.forked⟩
    intro other listed isMapped
    rcases sound.owners.held other listed isMapped with ⟨holds, present⟩
    refine ⟨⟨holds.mapped, holds.owned, holds.descriptor, holds.path, ?_⟩, present⟩
    change (Function.update state.owned.worker.objects (SharedMemory.pathOf entry.sessionId)
      (some next.2) other.memory.path).isSome = true
    by_cases same : other.memory.path = SharedMemory.pathOf entry.sessionId
    · rw [same, Function.update_self]
      rfl
    · rw [Function.update_of_ne same]
      exact holds.linked
  · apply Worker.mapped_touch sound.mapped
    rw [serves.object, Option.map_some, length]
  · intro other different
    exact Function.update_of_ne different _ _
  · exact Function.update_self _ _ _
  · intro other same
    cases same
    exact ⟨path, mapped, size⟩
  · exact explained.step stepped

/-! ## The end of a program -/

theorem mem_delete {owned : Ownership.State} {pid : Int} {putObject : Bool} {entry : SessionFork}
    (member : entry ∈ (owned.delete pid putObject).worker.sessions) :
    entry ∈ owned.worker.sessions := by
  cases found : owned.worker.deletedEntry pid with
  | none =>
      rw [Ownership.delete_none found] at member
      exact member
  | some deleted =>
      simp only [Ownership.State.delete, Worker.sessionDeleted, found, eraseFork_kept] at member
      exact List.mem_of_mem_eraseP member

/-- A deletion leaves the other entries and their objects. -/
theorem delete_keeps {owned : Ownership.State} (owners : Ownership.Owners owned)
    {entry other : SessionFork} (listed : entry ∈ owned.worker.sessions)
    (positive : 0 < entry.childPid) (listedOther : other ∈ owned.worker.sessions)
    (different : other.childPid ≠ entry.childPid) (putObject : Bool) :
    other ∈ (owned.delete entry.childPid putObject).worker.sessions ∧
      (owned.delete entry.childPid putObject).worker.objects
        (SharedMemory.pathOf other.sessionId) =
          owned.worker.objects (SharedMemory.pathOf other.sessionId) := by
  rcases List.append_of_mem listed with ⟨before, after, around⟩
  have deletes := Ownership.delete_found around rfl (owners.earlier around positive) putObject
  have holds := (owners.held entry listed (owners.forked entry listed positive)).1
  constructor
  · rw [around] at listedOther
    rw [deletes.sessions]
    rcases List.mem_cons.mp (List.perm_middle.subset listedOther) with rfl | remains
    · exact False.elim (different rfl)
    · exact remains
  · by_cases none : after = []
    · rw [(deletes.last none).1, SharedMemory.destroy, if_pos ⟨holds.owned, holds.descriptor⟩,
        holds.path, Function.update_of_ne (name_ne owners listedOther listed different)]
    · rw [(deletes.middle none).1]

theorem sound_delete {machine : Machine Input Local Step} {state : State Input Local}
    (sound : Sound machine state) {index : Nat} {process : SessionProcess Input Local}
    (present : state.processes[index]? = some process) (putObject : Bool) :
    Sound machine ⟨state.owned.delete process.pid putObject, state.processes.eraseIdx index⟩ := by
  have inside := List.mem_of_getElem? present
  have positive := sound.positive process inside
  rcases sound.served process inside with ⟨entry, contents, serves⟩
  rcases split_of_getElem present with ⟨before, after, listed, rfl, _⟩
  have erased := eraseIdx_middle listed
  have subset : before ++ after ⊆ state.processes := fun _ member => mem_around listed member
  refine ⟨Ownership.owners_delete sound.owners positive putObject,
    Worker.mapped_sessionDeleted sound.mapped _ _ _, ?_, ?_, ?_, ?_⟩
  · exact fun other member => sound.printable other (mem_delete member)
  · rw [erased]
    refine (List.Sublist.map _ ?_).nodup sound.pids
    rw [listed]
    exact (List.sublist_cons_self process after).append_left before
  · rw [erased]
    exact fun other member => sound.positive other (subset member)
  · rw [erased]
    intro other member
    rcases sound.served other (subset member) with ⟨own, bytes, servesOther⟩
    have apart := pid_ne listed sound.pids member
    rw [← servesOther.child, ← serves.child] at apart
    have keeps := delete_keeps sound.owners serves.listed (serves.child ▸ positive)
      servesOther.listed apart putObject
    rw [serves.child] at keeps
    exact ⟨own, bytes, servesOther.frame keeps.1 keeps.2⟩

/-! ## Runs -/

theorem sound_step {machine : Machine Input Local Step}
    (takesNext : declared.TakesNext machine.parser) {state next : State Input Local}
    (sound : Sound machine state) {action : Action Input Step}
    (stepped : machine.step state action = some next) : Sound machine next := by
  cases action with
  | allocate request calls =>
      simp only [Machine.step] at stepped
      split at stepped
      · rename_i valid
        cases stepped
        exact sound_allocate sound valid.1 valid.2.1 valid.2.2
      · cases stepped
  | start index shmOpen mmap input =>
      rcases Option.bind_eq_some_iff.mp stepped with ⟨process, present, started⟩
      split at started
      · rename_i launched
        cases started
        exact sound_start takesNext sound present launched shmOpen mmap input
      · cases started
  | work index action =>
      rcases Option.bind_eq_some_iff.mp stepped with ⟨process, present, worked⟩
      split at worked
      · rename_i work working
        rcases Option.map_eq_some_iff.mp worked with ⟨result, made, rfl⟩
        exact sound_work sound present working made
      · cases worked
  | exit index =>
      rcases Option.bind_eq_some_iff.mp stepped with ⟨process, present, exited⟩
      split at exited
      · cases exited
        rcases sound.served process (List.mem_of_getElem? present) with
          ⟨entry, contents, serves⟩
        exact sound_phase sound present entry contents ⟨serves.listed, serves.child,
          serves.arguments, serves.object, serves.sized, serves.uses, serves.explained⟩
      · cases exited
  | delete index putObject =>
      rcases Option.bind_eq_some_iff.mp stepped with ⟨process, present, deleted⟩
      split at deleted
      · cases deleted
        exact sound_delete sound present putObject
      · cases deleted

theorem sound_of_run {machine : Machine Input Local Step}
    (takesNext : declared.TakesNext machine.parser) {maxSessions : Int} {swapper : S3Swapper}
    {store : ObjectStore} {trace : List (State Input Local × Action Input Step)}
    {final : State Input Local}
    (run : TransitionSystem.Run (machine.system maxSessions swapper store)
      (machine.system maxSessions swapper store).initial trace final) : Sound machine final := by
  apply run.invariant
  · have owners : Ownership.Owners ⟨Worker.start maxSessions swapper, store, []⟩ :=
      Ownership.owners_of_run .start
    exact ⟨owners, Worker.mapped_start maxSessions swapper,
      fun _ member => False.elim (List.not_mem_nil member), List.nodup_nil,
      fun _ member => False.elim (List.not_mem_nil member),
      fun _ member => False.elim (List.not_mem_nil member)⟩
  · intro source action target sound stepped
    exact sound_step takesNext sound stepped

/-- The bytes that are stored when the session of a process is deleted. -/
theorem store_delete {machine : Machine Input Local Step} {state : State Input Local}
    (sound : Sound machine state) {process : SessionProcess Input Local}
    (member : process ∈ state.processes) {entry : SessionFork} {contents : Bytes}
    (serves : Serves machine state.owned process entry contents)
    (enabled : state.owned.worker.swapper.enabled = true)
    (client : state.owned.worker.swapper.client = true) :
    (state.owned.delete process.pid true).store = Function.update state.owned.store
      (state.owned.worker.swapper.bucket, entry.sessionId) (some contents) := by
  have positive : 0 < entry.childPid := serves.child ▸ sound.positive process member
  rcases deletedEntry_of_child sound.owners.pids (mem_children.mpr
    ⟨entry, serves.listed, positive, rfl, rfl⟩ :
      (⟨entry.childPid, entry.sessionId⟩ : Child) ∈ children state.owned.worker.sessions) with
    ⟨first, found, forked, _, named⟩
  have isMapped := sound.owners.forked first (List.mem_of_find?_eq_some found) forked
  have path := (sound.mapped first (List.mem_of_find?_eq_some found) isMapped).1
  dsimp only at found named
  rw [serves.child] at found
  have image : first.memory.image state.owned.worker.objects = contents := by
    rw [SharedMemory.image, if_pos isMapped, path, named, serves.object, Option.getD_some]
  have stored := Worker.store_sessionDeleted sound.mapped found state.owned.store enabled client
  rw [named, image] at stored
  exact stored

/-- The sessions of a worker are isolated.  However the programs of its
sessions, new requests and deletions interleave, the memory of every session
that has a program is whole and holds what this program, running alone from the
memory it was created with, makes of it.  These bytes and no others are stored
when the session is deleted with swapping enabled. -/
theorem sessions_isolated {machine : Machine Input Local Step}
    (takesNext : declared.TakesNext machine.parser) {maxSessions : Int} {swapper : S3Swapper}
    {store : ObjectStore} {trace : List (State Input Local × Action Input Step)}
    {final : State Input Local}
    (run : TransitionSystem.Run (machine.system maxSessions swapper store)
      (machine.system maxSessions swapper store).initial trace final) :
    forall process, process ∈ final.processes -> Exists fun entry => Exists fun contents =>
      Serves machine final.owned process entry contents ∧
        (final.owned.worker.swapper.enabled = true -> final.owned.worker.swapper.client = true ->
          (final.owned.delete process.pid true).store = Function.update final.owned.store
            (final.owned.worker.swapper.bucket, entry.sessionId) (some contents)) := by
  have sound := sound_of_run takesNext run
  intro process member
  rcases sound.served process member with ⟨entry, contents, serves⟩
  exact ⟨entry, contents, serves, store_delete sound member serves⟩

/-- A program that writes bytes to the start of its memory. -/
def stampProgram : Program Unit Unit UInt8 where
  start _ _ := ()
  step _ memory byte := some ((), memory.set 0 byte)
  ends _ := true
  sized := by
    intro _ memory byte next stepped
    cases stepped
    exact List.length_set

def stampMachine : Machine Unit Unit UInt8 :=
  ⟨stampProgram, scanningParser, ascii "10.0.0.1:8080", ascii "puncher"⟩

/-- Two sessions write in turns; the first one ends. -/
def inTurns : List (Action Unit UInt8) :=
  [.allocate ⟨ascii "AAAAAAAAAAAAAAAA", 1, 1⟩ ⟨3, true, true, true, 100⟩,
    .allocate ⟨ascii "BBBBBBBBBBBBBBBB", 1, 1⟩ ⟨4, true, true, true, 101⟩,
    .start 1 3 true (), .start 0 3 true (), .work 0 7, .work 1 9, .work 0 8, .exit 0, .work 1 6]

abbrev stampWorker : TransitionSystem (State Unit Unit) (Action Unit UInt8) :=
  stampMachine.system 4 (S3Swapper.enableSwapping none) (fun _ => none)

/-- The memory of the first session is stored with its own last byte. -/
theorem sessions_isolated_in_turns :
    Exists fun trace => Exists fun final =>
      TransitionSystem.Run stampWorker stampWorker.initial trace final ∧
      Exists fun contents => contents.head? = some 8 ∧
        (final.owned.delete 100 true).store (S3Swapper.defaultBucket, ascii "AAAAAAAAAAAAAAAA") =
          some contents := by
  let name := SharedMemory.pathOf (ascii "AAAAAAAAAAAAAAAA")
  rcases TransitionSystem.exists_run stampWorker stampWorker.initial inTurns
    (fun _ final => decide (final.owned.worker.swapper = S3Swapper.enableSwapping none) &&
      (decide ((final.owned.worker.objects name).bind List.head? = some 8) &&
      (final.owned.worker.sessions.all (fun entry => decide (entry.childPid = 100 ->
        entry.sessionId = ascii "AAAAAAAAAAAAAAAA")) &&
      final.processes.any (fun process => decide (process.pid = 100))))) (by decide +kernel) with
    ⟨trace, final, run, tested⟩
  simp only [Bool.and_eq_true, decide_eq_true_eq] at tested
  rcases tested with ⟨swapper, byte, named, running⟩
  rcases List.any_eq_true.mp running with ⟨process, member, pid⟩
  have own : process.pid = 100 := of_decide_eq_true pid
  rcases sessions_isolated (scanningParser_takesNext declared) run process member with
    ⟨entry, contents, serves, stored⟩
  have session := of_decide_eq_true (List.all_eq_true.mp named entry serves.listed)
    (serves.child.trans own)
  have object := serves.object
  rw [session] at object
  rw [show final.owned.worker.objects name = some contents from object] at byte
  rw [swapper, own, session] at stored
  refine ⟨trace, final, run, contents, byte, ?_⟩
  rw [stored rfl rfl]
  exact Function.update_self _ _ _

end Isolation
end Runtime
end Praas
