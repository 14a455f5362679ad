import Praas.LocalMemory.Server

namespace Praas
namespace LocalMemory
namespace Server

open Library

/-!
# The busy flag of a connection

The loop marks a slot as busy after it has handed the message to the pool, and
the task clears the mark.  Nothing orders the two: a task that is faster than
the loop clears the mark before it is set.  A task whose payload read is short
returns without clearing it.  In both cases the slot is busy with no task left
to clear it, and the loop passes over the connection for ever.
-/

def Task.clears (task : Task) : Bool :=
  match task.stage with
  | .queued => true
  | .received _ => true
  | _ => false

/-- A task of the list has yet to clear the mark of the slot. -/
def awaited (tasks : List Task) (slot : Nat) : Bool :=
  tasks.any (fun task => decide (task.slot = slot) && task.clears)

/-- A slot for which no task is queued or running, and which the loop is not
about to mark, is not busy, and the next message of its connection is read. -/
structure NoneStuck (state : State) : Prop where
  idle : forall slot, (forall task, task ∈ state.tasks -> task.slot ≠ slot) ->
    state.marking ≠ some slot -> (state.slots slot).busy = false
  readable : forall slot, (forall task, task ∈ state.tasks -> task.slot ≠ slot) ->
    state.marking = none -> state.crashed = false ->
    (state.slots slot).socket.isSome = true ->
    forall buffer, (step state (.poll slot (.message buffer))).isSome = true

/-- The mark is set while a task of the slot has yet to clear it, and a task
ends with a short read only when its slot is not marked or another task has yet
to clear the mark. -/
def clearsLater (state : State) (action : Action) : Bool :=
  match action with
  | .markBusy => state.marking.all (fun slot => awaited state.tasks slot)
  | .read index bytes =>
      (state.tasks[index]?).all (fun task =>
        !decide (0 < task.buffer.payload ∧ (bytes.length : Int) < task.buffer.payload) ||
          (!(state.slots task.slot).busy || awaited (state.tasks.eraseIdx index) task.slot))
  | _ => true

/-! ## What one step does to slots and tasks -/

/-- The task at a place leaves a list of tasks that agrees with the old one on
the tasks that have yet to clear a mark. -/
def SamePending (before after : List Task) : Prop :=
  forall task, task.clears = true -> (task ∈ after ↔ task ∈ before)

/-- The steps, as far as slots, tasks and marks are concerned. -/
inductive Move (state : State) : Action -> State -> Prop
  | accept : state.marking = none -> Move state .accept (acceptStep state)
  | poll {slot socket : Nat} (arrival : Arrival) : (state.slots slot).socket = some socket ->
      state.marking = none -> (state.slots slot).busy = false ->
      Move state (.poll slot arrival) (pollStep state slot socket arrival)
  | markBusy {slot : Nat} : state.marking = some slot ->
      Move state .markBusy { setBusy state slot true with marking := none }
  | received {before after : List Task} {task : Task} {bytes : Bytes} {data : Option Nat}
      {next : State} : state.tasks = before ++ task :: after -> task.stage = .queued ->
      ¬ (0 < task.buffer.payload ∧ (bytes.length : Int) < task.buffer.payload) ->
      next.slots = state.slots -> next.marking = state.marking ->
      next.tasks = before ++ { task with stage := .received data } :: after ->
      Move state (.read before.length bytes) next
  | short {before after : List Task} {task : Task} {bytes : Bytes} {next : State} :
      state.tasks = before ++ task :: after -> task.stage = .queued ->
      0 < task.buffer.payload ∧ (bytes.length : Int) < task.buffer.payload ->
      next.slots = state.slots -> next.marking = state.marking ->
      next.tasks = before ++ after -> Move state (.read before.length bytes) next
  | clearBusy {before after : List Task} {task : Task} {data : Option Nat} {next : State} :
      state.tasks = before ++ task :: after -> task.stage = .received data ->
      next.slots = (setBusy state task.slot false).slots -> next.marking = state.marking ->
      next.tasks = before ++ { task with stage := .ready data } :: after ->
      Move state (.clearBusy before.length) next
  | later {action : Action} {next : State} : (forall index bytes, action ≠ .read index bytes) ->
      action ≠ .markBusy -> next.slots = state.slots -> next.marking = state.marking ->
      SamePending state.tasks next.tasks -> Move state action next

section Inversion

variable {state next : State}

theorem samePending_middle {before after : List Task} {task replacement : Task} {tasks : List Task}
    (whole : tasks = before ++ task :: after) (done : task.clears = false)
    (also : replacement.clears = false) :
    SamePending tasks (before ++ replacement :: after) := by
  intro other clears
  have first : other ≠ task := fun same => by rw [same, done] at clears; cases clears
  have second : other ≠ replacement := fun same => by rw [same, also] at clears; cases clears
  rw [whole, List.mem_append, List.mem_append, List.mem_cons, List.mem_cons]
  simp only [first, second, false_or]

theorem samePending_erased {before after : List Task} {task : Task} {tasks : List Task}
    (whole : tasks = before ++ task :: after) (done : task.clears = false) :
    SamePending tasks (before ++ after) := by
  intro other clears
  have first : other ≠ task := fun same => by rw [same, done] at clears; cases clears
  rw [whole, List.mem_append, List.mem_append, List.mem_cons]
  simp only [first, false_or]

theorem loopStep_move {action : Action} (stepped : loopStep state action = some next) :
    Move state action next := by
  unfold loopStep at stepped
  split at stepped
  · split at stepped
    · rename_i free
      cases stepped
      exact .accept (Option.isNone_iff_eq_none.mp free)
    · cases stepped
  · split at stepped
    · cases stepped
    · rename_i found
      split at stepped
      · rename_i allowed
        cases stepped
        exact .poll _ found (Option.isNone_iff_eq_none.mp allowed.1) allowed.2
      · cases stepped
  · split at stepped
    · cases stepped
    · rename_i marking
      cases stepped
      exact .markBusy marking
  · cases stepped

theorem marking_writeTo (state : State) (task : Task) (bytes : Option Bytes) :
    (writeTo state task bytes).marking = state.marking ∧
      (writeTo state task bytes).tasks = state.tasks := by
  unfold writeTo
  split <;> exact ⟨rfl, rfl⟩

theorem taskStep_move {index : Nat} {task : Task} (found : state.tasks[index]? = some task)
    {action : Action} (own : action.task = some index)
    (stepped : taskStep state index task action = some next) : Move state action next := by
  rcases split_of_getElem found with ⟨before, after, whole, rfl, replaced⟩
  have erased := eraseIdx_middle whole
  unfold taskStep at stepped
  split at stepped
  · cases own
    split at stepped
    · rename_i stage
      cases stepped
      unfold readStep
      dsimp only
      split
      · rename_i missing
        exact .short whole stage missing rfl rfl erased
      · rename_i enough
        exact .received whole stage enough rfl rfl (replaced _)
    · cases stepped
  · cases own
    split at stepped
    · rename_i stage
      cases stepped
      exact .clearBusy whole stage rfl rfl (replaced _)
    · cases stepped
  · split at stepped
    · rename_i stage
      cases stepped
      refine .later (fun _ _ same => nomatch same) (fun same => nomatch same) rfl rfl ?_
      unfold operateStep advance
      dsimp only
      rw [replaced]
      exact samePending_middle whole (by unfold Task.clears; rw [stage]) rfl
    · cases stepped
  · split at stepped
    · rename_i data size accessor stage
      cases stepped
      have kept := marking_writeTo state task (some (replyHeader task.buffer size).data)
      refine .later (fun _ _ same => nomatch same) (fun same => nomatch same)
        (slots_writeTo _ _ _) kept.1 ?_
      unfold headerStep advance
      dsimp only
      rw [kept.2, replaced]
      refine samePending_middle whole (by unfold Task.clears; rw [stage]) ?_
      by_cases positive : 0 < size
      · rw [if_pos positive]
        rfl
      · rw [if_neg positive]
        rfl
    · cases stepped
  · split at stepped
    · rename_i data size accessor stage
      cases stepped
      have kept := marking_writeTo state task (replyBody state.memory.heap accessor size)
      refine .later (fun _ _ same => nomatch same) (fun same => nomatch same)
        (slots_writeTo _ _ _) kept.1 ?_
      unfold advance
      dsimp only
      rw [kept.2, replaced]
      exact samePending_middle whole (by unfold Task.clears; rw [stage]) rfl
    · cases stepped
  · split at stepped
    · rename_i stage
      cases stepped
      refine .later (fun _ _ same => nomatch same) (fun same => nomatch same) rfl rfl ?_
      dsimp only
      rw [erased]
      exact samePending_erased whole (by unfold Task.clears; rw [stage])
    · cases stepped
  · cases stepped

theorem step_move {action : Action} (stepped : step state action = some next) :
    state.crashed = false ∧ Move state action next := by
  unfold step at stepped
  split at stepped
  · cases stepped
  · rename_i running
    refine ⟨Bool.eq_false_iff.mpr running, ?_⟩
    split at stepped
    · exact loopStep_move stepped
    · split at stepped
      · cases stepped
      · exact taskStep_move ‹_› ‹_› stepped

end Inversion

/-! ## Marks that will be cleared -/

theorem awaited_iff {tasks : List Task} {slot : Nat} :
    awaited tasks slot = true ↔
      Exists fun task => task ∈ tasks ∧ task.slot = slot ∧ task.clears = true := by
  unfold awaited
  rw [List.any_eq_true]
  simp only [Bool.and_eq_true, decide_eq_true_eq]

theorem awaited_samePending {before after : List Task} (same : SamePending before after)
    (slot : Nat) : awaited after slot = awaited before slot := by
  rw [Bool.eq_iff_iff, awaited_iff, awaited_iff]
  constructor
  · rintro ⟨task, member, placed, clears⟩
    exact ⟨task, (same task clears).mp member, placed, clears⟩
  · rintro ⟨task, member, placed, clears⟩
    exact ⟨task, (same task clears).mpr member, placed, clears⟩

theorem awaited_append (before after : List Task) (slot : Nat) :
    awaited (before ++ after) slot = (awaited before slot || awaited after slot) := by
  unfold awaited
  rw [List.any_append]

theorem clears_queued {task : Task} (stage : task.stage = .queued) : task.clears = true := by
  unfold Task.clears
  rw [stage]

theorem clears_received {task : Task} {data : Option Nat} (stage : task.stage = .received data) :
    task.clears = true := by
  unfold Task.clears
  rw [stage]

/-- A task that has read its payload has still to clear the mark. -/
theorem awaited_received (before after : List Task) {task : Task} (stage : task.stage = .queued)
    (data : Option Nat) (place : Nat) :
    awaited (before ++ { task with stage := .received data } :: after) place =
      awaited (before ++ task :: after) place := by
  unfold awaited
  rw [List.any_append, List.any_append, List.any_cons, List.any_cons, clears_queued stage]
  rfl

theorem awaited_around (before after : List Task) {task : Task} {place : Nat}
    (other : task.slot ≠ place ∨ task.clears = false) :
    awaited (before ++ task :: after) place = awaited (before ++ after) place := by
  have uncounted : (decide (task.slot = place) && task.clears) = false := by
    rcases other with different | done
    · rw [decide_eq_false different, Bool.false_and]
    · rw [done, Bool.and_false]
  unfold awaited
  rw [List.any_append, List.any_append, List.any_cons, uncounted, Bool.false_or]

/-- The invariant: every mark has a task that has still to clear it, so that no
slot is marked once its tasks are done. -/
def Cleared (state : State) : Prop :=
  forall slot, (state.slots slot).busy = true -> awaited state.tasks slot = true

theorem busy_setBusy (state : State) (slot : Nat) (busy : Bool) (place : Nat) :
    ((setBusy state slot busy).slots place).busy =
      if place = slot then busy else (state.slots place).busy := by
  dsimp only [setBusy]
  by_cases same : place = slot
  · rw [same, Function.update_self, if_pos rfl]
  · rw [Function.update_of_ne same, if_neg same]

/-- A connection is accepted into a slot that is not active, and its object is
not busy. -/
theorem slots_accept (state : State) (place : Nat) :
    (acceptStep state).slots place = state.slots place ∨
      (state.slots place).active = false ∧ ((acceptStep state).slots place).busy = false ∧
        ((acceptStep state).slots place).active = true := by
  unfold acceptStep
  cases free : firstFree state with
  | none => exact Or.inl rfl
  | some slot =>
      dsimp only
      by_cases same : place = slot
      · right
        have unused := List.find?_some free
        rw [same, Function.update_self]
        exact ⟨by simpa using unused, rfl, rfl⟩
      · left
        rw [Function.update_of_ne same]

theorem tasks_accept (state : State) : (acceptStep state).tasks = state.tasks ∧
    (acceptStep state).marking = state.marking := by
  unfold acceptStep
  split <;> exact ⟨rfl, rfl⟩

/-- What the loop reads from a slot changes neither the marks nor what is
awaited elsewhere. -/
theorem poll_effect (state : State) (slot socket : Nat) (arrival : Arrival) :
    (forall place, ((pollStep state slot socket arrival).slots place).busy =
      (state.slots place).busy) ∧
    (forall place, awaited state.tasks place = true ->
      awaited (pollStep state slot socket arrival).tasks place = true) := by
  cases arrival with
  | message buffer =>
      refine ⟨fun _ => rfl, ?_⟩
      intro place before
      dsimp only [pollStep]
      rw [awaited_append, before, Bool.true_or]
  | ended =>
      refine ⟨?_, fun _ before => before⟩
      intro place
      dsimp only [pollStep]
      by_cases same : place = slot
      · rw [same, Function.update_self]
      · rw [Function.update_of_ne same]

section Cleared

variable {state next : State} {action : Action}

theorem cleared_step (cleared : Cleared state) (moved : Move state action next)
    (settled : clearsLater state action = true) : Cleared next := by
  intro place marked
  cases moved with
  | accept =>
      rw [(tasks_accept state).1]
      rcases slots_accept state place with same | ⟨_, unmarked, _⟩
      · rw [same] at marked
        exact cleared place marked
      · rw [unmarked] at marked
        cases marked
  | @poll slot socket arrival found free idle =>
      have effect := poll_effect state slot socket arrival
      rw [effect.1] at marked
      exact effect.2 place (cleared place marked)
  | @markBusy slot marking =>
      dsimp only at marked ⊢
      rw [busy_setBusy] at marked
      by_cases same : place = slot
      · unfold clearsLater at settled
        dsimp only at settled
        rw [marking, Option.all_some] at settled
        rw [same]
        exact settled
      · rw [if_neg same] at marked
        exact cleared place marked
  | @received before after task bytes data _ whole stage enough slots _ tasks =>
      rw [slots] at marked
      have earlier := cleared place marked
      rw [whole] at earlier
      rw [tasks, awaited_received before after stage]
      exact earlier
  | @short before after task bytes _ whole stage missing slots _ tasks =>
      rw [slots] at marked
      have earlier := cleared place marked
      rw [whole] at earlier
      rw [tasks]
      by_cases same : task.slot = place
      · unfold clearsLater at settled
        dsimp only at settled
        rw [getElem?_middle whole, Option.all_some, decide_eq_true missing, eraseIdx_middle whole,
          same, marked] at settled
        exact settled
      · rw [← awaited_around before after (Or.inl same)]
        exact earlier
  | @clearBusy before after task data _ whole stage slots _ tasks =>
      rw [slots, busy_setBusy] at marked
      by_cases same : place = task.slot
      · rw [if_pos same] at marked
        cases marked
      · rw [if_neg same] at marked
        have earlier := cleared place marked
        rw [whole, awaited_around _ _ (Or.inl (Ne.symm same))] at earlier
        rw [tasks, awaited_around _ _ (Or.inr rfl)]
        exact earlier
  | later _ _ slots _ same =>
      rw [slots] at marked
      rw [awaited_samePending same]
      exact cleared place marked

/-- With every mark to be cleared by some task, a slot without tasks is read
again. -/
theorem noneStuck_of_cleared (cleared : Cleared state) : NoneStuck state := by
  have idle : forall slot, (forall task, task ∈ state.tasks -> task.slot ≠ slot) ->
      (state.slots slot).busy = false := by
    intro slot alone
    apply Bool.eq_false_iff.mpr
    intro marked
    rcases awaited_iff.mp (cleared slot marked) with ⟨task, member, placed, _⟩
    exact alone task member placed
  refine ⟨fun slot alone _ => idle slot alone, ?_⟩
  intro slot alone free running connected buffer
  rcases Option.isSome_iff_exists.mp connected with ⟨socket, found⟩
  simp only [step, running, Bool.false_eq_true, if_false, Action.task, loopStep, found, free,
    Option.isNone_none, idle slot alone, and_self, if_true, Option.isSome_some]

end Cleared

/-- In every run in which each mark is set before a task of the connection
clears it, and in which no task that was to clear a mark ends with a short
read, a connection without tasks is not busy and its next request is read. -/
theorem busy_flag_cleared {trace : List (State × Action)} {final : State}
    (run : TransitionSystem.Run system system.initial trace final)
    (settled : TransitionSystem.Guarded
      (fun state action => clearsLater state action = true) trace) : NoneStuck final := by
  apply noneStuck_of_cleared
  apply run.guarded_invariant Cleared _ _ settled
  · intro slot marked
    cases marked
  · intro source action target cleared guarded stepped
    exact cleared_step cleared (step_move stepped).2 guarded

def answeredOnce : List Action :=
  untilCleared ++ [.operate 0, .writeHeader 0, .release 0]

theorem busy_flag_cleared_first :
    Exists fun trace => Exists fun final => TransitionSystem.Run system system.initial trace final ∧
      final.tasks = [] ∧ NoneStuck final := by
  have found := TransitionSystem.exists_run system system.initial answeredOnce
    (fun trace final => trace.all (fun entry => clearsLater entry.1 entry.2) &&
      final.tasks.isEmpty) (by decide +kernel)
  rcases found with ⟨trace, final, run, tested⟩
  rw [Bool.and_eq_true, List.isEmpty_iff] at tested
  exact ⟨trace, final, run, tested.2,
    busy_flag_cleared run (TransitionSystem.guarded_of_all tested.1)⟩

/-- The task is faster than the loop. -/
def clearedTooEarly : List Action :=
  [.accept, .poll 0 (.message request), .read 0 [], .clearBusy 0, .operate 0, .writeHeader 0,
    .release 0, .markBusy]

/-- The mark is set when the task has ended. -/
theorem busy_flag_stuck :
    ¬ forall (trace : List (State × Action)) (final : State),
      TransitionSystem.Run system system.initial trace final -> NoneStuck final := by
  intro always
  have found := TransitionSystem.exists_run system system.initial clearedTooEarly
    (fun _ final => final.tasks.isEmpty && (final.marking.isNone && (final.slots 0).busy))
    (by decide +kernel)
  rcases found with ⟨trace, final, run, tested⟩
  simp only [Bool.and_eq_true, List.isEmpty_iff, Option.isNone_iff_eq_none] at tested
  rcases tested with ⟨empty, free, busy⟩
  have idle := (always trace final run).idle 0 (by
    intro task member
    rw [empty] at member
    cases member) (by
    rw [free]
    exact fun same => nomatch same)
  rw [busy] at idle
  cases idle

/-! ## Marks that are never cleared -/

/-- The slot is busy for ever: its mark is set, no task will clear it, and the
loop is not about to hand out another task. -/
structure Stuck (slot : Nat) (state : State) : Prop where
  busy : (state.slots slot).busy = true
  active : (state.slots slot).active = true
  unmarked : state.marking ≠ some slot
  unawaited : awaited state.tasks slot = false

/-- Only active slots have a socket or a mark, and a slot that is about to be
marked is not marked yet. -/
structure Marked (state : State) : Prop where
  connected : forall slot, (state.slots slot).socket.isSome = true ->
    (state.slots slot).active = true
  busy : forall slot, (state.slots slot).busy = true -> (state.slots slot).active = true
  marking : forall slot, state.marking = some slot -> (state.slots slot).active = true ∧
    (state.slots slot).busy = false

section Stuck

variable {state next : State} {action : Action}

theorem active_setBusy (state : State) (slot : Nat) (busy : Bool) (place : Nat) :
    ((setBusy state slot busy).slots place).active = (state.slots place).active := by
  dsimp only [setBusy]
  by_cases same : place = slot
  · rw [same, Function.update_self]
  · rw [Function.update_of_ne same]

/-- A step that leaves the slots and the mark that is due keeps what is known
of them. -/
theorem Marked.congr (marked : Marked state) (slots : next.slots = state.slots)
    (marking : next.marking = state.marking) : Marked next := by
  refine ⟨?_, ?_, ?_⟩
  · rw [slots]
    exact marked.connected
  · rw [slots]
    exact marked.busy
  · rw [slots, marking]
    exact marked.marking

theorem marked_accept (marked : Marked state) (free : state.marking = none) :
    Marked (acceptStep state) := by
  refine ⟨?_, ?_, ?_⟩
  · intro slot connected
    rcases slots_accept state slot with same | ⟨_, _, active⟩
    · rw [same] at connected ⊢
      exact marked.connected slot connected
    · exact active
  · intro slot busy
    rcases slots_accept state slot with same | ⟨_, _, active⟩
    · rw [same] at busy ⊢
      exact marked.busy slot busy
    · exact active
  · intro slot due
    rw [(tasks_accept state).2, free] at due
    cases due

theorem marked_poll (marked : Marked state) {slot socket : Nat} (arrival : Arrival)
    (found : (state.slots slot).socket = some socket) (free : state.marking = none)
    (idle : (state.slots slot).busy = false) : Marked (pollStep state slot socket arrival) := by
  cases arrival with
  | message buffer =>
      refine ⟨marked.connected, marked.busy, ?_⟩
      intro place due
      cases due
      exact ⟨marked.connected slot (Option.isSome_iff_exists.mpr ⟨socket, found⟩), idle⟩
  | ended =>
      refine ⟨?_, ?_, ?_⟩
      · intro place connected
        dsimp only [pollStep] at connected ⊢
        by_cases same : place = slot
        · rw [same, Function.update_self] at connected
          cases connected
        · rw [Function.update_of_ne same] at connected ⊢
          exact marked.connected place connected
      · intro place busy
        rw [(poll_effect state slot socket .ended).1] at busy
        have other : place ≠ slot := by
          rintro rfl
          rw [idle] at busy
          cases busy
        dsimp only [pollStep]
        rw [Function.update_of_ne other]
        exact marked.busy place busy
      · intro place due
        exact False.elim (Option.some_ne_none place (due.symm.trans free))

theorem marked_setBusy (marked : Marked state) {slot : Nat} {busy : Bool} {due : Option Nat}
    (active : busy = true -> (state.slots slot).active = true)
    (kept : forall place, due = some place -> (state.slots place).active = true ∧
      ((setBusy state slot busy).slots place).busy = false) :
    Marked { setBusy state slot busy with marking := due } := by
  refine ⟨?_, ?_, ?_⟩
  · intro place connected
    dsimp only at connected ⊢
    rw [socket_setBusy] at connected
    rw [active_setBusy]
    exact marked.connected place connected
  · intro place marks
    dsimp only at marks ⊢
    rw [busy_setBusy] at marks
    rw [active_setBusy]
    by_cases same : place = slot
    · rw [if_pos same] at marks
      rw [same]
      exact active marks
    · rw [if_neg same] at marks
      exact marked.busy place marks
  · intro place named
    dsimp only
    rw [active_setBusy]
    exact kept place named

theorem marked_step (marked : Marked state) (moved : Move state action next) : Marked next := by
  cases moved with
  | accept free => exact marked_accept marked free
  | poll arrival found free idle => exact marked_poll marked arrival found free idle
  | markBusy due =>
      refine marked_setBusy marked (fun _ => (marked.marking _ due).1) ?_
      intro place named
      cases named
  | received whole stage enough slots marking tasks => exact marked.congr slots marking
  | short whole stage missing slots marking tasks => exact marked.congr slots marking
  | @clearBusy before after task data _ whole stage slots marking tasks =>
      have unmarked : Marked { setBusy state task.slot false with marking := state.marking } := by
        refine marked_setBusy marked (fun impossible => by cases impossible) ?_
        intro place due
        refine ⟨(marked.marking place due).1, ?_⟩
        rw [busy_setBusy]
        split
        · rfl
        · exact (marked.marking place due).2
      exact unmarked.congr slots marking
  | later _ _ slots marking _ => exact marked.congr slots marking

theorem Stuck.congr {slot : Nat} (stuck : Stuck slot state) (slots : next.slots = state.slots)
    (marking : next.marking = state.marking) (unawaited : awaited next.tasks slot = false) :
    Stuck slot next := by
  refine ⟨?_, ?_, ?_, unawaited⟩
  · rw [slots]
    exact stuck.busy
  · rw [slots]
    exact stuck.active
  · rw [marking]
    exact stuck.unmarked

/-- A mark without a task that clears it stays so. -/
theorem stuck_step {slot : Nat} (stuck : Stuck slot state) (moved : Move state action next) :
    Stuck slot next := by
  cases moved with
  | accept free =>
      have same : (acceptStep state).slots slot = state.slots slot := by
        rcases slots_accept state slot with same | ⟨inactive, _⟩
        · exact same
        · rw [stuck.active] at inactive
          cases inactive
      refine ⟨?_, ?_, ?_, ?_⟩
      · rw [same]
        exact stuck.busy
      · rw [same]
        exact stuck.active
      · rw [(tasks_accept state).2]
        exact stuck.unmarked
      · rw [(tasks_accept state).1]
        exact stuck.unawaited
  | @poll place socket arrival found free idle =>
      have other : place ≠ slot := by
        rintro rfl
        rw [stuck.busy] at idle
        cases idle
      cases arrival with
      | message buffer =>
          refine ⟨stuck.busy, stuck.active, fun due => other (Option.some.inj due), ?_⟩
          dsimp only [pollStep]
          rw [awaited_around _ [] (Or.inl other), List.append_nil]
          exact stuck.unawaited
      | ended =>
          refine ⟨?_, ?_, stuck.unmarked, stuck.unawaited⟩
          · rw [(poll_effect state place socket .ended).1]
            exact stuck.busy
          · dsimp only [pollStep]
            rw [Function.update_of_ne (Ne.symm other)]
            exact stuck.active
  | @markBusy place due =>
      have other : slot ≠ place := by
        rintro rfl
        exact stuck.unmarked due
      refine ⟨?_, ?_, (fun impossible => nomatch impossible), stuck.unawaited⟩
      · dsimp only
        rw [busy_setBusy, if_neg other]
        exact stuck.busy
      · dsimp only
        rw [active_setBusy]
        exact stuck.active
  | @received before after task bytes data _ whole stage enough slots marking tasks =>
      apply stuck.congr slots marking
      rw [tasks, awaited_received before after stage, ← whole]
      exact stuck.unawaited
  | @short before after task bytes _ whole stage missing slots marking tasks =>
      have none := stuck.unawaited
      rw [whole, awaited, List.any_append, List.any_cons] at none
      simp only [Bool.or_eq_false_iff] at none
      apply stuck.congr slots marking
      rw [tasks, awaited, List.any_append, none.1, none.2.2]
      rfl
  | @clearBusy before after task data _ whole stage slots marking tasks =>
      have other : slot ≠ task.slot := by
        rintro rfl
        have waits : awaited state.tasks task.slot = true :=
          awaited_iff.mpr ⟨task, mem_middle whole, rfl, clears_received stage⟩
        rw [stuck.unawaited] at waits
        cases waits
      have none := stuck.unawaited
      rw [whole, awaited_around _ _ (Or.inl (Ne.symm other))] at none
      refine ⟨?_, ?_, marking ▸ stuck.unmarked, ?_⟩
      · rw [slots, busy_setBusy, if_neg other]
        exact stuck.busy
      · rw [slots, active_setBusy]
        exact stuck.active
      · rw [tasks, awaited_around _ _ (Or.inr rfl)]
        exact none
  | later _ _ slots marking same =>
      apply stuck.congr slots marking
      rw [awaited_samePending same]
      exact stuck.unawaited

/-- A step that does not leave the mark to a task makes a slot stuck. -/
theorem stuck_of_unsettled (marked : Marked state) (moved : Move state action next)
    (unsettled : clearsLater state action = false) :
    Exists fun slot => Stuck slot next := by
  unfold clearsLater at unsettled
  cases moved with
  | accept | poll | clearBusy => cases unsettled
  | @markBusy slot due =>
      dsimp only at unsettled
      rw [due, Option.all_some] at unsettled
      refine ⟨slot, ?_, ?_, (fun impossible => nomatch impossible), unsettled⟩
      · dsimp only
        rw [busy_setBusy, if_pos rfl]
      · dsimp only
        rw [active_setBusy]
        exact (marked.marking slot due).1
  | received whole stage enough slots marking tasks =>
      dsimp only at unsettled
      rw [getElem?_middle whole, Option.all_some, decide_eq_false enough] at unsettled
      cases unsettled
  | @short before after task bytes _ whole stage missing slots marking tasks =>
      dsimp only at unsettled
      rw [getElem?_middle whole, Option.all_some, decide_eq_true missing, eraseIdx_middle whole]
        at unsettled
      simp only [Bool.not_true, Bool.false_or, Bool.or_eq_false_iff, Bool.not_eq_false'] at unsettled
      refine ⟨task.slot, slots ▸ unsettled.1, slots ▸ marked.busy _ unsettled.1, ?_, ?_⟩
      · rw [marking]
        intro due
        rw [(marked.marking _ due).2] at unsettled
        cases unsettled.1
      · rw [tasks]
        exact unsettled.2
  | later notRead notMark =>
      split at unsettled
      · exact False.elim (notMark rfl)
      · exact False.elim (notRead _ _ rfl)
      · cases unsettled

end Stuck

/-- A run with a step that does not leave the mark to a task ends with a slot
that is stuck. -/
theorem stuck_of_run {trace : List (State × Action)} {final : State}
    (run : TransitionSystem.Run system system.initial trace final) :
    Marked final ∧ (TransitionSystem.Guarded
      (fun state action => clearsLater state action = true) trace ∨
        Exists fun slot => Stuck slot final) := by
  induction run with
  | start =>
      refine ⟨⟨?_, ?_, ?_⟩, Or.inl ?_⟩
      · intro slot connected
        cases connected
      · intro slot busy
        cases busy
      · intro slot due
        cases due
      · intro entry member
        cases member
  | @extend trace source target action earlier stepped inductionHypothesis =>
      rcases inductionHypothesis with ⟨marked, known⟩
      have moved := (step_move stepped).2
      refine ⟨marked_step marked moved, ?_⟩
      rcases known with guarded | ⟨slot, stuck⟩
      · cases settled : clearsLater source action with
        | true => exact Or.inl (TransitionSystem.guarded_append_iff.mpr ⟨guarded, settled⟩)
        | false => exact Or.inr (stuck_of_unsettled marked moved settled)
      · exact Or.inr ⟨slot, stuck_step stuck moved⟩

/-- The condition on the steps is exact: in a run that does not meet it some
slot is passed over by the loop in every later state. -/
theorem unsettled_slot_never_read {trace : List (State × Action)} {final : State}
    (run : TransitionSystem.Run system system.initial trace final)
    (unsettled : ¬ TransitionSystem.Guarded
      (fun state action => clearsLater state action = true) trace) :
    Exists fun slot => forall later, TransitionSystem.Leads system final later ->
      (later.slots slot).busy = true ∧ forall arrival, step later (.poll slot arrival) = none := by
  rcases (stuck_of_run run).2 with guarded | ⟨slot, stuck⟩
  · exact False.elim (unsettled guarded)
  · refine ⟨slot, ?_⟩
    rintro later ⟨steps, continued⟩
    have still : Stuck slot later := by
      apply continued.invariant (Stuck slot) stuck
      intro source action target before stepped
      exact stuck_step before (step_move stepped).2
    refine ⟨still.busy, ?_⟩
    intro arrival
    simp only [step, Action.task, loopStep, still.busy, Bool.true_eq_false, and_false, if_false]
    split
    · rfl
    · split <;> rfl

end Server
end LocalMemory
end Praas
