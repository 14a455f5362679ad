import Praas.Execution.Pool

namespace Praas
namespace Execution

open Library
open Wire

/-!
# The buffers of a session are conserved while every invocation has a payload

A buffer leaves the queue in `receive`, travels with its task and comes back
in `invoke`.  As long as every named request carries a payload, the queue and
the tasks together hold the buffers that the session was built with, or their
replacements, and a request is refused only when the tasks hold all of them.

A named request without payload takes no buffer, and `invoke` returns the null
buffer of its task.  From then on the queue holds one buffer too many.
-/

namespace Pool

namespace State

/-- The buffers of the tasks that have not returned. -/
def held (state : State) : List BufferQueue.Buffer := state.jobs.map (fun job => job.task.buffer)

def buffers (state : State) : List BufferQueue.Buffer := state.queue.buffers ++ state.held

/-- The pool has its number of buffers, each with a live block of its own.
Nothing is lost when a buffer goes from the queue to a task and back. -/
structure Conserved (state : State) (count : Nat) : Prop where
  counted : state.buffers.length = count
  live : forall buffer, buffer ∈ state.buffers ->
    Exists fun block => buffer.val = some block ∧ (state.queue.heap.blocks block).isSome = true
  distinct : (state.buffers.map BufferQueue.Buffer.val).Nodup

end State

/-- A named request carries a payload. -/
def carriesPayload : Action -> Bool
  | .handle request _ => decide (request.functionName = [] ∨ 0 < request.payload)
  | _ => true

/-! ## The invariant -/

/-- A number of buffers, sound together, none of them null or empty. -/
structure Filled (count : Nat) (heap : Heap Nat) (buffers : List BufferQueue.Buffer) : Prop where
  sound : BufferQueue.Sound heap buffers
  full : forall buffer, buffer ∈ buffers -> buffer.val ≠ none ∧ 0 < buffer.size
  counted : buffers.length = count

theorem filled_new (elements : Nat) {elemSize : Nat} (positive : 0 < elemSize) :
    Filled elements (BufferQueue.new elements elemSize).heap
      (BufferQueue.new elements elemSize).buffers := by
  refine ⟨BufferQueue.sound_new _ _, ?_, BufferQueue.new_length _ _⟩
  induction elements with
  | zero =>
      intro buffer member
      exact False.elim (List.not_mem_nil member)
  | succ elements inductionHypothesis =>
      intro buffer member
      rcases List.mem_append.mp member with old | last
      · exact inductionHypothesis buffer old
      · rw [List.mem_singleton.mp last]
        exact ⟨Option.some_ne_none _, positive⟩

theorem Filled.perm {count : Nat} {heap : Heap Nat} {before after : List BufferQueue.Buffer}
    (filled : Filled count heap before) (same : before.Perm after) : Filled count heap after where
  sound := filled.sound.perm same
  full := fun buffer member => filled.full buffer (same.mem_iff.mpr member)
  counted := same.length_eq.symm.trans filled.counted

section Retrieve

variable {count : Nat} {queue : BufferQueue} {held : List BufferQueue.Buffer}
variable (filled : Filled count queue.heap (queue.buffers ++ held))
variable {size : Nat} (positive : 0 < size)

include filled positive

/-- A buffer leaves the queue: the front one, or a new one of the requested
size. -/
theorem Filled.retrieveBuffer (found : queue.buffers ≠ []) :
    Filled count (queue.retrieveBuffer size).2.heap ((queue.retrieveBuffer size).1 ::
      ((queue.retrieveBuffer size).2.buffers ++ held)) := by
  cases listed : queue.buffers with
  | nil => exact False.elim (found listed)
  | cons front rest =>
      rcases BufferQueue.retrieveBuffer_cons listed size with ⟨remains, taken⟩
      have full := filled.full
      have counted := filled.counted
      rw [listed] at full counted
      refine ⟨BufferQueue.sound_retrieveBuffer filled.sound size found, ?_, ?_⟩
      · intro buffer member
        rw [remains] at member
        rcases List.mem_cons.mp member with rfl | old
        · rcases taken with same | ⟨pointer, asked⟩
          · rw [same]
            exact full front List.mem_cons_self
          · refine ⟨pointer, ?_⟩
            rw [asked]
            exact positive
        · exact full buffer (List.mem_cons_of_mem _ old)
      · rw [remains]
        exact counted

/-- A request is refused only when the queue is empty. -/
theorem Filled.exhausted (refused : (queue.retrieveBuffer size).1.size = 0) :
    queue.buffers = [] := by
  by_contra found
  have taken := (filled.retrieveBuffer positive found).full _ List.mem_cons_self
  omega

end Retrieve

theorem filled_step {known : Bytes -> Bool} {count : Nat} {state next : State} {action : Action}
    (filled : Filled count state.queue.heap state.buffers) (carries : carriesPayload action = true)
    (stepped : step known state action = some next) :
    Filled count next.queue.heap next.buffers := by
  unfold State.buffers at filled ⊢
  cases step_transition stepped with
  | ignore => exact filled
  | refuse _ payload refused =>
      have empty := filled.exhausted (by omega) refused
      rw [BufferQueue.retrieveBuffer_nil empty]
      exact filled
  | push _ payload found =>
      have present : state.queue.buffers ≠ [] := by
        intro empty
        rw [BufferQueue.retrieveBuffer_nil empty] at found
        exact found rfl
      apply (filled.retrieveBuffer (by omega) present).perm
      simp only [State.held, State.taskFor, List.map_append, List.map_singleton,
        ← List.append_assoc]
      exact (List.perm_append_singleton _ _).symm
  | pushEmpty named empty =>
      rcases of_decide_eq_true carries with unnamed | payload
      · exact False.elim (named unnamed)
      · omega
  | begin whole =>
      simpa only [State.held, whole, List.map_append, List.map_cons] using filled
  | complete whole =>
      simpa only [State.held, whole, List.map_append, List.map_cons] using filled
  | giveBack whole =>
      apply filled.perm
      simp only [State.held, whole, BufferQueue.returnBuffer, List.map_append, List.map_cons,
        List.append_assoc, List.singleton_append]
      exact List.perm_middle.append_left _

/-! ## Conservation -/

theorem map_val_entries {buffers : List BufferQueue.Buffer}
    (present : forall buffer, buffer ∈ buffers -> buffer.val ≠ none) :
    buffers.map BufferQueue.Buffer.val = (BufferQueue.entries buffers).map (fun entry => some entry.1) := by
  induction buffers with
  | nil => rfl
  | cons buffer rest inductionHypothesis =>
      have later := inductionHypothesis
        (fun other member => present other (List.mem_cons_of_mem _ member))
      rw [BufferQueue.entries_cons, List.map_cons, List.map_append, later]
      cases pointer : buffer.val with
      | none => exact False.elim (present buffer List.mem_cons_self pointer)
      | some block => rfl

theorem Filled.conserved {count : Nat} {state : State}
    (filled : Filled count state.queue.heap state.buffers) : state.Conserved count where
  counted := filled.counted
  live := by
    intro buffer member
    cases pointer : buffer.val with
    | none => exact False.elim ((filled.full buffer member).1 pointer)
    | some block =>
        have listed : (block, buffer.size) ∈ BufferQueue.entries state.buffers :=
          List.mem_filterMap.mpr ⟨buffer, member, by rw [pointer]; rfl⟩
        refine ⟨block, rfl, ?_⟩
        rw [filled.sound.owns.live _ listed]
        rfl
  distinct := by
    have blocks := filled.sound.owns.distinct.map (Option.some_injective Nat)
    rw [List.map_map] at blocks
    rw [map_val_entries (fun buffer member => (filled.full buffer member).1)]
    exact blocks

/-- A request that is answered at once found all buffers with the tasks. -/
theorem Filled.all_held {count : Nat} {state : State}
    (filled : Filled count state.queue.heap state.buffers) (request : FunctionRequestMsg)
    (connection : List Arrival)
    (answered : (state.handle request connection).sent ≠ state.sent) :
    state.held.length = count := by
  have moved := handle_transition (fun _ => true) state request connection
  generalize state.handle request connection = next at moved answered
  cases moved with
  | ignore => exact False.elim (answered rfl)
  | refuse _ payload refused =>
      have empty := Filled.exhausted filled (by omega) refused
      have counted := filled.counted
      rw [State.buffers, empty, List.nil_append] at counted
      exact counted
  | push => exact False.elim (answered rfl)
  | pushEmpty => exact False.elim (answered rfl)

/-- In every run in which named requests carry payloads, the buffers are
conserved, and a request has been refused only while the tasks held all of
them. -/
theorem buffers_conserved {known : Bytes -> Bool} {maxFunctions : Int}
    {trace : List (State × Action)} {final : State} (run : Run known maxFunctions trace final)
    (carry : TransitionSystem.Guarded (fun _ action => carriesPayload action = true) trace) :
    final.Conserved (Session.bufferCount maxFunctions) ∧
      forall state request connection, (state, Action.handle request connection) ∈ trace ->
        (state.handle request connection).sent ≠ state.sent ->
        state.held.length = Session.bufferCount maxFunctions := by
  let kept := fun (state : State) =>
    Filled (Session.bufferCount maxFunctions) state.queue.heap state.buffers
  have filled : kept final ∧ forall entry, entry ∈ trace -> kept entry.1 := by
    refine run.guarded_traced
      (fun trace state => kept state ∧ forall entry, entry ∈ trace -> kept entry.1) ?_ ?_ carry
    · refine ⟨?_, fun entry member => False.elim (List.not_mem_nil member)⟩
      have start := filled_new (Session.bufferCount maxFunctions)
        (by decide : 0 < 6 * 1024 * 1024)
      exact start.perm (by rw [State.buffers]; exact List.Perm.of_eq (List.append_nil _).symm)
    · rintro trace source action target _ _ ⟨now, before⟩ carries stepped
      refine ⟨filled_step now carries stepped, ?_⟩
      intro entry member
      rcases List.mem_append.mp member with old | last
      · exact before entry old
      · rw [List.mem_singleton.mp last]
        exact now
  refine ⟨filled.1.conserved, ?_⟩
  intro state request connection member answered
  exact Filled.all_held (filled.2 _ member) request connection answered

def someRequest (payloadSize : Int) : FunctionRequestMsg :=
  ⟨FunctionRequest.fill Request.new (ascii "f") (ascii "1") payloadSize⟩

/-- With one function there are two buffers.  Three requests with payloads
arrive and one task is finished; the third request is refused. -/
theorem buffers_conserved_first :
    Exists fun trace => Exists fun final => Run (fun _ => true) 1 trace final ∧
      trace.length = 6 ∧ final.sent.length = 2 ∧ final.Conserved 2 := by
  rcases TransitionSystem.exists_run (system (fun _ => true) 1) (initial 1)
    [.handle (someRequest 5) [], .handle (someRequest 7) [], .handle (someRequest 1) [],
      .begin 1, .complete 1 0, .giveBack 1]
    (fun trace final => decide (trace.length = 6) && decide (final.sent.length = 2) &&
      trace.all (fun entry => carriesPayload entry.2)) (by decide) with
    ⟨trace, final, run, tested⟩
  simp only [Bool.and_eq_true, decide_eq_true_eq] at tested
  exact ⟨trace, final, run, tested.1.1, tested.1.2,
    (buffers_conserved run (TransitionSystem.guarded_of_all tested.2)).1⟩

/-- A request without payload is handled and its task finished: nothing runs,
and the queue of two buffers holds three. -/
theorem null_buffer_returned :
    Exists fun trace => Exists fun final => Run (fun _ => true) 1 trace final ∧
      final.jobs = [] ∧ final.queue.buffers.length = 3 ∧ ¬ final.Conserved 2 := by
  rcases TransitionSystem.exists_run (system (fun _ => true) 1) (initial 1)
    [.handle (someRequest 0) [], .begin 0, .complete 0 0, .giveBack 0]
    (fun _ final => decide (final.jobs = []) && decide (final.queue.buffers.length = 3))
    (by decide) with
    ⟨trace, final, run, tested⟩
  simp only [Bool.and_eq_true, decide_eq_true_eq] at tested
  refine ⟨trace, final, run, tested.1, tested.2, ?_⟩
  intro conserved
  have counted := conserved.counted
  rw [State.buffers, State.held, tested.1, List.map_nil, List.append_nil, tested.2] at counted
  exact absurd counted (by decide)

end Pool
end Execution
end Praas
