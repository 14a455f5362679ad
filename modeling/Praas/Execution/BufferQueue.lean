import Praas.Execution.Session
import Praas.Library.Heap
import Praas.Library.TransitionSystem

namespace Praas
namespace Execution

open Library

/-!
# The buffers of a session as blocks of the heap

The receive loop of `Praas.Execution.Session` treats a buffer as a size with
contents.  Here a buffer is a pointer with a size field, as in `buffer.hpp`,
and the capacity is that of the block it points to.  `retrieve_buffer` may
replace the block of the front buffer, but it compares the requested size with
the number of buffers in the queue and not with the size of the buffer.

Size field and capacity always agree.  A buffer is therefore too small exactly
when the queue is long enough to suppress the replacement and the size field
of the front buffer is below the request.
-/

/-- `Buffer`: a pointer, which may be null, and a size. -/
structure BufferQueue.Buffer where
  val : Option Nat
  size : Nat
  deriving DecidableEq

/-- `BufferQueue`, with the heap that its buffers live in.  The heap records
the capacity of a block. -/
structure BufferQueue where
  heap : Heap Nat
  buffers : List BufferQueue.Buffer

namespace BufferQueue

def Buffer.null : Buffer := ⟨none, 0⟩

def new : Nat -> Nat -> BufferQueue
  | 0, _ => ⟨Heap.empty, []⟩
  | elements + 1, elemSize =>
      let queue := new elements elemSize
      ⟨queue.heap.allocate elemSize, queue.buffers ++ [⟨some queue.heap.next, elemSize⟩]⟩

def retrieveBuffer (queue : BufferQueue) (size : Nat) : Buffer × BufferQueue :=
  match queue.buffers with
  | [] => (Buffer.null, queue)
  | front :: rest =>
      if queue.buffers.length < size then
        let heap := queue.heap.release front.val
        (⟨some heap.next, size⟩, ⟨heap.allocate size, rest⟩)
      else (front, ⟨queue.heap, rest⟩)

/-- The queue loses its front buffer; what is handed out is that buffer or a new
one of the requested size. -/
theorem retrieveBuffer_cons {queue : BufferQueue} {front : Buffer} {rest : List Buffer}
    (listed : queue.buffers = front :: rest) (size : Nat) :
    (queue.retrieveBuffer size).2.buffers = rest ∧
      ((queue.retrieveBuffer size).1 = front ∨
        ((queue.retrieveBuffer size).1.val ≠ none ∧ (queue.retrieveBuffer size).1.size = size)) := by
  unfold retrieveBuffer
  rw [listed]
  dsimp only
  split
  · exact ⟨rfl, Or.inr ⟨Option.some_ne_none _, rfl⟩⟩
  · exact ⟨rfl, Or.inl rfl⟩

theorem retrieveBuffer_nil {queue : BufferQueue} (empty : queue.buffers = []) (size : Nat) :
    queue.retrieveBuffer size = (Buffer.null, queue) := by
  unfold retrieveBuffer
  rw [empty]

def returnBuffer (queue : BufferQueue) (buffer : Buffer) : BufferQueue :=
  { queue with buffers := queue.buffers ++ [buffer] }

theorem new_length (elements elemSize : Nat) :
    (new elements elemSize).buffers.length = elements := by
  induction elements with
  | zero => rfl
  | succ elements inductionHypothesis =>
      simp only [new, List.length_append, List.length_singleton, inductionHypothesis]

/-! ## Ownership -/

/-- The blocks that a list of buffers points to, with the sizes recorded for
them. -/
def entries (buffers : List Buffer) : List (Nat × Nat) :=
  buffers.filterMap (fun buffer => buffer.val.map (fun block => (block, buffer.size)))

/-- Every buffer of the list has a block of its own with the recorded size, or
is null with size zero. -/
structure Sound (heap : Heap Nat) (buffers : List Buffer) : Prop where
  owns : heap.Owns (entries buffers)
  null : forall buffer, buffer ∈ buffers -> buffer.val = none -> buffer.size = 0

theorem entries_cons (buffer : Buffer) (buffers : List Buffer) :
    entries (buffer :: buffers) =
      (buffer.val.map (fun block => (block, buffer.size))).toList ++ entries buffers := by
  unfold entries
  rw [List.filterMap_cons]
  cases buffer.val with
  | none => rfl
  | some block => rfl

theorem Sound.perm {heap : Heap Nat} {before after : List Buffer} (sound : Sound heap before)
    (same : before.Perm after) : Sound heap after where
  owns := sound.owns.perm (same.filterMap _)
  null := fun buffer member => sound.null buffer (same.mem_iff.mpr member)

theorem sound_nil (heap : Heap Nat) : Sound heap [] :=
  ⟨heap.owns_nil, fun _ member => False.elim (List.not_mem_nil member)⟩

theorem Sound.allocate {heap : Heap Nat} {buffers : List Buffer} (sound : Sound heap buffers)
    (size : Nat) : Sound (heap.allocate size) (⟨some heap.next, size⟩ :: buffers) where
  owns := by
    rw [entries_cons]
    exact sound.owns.allocate size
  null := by
    intro buffer member isNull
    rcases List.mem_cons.mp member with rfl | old
    · cases isNull
    · exact sound.null buffer old isNull

theorem Sound.release {heap : Heap Nat} {buffer : Buffer} {buffers : List Buffer}
    (sound : Sound heap (buffer :: buffers)) : Sound (heap.release buffer.val) buffers where
  owns := by
    have owns := sound.owns
    rw [entries_cons] at owns
    cases pointer : buffer.val with
    | none =>
        rw [pointer] at owns
        exact owns
    | some block =>
        rw [pointer] at owns
        exact owns.release
  null := fun other member => sound.null other (List.mem_cons_of_mem _ member)

theorem sound_new (elements elemSize : Nat) :
    Sound (new elements elemSize).heap (new elements elemSize).buffers := by
  induction elements with
  | zero => exact sound_nil _
  | succ elements inductionHypothesis =>
      exact (inductionHypothesis.allocate elemSize).perm (List.perm_append_singleton _ _).symm

/-- The buffer moves from the queue to its holder, with a new block if the old
one was replaced. -/
theorem sound_retrieveBuffer {queue : BufferQueue} {held : List Buffer}
    (sound : Sound queue.heap (queue.buffers ++ held)) (size : Nat)
    (found : queue.buffers ≠ []) :
    Sound (queue.retrieveBuffer size).2.heap ((queue.retrieveBuffer size).1 ::
      ((queue.retrieveBuffer size).2.buffers ++ held)) := by
  unfold retrieveBuffer
  cases listed : queue.buffers with
  | nil => exact False.elim (found listed)
  | cons front rest =>
      rw [listed] at sound
      dsimp only
      split
      · exact (Sound.release sound).allocate size
      · exact sound

/-! ## Retrieving and returning in any order -/

/-- The queue with the buffers that have been retrieved and not returned.  Every
buffer is in one of the two. -/
structure State where
  queue : BufferQueue
  held : List Buffer

inductive Action
  | retrieve (size : Nat)
  | giveBack (index : Nat)

/-- A call of `retrieve_buffer`, or of `return_buffer` with one of the buffers
retrieved before. -/
def step (state : State) : Action -> Option State
  | .retrieve size =>
      let retrieved := state.queue.retrieveBuffer size
      some ⟨retrieved.2, retrieved.1 :: state.held⟩
  | .giveBack index =>
      match state.held[index]? with
      | none => none
      | some buffer => some ⟨state.queue.returnBuffer buffer, state.held.eraseIdx index⟩

def system (elements elemSize : Nat) : TransitionSystem State Action where
  initial := ⟨new elements elemSize, []⟩
  step := step

/-- The buffers in the queue and those held are sound together: no block is in two
of them, and none is lost. -/
def State.Sound (state : State) : Prop :=
  BufferQueue.Sound state.queue.heap (state.queue.buffers ++ state.held)

theorem sound_step {state next : State} {action : Action} (sound : state.Sound)
    (stepped : step state action = some next) : next.Sound := by
  unfold State.Sound at sound ⊢
  cases action with
  | retrieve size =>
      cases stepped
      cases listed : state.queue.buffers with
      | nil =>
          -- The null buffer is handed out.
          rw [retrieveBuffer_nil listed]
          dsimp only
          rw [listed, List.nil_append] at sound ⊢
          refine ⟨?_, ?_⟩
          · rw [entries_cons]
            exact sound.owns
          · intro buffer member isNull
            rcases List.mem_cons.mp member with rfl | old
            · rfl
            · exact sound.null buffer old isNull
      | cons front rest =>
          have found : state.queue.buffers ≠ [] := by
            rw [listed]
            exact List.cons_ne_nil _ _
          exact (sound_retrieveBuffer sound size found).perm List.perm_middle.symm
  | giveBack index =>
      simp only [step] at stepped
      split at stepped
      · cases stepped
      · rename_i buffer present
        cases stepped
        apply sound.perm
        rcases List.getElem?_eq_some_iff.mp present with ⟨inside, rfl⟩
        simp only [returnBuffer, List.append_assoc, List.singleton_append]
        exact (List.getElem_cons_eraseIdx_perm inside).symm.append_left _

theorem sound_of_run {elements elemSize : Nat} {trace : List (State × Action)} {final : State}
    (run : TransitionSystem.Run (system elements elemSize) (system elements elemSize).initial
      trace final) : final.Sound := by
  apply run.invariant
  · change BufferQueue.Sound (new elements elemSize).heap ((new elements elemSize).buffers ++ [])
    rw [List.append_nil]
    exact sound_new elements elemSize
  · intro source action target sound stepped
    exact sound_step sound stepped

/-! ## Large enough buffers -/

/-- The number of elements that the block of a buffer takes; a null pointer and
a released block take none. -/
def Buffer.capacity (heap : Heap Nat) (buffer : Buffer) : Nat :=
  (buffer.val.bind heap.blocks).getD 0

/-- The capacity of a sound buffer is its size field. -/
theorem Sound.capacity_eq {heap : Heap Nat} {buffers : List Buffer} (sound : Sound heap buffers)
    {buffer : Buffer} (member : buffer ∈ buffers) : buffer.capacity heap = buffer.size := by
  unfold Buffer.capacity
  cases pointer : buffer.val with
  | none => exact (sound.null buffer member pointer).symm
  | some block =>
      have listed : (block, buffer.size) ∈ entries buffers :=
        List.mem_filterMap.mpr ⟨buffer, member, by rw [pointer]; rfl⟩
      rw [Option.bind_some, sound.owns.live _ listed, Option.getD_some]

/-- What `retrieve_buffer` promises: a buffer whose size field is not zero has
room for the requested size, and a read of that many bytes into it stays
inside. -/
def Sufficient (queue : BufferQueue) (size : Nat) : Prop :=
  let retrieved := queue.retrieveBuffer size
  retrieved.1.size ≠ 0 ->
    size ≤ retrieved.1.capacity retrieved.2.heap ∧
      forall connection, (readN size connection).bytes.length ≤
        retrieved.1.capacity retrieved.2.heap

/-- The block is replaced, or the front buffer is null or already as large as
the request. -/
def roomy (queue : BufferQueue) (size : Nat) : Bool :=
  match queue.buffers with
  | [] => true
  | front :: _ => decide (queue.buffers.length < size ∨ front.size = 0 ∨ size ≤ front.size)

theorem sufficient_iff {queue : BufferQueue} {held : List Buffer}
    (sound : Sound queue.heap (queue.buffers ++ held)) (size : Nat) :
    queue.Sufficient size ↔ queue.roomy size = true := by
  have enough (capacity : Nat) : (size ≤ capacity ∧
      forall connection, (readN size connection).bytes.length ≤ capacity) ↔ size ≤ capacity := by
    refine ⟨And.left, fun fits => ⟨fits, ?_⟩⟩
    intro connection
    exact Nat.le_trans (readN_length_le size connection) fits
  cases listed : queue.buffers with
  | nil => simp only [Sufficient, roomy, retrieveBuffer, listed, Buffer.null, ne_eq,
      not_true_eq_false, false_imp_iff]
  | cons front rest =>
      have found : queue.buffers ≠ [] := by
        rw [listed]
        exact List.cons_ne_nil _ _
      have capacity := (sound_retrieveBuffer sound size found).capacity_eq List.mem_cons_self
      simp only [Sufficient, enough, capacity]
      simp only [roomy, retrieveBuffer, listed, decide_eq_true_eq]
      split
      · rename_i replaced
        simp only [Nat.le_refl, implies_true, replaced, true_or]
      · rename_i kept
        simp only [kept, false_or, ne_eq, Decidable.imp_iff_not_or, Decidable.not_not]

/-- The condition on a step; a return needs none. -/
def leavesRoom (state : State) : Action -> Bool
  | .retrieve size => state.queue.roomy size
  | .giveBack _ => true

/-- In every run, the retrieved buffers are all large enough exactly if every
retrieval meets the condition. -/
theorem retrieved_sufficient_iff {elements elemSize : Nat} {trace : List (State × Action)}
    {final : State}
    (run : TransitionSystem.Run (system elements elemSize) (system elements elemSize).initial
      trace final) :
    (forall state size, (state, Action.retrieve size) ∈ trace -> state.queue.Sufficient size) ↔
      TransitionSystem.Guarded (fun state action => leavesRoom state action = true) trace := by
  have sound : forall entry, entry ∈ trace -> entry.1.Sound := by
    apply run.traced_invariant (fun trace _ => forall entry, entry ∈ trace -> State.Sound entry.1)
    · intro entry member
      exact False.elim (List.not_mem_nil member)
    · intro trace source action target earlier old _ entry member
      rcases List.mem_append.mp member with before | last
      · exact old entry before
      · rw [List.mem_singleton.mp last]
        exact sound_of_run earlier
  constructor
  · rintro sufficient ⟨state, action⟩ member
    cases action with
    | retrieve size =>
        exact (sufficient_iff (sound _ member) size).mp (sufficient state size member)
    | giveBack index => rfl
  · intro guarded state size member
    exact (sufficient_iff (sound _ member) size).mpr (guarded _ member)

/-- One holder of two buffers of eight elements. -/
theorem retrieved_sufficient_once :
    Exists fun trace => Exists fun final =>
      TransitionSystem.Run (system 2 8) (system 2 8).initial trace final ∧
        trace.length = 3 ∧
        forall state size, (state, Action.retrieve size) ∈ trace -> state.queue.Sufficient size := by
  rcases TransitionSystem.exists_run (system 2 8) (system 2 8).initial
    [.retrieve 5, .giveBack 0, .retrieve 9]
    (fun trace _ => decide (trace.length = 3) &&
      trace.all (fun entry => leavesRoom entry.1 entry.2)) (by decide) with
    ⟨trace, final, run, tested⟩
  rw [Bool.and_eq_true] at tested
  exact ⟨trace, final, run, of_decide_eq_true tested.1,
    (retrieved_sufficient_iff run).mpr (TransitionSystem.guarded_of_all tested.2)⟩

/-- Of four buffers the last is replaced by one of two elements; then all are
returned and the queue turns until that one is in front. -/
def replaceAndTurn : List Action :=
  [.retrieve 1, .retrieve 1, .retrieve 1, .retrieve 2, .giveBack 3, .giveBack 2, .giveBack 1,
    .giveBack 0, .retrieve 1, .giveBack 0, .retrieve 1, .giveBack 0, .retrieve 1, .giveBack 0]

/-- The buffers of a session with two functions, four of six megabytes each. -/
abbrev sessionBuffers : TransitionSystem State Action := system 4 (6 * 1024 * 1024)

/-- A request of three bytes is then given the buffer of two. -/
theorem small_buffer_retrieved :
    Exists fun trace => Exists fun final =>
      TransitionSystem.Run sessionBuffers sessionBuffers.initial trace final ∧
        Exists fun state =>
          (state, Action.retrieve 3) ∈ trace ∧ ¬ state.queue.Sufficient 3 := by
  rcases TransitionSystem.exists_run sessionBuffers sessionBuffers.initial replaceAndTurn
    (fun _ state => decide (state.queue.roomy 3 = false)) (by decide) with
    ⟨trace, state, run, tested⟩
  have stepped : sessionBuffers.step state (.retrieve 3) = some _ := rfl
  refine ⟨_, _, run.extend stepped, state, ?_, ?_⟩
  · exact List.mem_append.mpr (Or.inr (List.mem_singleton.mpr rfl))
  · rw [sufficient_iff (sound_of_run run) 3, of_decide_eq_true tested]
    exact Bool.false_ne_true

end BufferQueue
end Execution
end Praas
