import Mathlib.Data.List.Nodup
import Mathlib.Data.List.Perm.Basic
import Mathlib.Logic.Function.Basic

namespace Praas
namespace Library

/-!
# A heap of blocks and the pointers that own them

A block has a value from its allocation to its release, and a released block
is never given out again.  A program that frees what it holds exactly once
keeps a list of pointers, each to a live block of its own.  The rules below
say how that list changes when a block is allocated, released or handed from
one holder to another.
-/

variable {α : Type u}

/-- Blocks by their address, and the next address to give out.  What a program
reads through a pointer to a released block is not defined; here the block is
`none`. -/
structure Heap (α : Type u) where
  blocks : Nat -> Option α
  next : Nat

namespace Heap

def empty : Heap α := ⟨fun _ => none, 0⟩

/-- `new`: the heap after an allocation; the block is at the old `next`. -/
def allocate (heap : Heap α) (value : α) : Heap α :=
  ⟨Function.update heap.blocks heap.next (some value), heap.next + 1⟩

/-- `delete`; a null pointer is left alone. -/
def release (heap : Heap α) (pointer : Option Nat) : Heap α :=
  match pointer with
  | none => heap
  | some block => { heap with blocks := Function.update heap.blocks block none }

/-- An allocation leaves the blocks before it alone. -/
theorem blocks_allocate (heap : Heap α) (value : α) {block : Nat} (old : block < heap.next) :
    (heap.allocate value).blocks block = heap.blocks block :=
  Function.update_of_ne (Nat.ne_of_lt old) _ _

theorem blocks_release_allocate (heap : Heap α) (value : α) {block : Nat}
    (other : block ≠ heap.next) :
    ((heap.allocate value).release (some heap.next)).blocks block = heap.blocks block :=
  (Function.update_of_ne other _ _).trans (Function.update_of_ne other _ _)

/-- Every entry points to a live block with its value, and no two entries to
the same one. -/
structure Owns (heap : Heap α) (entries : List (Nat × α)) : Prop where
  distinct : (entries.map Prod.fst).Nodup
  live : forall entry, entry ∈ entries -> heap.blocks entry.1 = some entry.2
  below : forall entry, entry ∈ entries -> entry.1 < heap.next

theorem owns_nil (heap : Heap α) : heap.Owns [] :=
  ⟨List.nodup_nil, fun _ member => False.elim (List.not_mem_nil member),
    fun _ member => False.elim (List.not_mem_nil member)⟩

/-- Handing pointers around changes nothing. -/
theorem Owns.perm {heap : Heap α} {before after : List (Nat × α)} (owns : heap.Owns before)
    (same : before.Perm after) : heap.Owns after where
  distinct := (same.map Prod.fst).nodup_iff.mp owns.distinct
  live := fun entry member => owns.live entry (same.mem_iff.mpr member)
  below := fun entry member => owns.below entry (same.mem_iff.mpr member)

theorem Owns.allocate {heap : Heap α} {entries : List (Nat × α)} (owns : heap.Owns entries)
    (value : α) : (heap.allocate value).Owns ((heap.next, value) :: entries) where
  distinct := by
    rw [List.map_cons, List.nodup_cons]
    refine ⟨?_, owns.distinct⟩
    intro member
    rcases List.mem_map.mp member with ⟨entry, listed, same⟩
    have below := owns.below entry listed
    rw [same] at below
    exact Nat.lt_irrefl _ below
  live := by
    intro entry member
    rcases List.mem_cons.mp member with rfl | old
    · exact Function.update_self _ _ _
    · have different : entry.1 ≠ heap.next := Nat.ne_of_lt (owns.below entry old)
      exact (Function.update_of_ne different _ _).trans (owns.live entry old)
  below := by
    intro entry member
    rcases List.mem_cons.mp member with rfl | old
    · exact Nat.lt_succ_self _
    · exact Nat.lt_succ_of_lt (owns.below entry old)

/-- A released block is given up by its pointer; the others keep theirs. -/
theorem Owns.release {heap : Heap α} {block : Nat} {value : α} {entries : List (Nat × α)}
    (owns : heap.Owns ((block, value) :: entries)) : (heap.release (some block)).Owns entries := by
  have distinct := owns.distinct
  rw [List.map_cons, List.nodup_cons] at distinct
  refine ⟨distinct.2, ?_, ?_⟩
  · intro entry member
    have different : entry.1 ≠ block := by
      intro same
      have listed : entry.1 ∈ entries.map Prod.fst := List.mem_map_of_mem member
      rw [same] at listed
      exact distinct.1 listed
    exact (Function.update_of_ne different _ _).trans
      (owns.live entry (List.mem_cons_of_mem _ member))
  · intro entry member
    exact owns.below entry (List.mem_cons_of_mem _ member)

end Heap
end Library
end Praas
