import Mathlib.Data.List.Count
import Praas.Library.Bytes

namespace Praas
namespace ControlPlane

open Library

/-!
# The Redis database of the control plane

The control plane keeps one string per allocated process and per session, and
two sets per process: the sessions marked alive and the sessions swapped out.
Keys are built by prefixing an identifier.  Here they are constructors, and
`Key.text_injective` says that no two of them are written as the same string;
in particular a string key and a set key never meet, so the two kinds of
values can be kept apart.

A set is stored as the list of its members, one pair for every key and
member, so that the sets holding a given session can be counted.
-/

/-- The keys that the control plane uses. -/
inductive Key
  | process (id : Bytes)
  | session (id : Bytes)
  | sessionsAlive (id : Bytes)
  | sessionsSwapped (id : Bytes)
  deriving DecidableEq

def Key.text : Key -> Bytes
  | .process id => ascii "PROCESS_" ++ id
  | .session id => ascii "SESSION_" ++ id
  | .sessionsAlive id => ascii "SESSIONS_ALIVE_" ++ id
  | .sessionsSwapped id => ascii "SESSIONS_SWAPPED_" ++ id

/-- Distinct keys have distinct texts.  The eighth character separates the
session records from the session sets, whatever the identifiers are. -/
theorem Key.text_injective : Function.Injective Key.text := by
  intro left right same
  cases left <;> cases right <;>
    simp [Key.text, ascii] at same ⊢ <;> exact same

/-- The database: string values and set members, as far as the control plane uses
them.  Every command is atomic, as the server executes one at a time. -/
structure Redis where
  strings : Key -> Option Bytes
  sets : List (Key × Bytes)

namespace Redis

def empty : Redis := ⟨fun _ => none, []⟩

def get (redis : Redis) (key : Key) : Option Bytes :=
  redis.strings key

def set (redis : Redis) (key : Key) (value : Bytes) : Redis :=
  { redis with strings := Function.update redis.strings key (some value) }

def sismember (redis : Redis) (key : Key) (member : Bytes) : Bool :=
  (key, member) ∈ redis.sets

def sadd (redis : Redis) (key : Key) (member : Bytes) : Redis :=
  if (key, member) ∈ redis.sets then redis
  else { redis with sets := (key, member) :: redis.sets }

/-- Remove a member; the reply is the number of members removed. -/
def srem (redis : Redis) (key : Key) (member : Bytes) : Nat × Redis :=
  (if (key, member) ∈ redis.sets then 1 else 0,
    { redis with sets := redis.sets.filter (fun entry => entry ≠ (key, member)) })

@[simp] theorem sadd_strings (redis : Redis) (key : Key) (member : Bytes) :
    (redis.sadd key member).strings = redis.strings := by
  unfold sadd
  split <;> rfl

@[simp] theorem srem_strings (redis : Redis) (key : Key) (member : Bytes) :
    (redis.srem key member).2.strings = redis.strings := rfl

@[simp] theorem mem_sadd (redis : Redis) (key : Key) (member : Bytes) (entry : Key × Bytes) :
    entry ∈ (redis.sadd key member).sets ↔ entry = (key, member) ∨ entry ∈ redis.sets := by
  unfold sadd
  split
  · rename_i present
    constructor
    · exact Or.inr
    · rintro (rfl | old)
      · exact present
      · exact old
  · exact List.mem_cons

@[simp] theorem mem_srem (redis : Redis) (key : Key) (member : Bytes) (entry : Key × Bytes) :
    entry ∈ (redis.srem key member).2.sets ↔ entry ∈ redis.sets ∧ entry ≠ (key, member) := by
  simp only [srem, List.mem_filter, decide_eq_true_eq]

theorem srem_reply (redis : Redis) (key : Key) (member : Bytes) :
    (redis.srem key member).1 = 1 ↔ (key, member) ∈ redis.sets := by
  by_cases present : (key, member) ∈ redis.sets <;> simp [srem, present]

theorem srem_absent (redis : Redis) (key : Key) (member : Bytes)
    (absent : (key, member) ∉ redis.sets) : (redis.srem key member).2 = redis := by
  have kept : redis.sets.filter (fun entry => entry ≠ (key, member)) = redis.sets := by
    apply List.filter_eq_self.mpr
    intro entry present
    apply decide_eq_true
    intro same
    exact absent (same ▸ present)
  simp only [srem, kept]

/-! ## Counting the swapped-out sets that hold a session -/

/-- The entry puts the session into some set of swapped-out sessions. -/
def isSwapped (session : Bytes) (entry : Key × Bytes) : Bool :=
  match entry with
  | (.sessionsSwapped _, member) => decide (member = session)
  | _ => false

/-- The number of swapped-out sets that hold the session. -/
def swappedCount (redis : Redis) (session : Bytes) : Nat :=
  redis.sets.countP (isSwapped session)

@[simp] theorem swappedCount_set (redis : Redis) (key : Key) (value session : Bytes) :
    (redis.set key value).swappedCount session = redis.swappedCount session := rfl

theorem swappedCount_pos {redis : Redis} {id session : Bytes}
    (member : (Key.sessionsSwapped id, session) ∈ redis.sets) : 0 < redis.swappedCount session :=
  List.countP_pos_iff.mpr ⟨_, member, by simp [isSwapped]⟩

theorem swappedCount_eq_zero {redis : Redis} {session : Bytes}
    (absent : forall id, (Key.sessionsSwapped id, session) ∉ redis.sets) :
    redis.swappedCount session = 0 := by
  apply List.countP_eq_zero.mpr
  rintro ⟨key, member⟩ present counted
  cases key with
  | sessionsSwapped id =>
      rw [of_decide_eq_true counted] at present
      exact absent id present
  | _ => exact Bool.false_ne_true counted

@[simp] theorem swappedCount_sadd_alive (redis : Redis) (id member session : Bytes) :
    (redis.sadd (.sessionsAlive id) member).swappedCount session = redis.swappedCount session := by
  unfold sadd swappedCount
  split
  · rfl
  · simp [isSwapped]

/-- A swapped-out set gains the session that is added. -/
theorem swappedCount_sadd_swapped {redis : Redis} {id member : Bytes}
    (absent : (Key.sessionsSwapped id, member) ∉ redis.sets) (session : Bytes) :
    (redis.sadd (.sessionsSwapped id) member).swappedCount session =
      redis.swappedCount session + (if member = session then 1 else 0) := by
  unfold sadd swappedCount
  rw [if_neg absent, List.countP_cons]
  simp only [isSwapped, decide_eq_true_eq]

theorem swappedCount_sadd_swapped_le (redis : Redis) (id member session : Bytes) :
    (redis.sadd (.sessionsSwapped id) member).swappedCount session ≤
      redis.swappedCount session + (if member = session then 1 else 0) := by
  by_cases present : (Key.sessionsSwapped id, member) ∈ redis.sets
  · rw [sadd, if_pos present]
    exact Nat.le_add_right _ _
  · exact Nat.le_of_eq (swappedCount_sadd_swapped present session)

theorem swappedCount_srem_le (redis : Redis) (key : Key) (member session : Bytes) :
    (redis.srem key member).2.swappedCount session ≤ redis.swappedCount session :=
  (List.filter_sublist).countP_le

/-- A removal is not seen by the sessions it does not name. -/
theorem swappedCount_srem_of_uncounted (redis : Redis) (key : Key) (member session : Bytes)
    (uncounted : isSwapped session (key, member) = false) :
    (redis.srem key member).2.swappedCount session = redis.swappedCount session := by
  unfold srem swappedCount
  rw [List.countP_filter]
  apply List.countP_congr
  intro entry _
  simp only [ne_eq, Bool.and_eq_true, decide_eq_true_eq, and_iff_left_iff_imp]
  intro counted same
  rw [same, uncounted] at counted
  exact Bool.false_ne_true counted

@[simp] theorem swappedCount_srem_alive (redis : Redis) (id member session : Bytes) :
    (redis.srem (.sessionsAlive id) member).2.swappedCount session = redis.swappedCount session :=
  redis.swappedCount_srem_of_uncounted _ _ _ rfl

theorem swappedCount_srem_of_ne (redis : Redis) (id : Bytes) {member session : Bytes}
    (different : member ≠ session) :
    (redis.srem (.sessionsSwapped id) member).2.swappedCount session = redis.swappedCount session :=
  redis.swappedCount_srem_of_uncounted _ _ _ (decide_eq_false different)

/-- A removal that found its member takes the session out of one set. -/
theorem swappedCount_srem_found (redis : Redis) (id session : Bytes)
    (found : (redis.srem (.sessionsSwapped id) session).1 = 1) :
    (redis.srem (.sessionsSwapped id) session).2.swappedCount session + 1 ≤
      redis.swappedCount session := by
  have present := (redis.srem_reply _ _).mp found
  unfold srem swappedCount
  generalize redis.sets = entries at present
  induction entries with
  | nil => exact False.elim (List.not_mem_nil present)
  | cons entry rest inductionHypothesis =>
      by_cases same : entry = (Key.sessionsSwapped id, session)
      · have fewer : (rest.filter (fun entry => entry ≠ (Key.sessionsSwapped id, session))).countP
            (isSwapped session) ≤ rest.countP (isSwapped session) :=
          (List.filter_sublist).countP_le
        have counted : isSwapped session entry = true := by simp [same, isSwapped]
        simp only [List.filter_cons, same, ne_eq, not_true_eq_false, decide_false,
          Bool.false_eq_true, if_false, List.countP_cons] at fewer ⊢
        rw [same] at counted
        simp only [counted, if_true]
        omega
      · have later := inductionHypothesis ((List.mem_cons.mp present).resolve_left (Ne.symm same))
        simp only [List.filter_cons, same, ne_eq, not_false_eq_true, decide_true, if_true,
          List.countP_cons] at later ⊢
        omega

end Redis
end ControlPlane
end Praas
