import Praas.Library.GuardedMap
import Praas.Library.Places
import Praas.LocalMemory.Store

namespace Praas
namespace LocalMemory

open Library

/-!
# The cache as a map with guarded operations

Each operation of `Cache` decides its result and its effect separately.
`create` inserts the key with an accessor that it holds also when the key was
taken, and writes the object through the accessor before it returns the result
of the insertion.  A `create` that fails thus replaces the object of its key,
and the client is told that nothing was done.
-/

namespace Cache

def get (cache : Cache) (key : Bytes) : Bool × Option Object :=
  ((cache key).isSome, cache key)

/-- One call of the cache, with what it reports. -/
def apply (cache : Cache) : Command Bytes Object -> Answer Object × Cache
  | .create key object => (⟨(cache.create key object).1, none⟩, (cache.create key object).2)
  | .put key object => (⟨(cache.put key object).1, none⟩, (cache.put key object).2)
  | .get key => (⟨(cache.get key).1, (cache.get key).2⟩, cache)
  | .erase key => (⟨(cache.erase key).1, none⟩, (cache.erase key).2)

def after (commands : List (Command Bytes Object)) : Cache :=
  commands.foldl (fun cache command => (cache.apply command).2) (fun _ => none)

theorem after_append (commands : List (Command Bytes Object)) (command : Command Bytes Object) :
    after (commands ++ [command]) = ((after commands).apply command).2 := by
  unfold after
  rw [List.foldl_append]
  rfl

end Cache

/-! ## Agreement with the map -/

/-- A call reports what the map of the calls before it reports, leaves the
cache that represents the map after it, and leaves the cache alone when it
reports a failure. -/
def AgreesWithMap (before : List (Command Bytes Object)) (command : Command Bytes Object) : Prop :=
  ((Cache.after before).apply command).1 = ((GuardedMap.after before).apply command).1 ∧
    Represents ((Cache.after before).apply command).2
      ((GuardedMap.after before).apply command).2 ∧
    (((Cache.after before).apply command).1.result = false ->
      ((Cache.after before).apply command).2 = Cache.after before)

/-- The cache behaves as the map along a sequence of calls. -/
def BehavesAsMap (commands : List (Command Bytes Object)) : Prop :=
  EveryPlace AgreesWithMap commands

/-- The call is not a `create` of a key that is present, unless with the object
that the key has. -/
def createsAbsent (before : List (Command Bytes Object)) : Command Bytes Object -> Prop
  | .create key object =>
      forall present, (GuardedMap.after before).lookup key = some present -> present = object
  | _ => True

section Call

variable {cache : Cache} {map : GuardedMap Bytes Object}

/-- A call other than a `create` of a present key answers as the map does and
represents it afterwards. -/
theorem represents_call (represents : Represents cache map) (command : Command Bytes Object)
    (absent : forall key object, command = .create key object ->
      forall present, map.lookup key = some present -> present = object) :
    (cache.apply command).1 = (map.apply command).1 ∧
      Represents (cache.apply command).2 (map.apply command).2 := by
  cases command with
  | get key =>
      refine ⟨?_, represents⟩
      simp only [Cache.apply, Cache.get, GuardedMap.apply, represents key]
  | create key object =>
      cases found : map.lookup key with
      | none =>
          have free : cache key = none := (represents key).trans found
          simp only [Cache.apply, Cache.create, GuardedMap.apply, free, found, Option.isNone_none,
            if_true, true_and]
          exact represents.update key object
      | some present =>
          have taken : cache key = some object := by
            rw [represents key, found, absent key object rfl present found]
          have same : Function.update cache key (some object) = cache := by
            rw [← taken, Function.update_eq_self]
          simp only [Cache.apply, Cache.create, GuardedMap.apply, found, taken, Option.isNone_some,
            Bool.false_eq_true, if_false, same, true_and]
          exact represents
  | put key object =>
      cases found : map.lookup key with
      | none =>
          have free : cache key = none := (represents key).trans found
          simp only [Cache.apply, Cache.put, GuardedMap.apply, free, found, Option.isSome_none,
            Bool.false_eq_true, if_false, true_and]
          exact represents
      | some present =>
          have taken : cache key = some present := (represents key).trans found
          simp only [Cache.apply, Cache.put, GuardedMap.apply, found, taken, Option.isSome_some,
            if_true, true_and]
          exact represents.update key object
  | erase key =>
      cases found : map.lookup key with
      | none =>
          have free : cache key = none := (represents key).trans found
          have same : Function.update cache key none = cache := by
            rw [← free, Function.update_eq_self]
          simp only [Cache.apply, Cache.erase, GuardedMap.apply, found, free, Option.isSome_none,
            Bool.false_eq_true, if_false, same, true_and]
          exact represents
      | some present =>
          have taken : cache key = some present := (represents key).trans found
          simp only [Cache.apply, Cache.erase, GuardedMap.apply, found, taken, Option.isSome_some,
            if_true, true_and]
          exact represents.clear key

/-- Such a call leaves the cache alone when it fails, since the map does. -/
theorem kept_by_failure {command : Command Bytes Object} (represents : Represents cache map)
    (answered : (cache.apply command).1 = (map.apply command).1)
    (later : Represents (cache.apply command).2 (map.apply command).2)
    (failed : (cache.apply command).1.result = false) : (cache.apply command).2 = cache := by
  rw [answered] at failed
  rw [GuardedMap.apply_of_failed failed] at later
  exact later.unique represents

/-- A `create` of a present key that leaves the cache alone was given the
object of the key. -/
theorem kept_by_create {key : Bytes} {present object : Object} (taken : cache key = some present)
    (kept : ((cache.apply (.create key object)).1.result = false ->
      (cache.apply (.create key object)).2 = cache)) : present = object := by
  have failed : (cache.apply (.create key object)).1.result = false := by
    simp only [Cache.apply, Cache.create, taken, Option.isNone_some]
  have written : Function.update cache key (some object) key = cache key :=
    congrFun (kept failed) key
  rw [Function.update_self, taken] at written
  exact (Option.some.inj written).symm

end Call

/-- The cache represents the map after a sequence along which it behaves as
the map. -/
theorem represents_after {commands : List (Command Bytes Object)}
    (behaves : BehavesAsMap commands) :
    Represents (Cache.after commands) (GuardedMap.after commands) := by
  induction commands using List.reverseRecOn with
  | nil => exact Represents.empty
  | append_singleton commands command _ =>
      rw [Cache.after_append, GuardedMap.after_append]
      exact (everyPlace_append.mp behaves).2.2.1

/-- The cache behaves as a map with guarded operations along a sequence of
calls exactly when no `create` of it names a present key with another object. -/
theorem cache_behaves_as_map_iff (commands : List (Command Bytes Object)) :
    BehavesAsMap commands ↔ EveryPlace createsAbsent commands := by
  apply everyPlace_congr
  intro before command behaves _
  have represents := represents_after behaves
  constructor
  · intro agrees
    cases command with
    | create key object =>
        intro present found
        exact kept_by_create ((represents key).trans found) agrees.2.2
    | put | get | erase => trivial
  · intro absent
    have agrees := represents_call represents command (by
      rintro key object rfl
      exact absent)
    exact ⟨agrees.1, agrees.2, kept_by_failure represents agrees.1 agrees.2⟩

/-- A second `create` of a name is refused and replaces the object. -/
theorem refused_create_overwrites :
    ¬ forall commands : List (Command Bytes Object), BehavesAsMap commands := by
  intro always
  have kept := (always [.create [1] ⟨none, 1⟩, .create [1] ⟨none, 2⟩]
    [.create [1] ⟨none, 1⟩] (.create [1] ⟨none, 2⟩) [] rfl).2.2
  have same := kept_by_create (rfl : Cache.after [.create [1] ⟨none, 1⟩] [1] = some ⟨none, 1⟩) kept
  cases same

end LocalMemory
end Praas
