import Mathlib.Data.Finmap

namespace Praas
namespace Library

/-!
# A finite map with guarded operations

The four operations of a store that answers whether it did what it was asked
for.  An operation that fails leaves the map as it was.  A table, which is a
function from keys to the values they hold, represents a map when both answer
every look-up alike; how such a table computes is left open here.
-/

/-- An operation of a store. -/
inductive Command (Key : Type u) (Value : Type v)
  | create (key : Key) (value : Value)
  | put (key : Key) (value : Value)
  | get (key : Key)
  | erase (key : Key)

/-- What an operation reports, and the value it gives access to. -/
structure Answer (Value : Type v) where
  result : Bool
  value : Option Value

variable {Key : Type u} {Value : Type v} [DecidableEq Key]

abbrev GuardedMap (Key : Type u) (Value : Type v) := Finmap (fun _ : Key => Value)

namespace GuardedMap

/-- The map meant by the operations: `create` inserts a key that is absent,
`put` and `erase` act on a key that is present, and `get` only looks. -/
def apply (map : GuardedMap Key Value) : Command Key Value -> Answer Value × GuardedMap Key Value
  | .create key value =>
      if (map.lookup key).isNone then (⟨true, none⟩, map.insert key value) else (⟨false, none⟩, map)
  | .put key value =>
      if (map.lookup key).isSome then (⟨true, none⟩, map.insert key value) else (⟨false, none⟩, map)
  | .get key => (⟨(map.lookup key).isSome, map.lookup key⟩, map)
  | .erase key =>
      if (map.lookup key).isSome then (⟨true, none⟩, map.erase key) else (⟨false, none⟩, map)

def after (commands : List (Command Key Value)) : GuardedMap Key Value :=
  commands.foldl (fun map command => (map.apply command).2) ∅

theorem after_append (commands : List (Command Key Value)) (command : Command Key Value) :
    after (commands ++ [command]) = ((after commands).apply command).2 := by
  unfold after
  rw [List.foldl_append]
  rfl

theorem apply_of_failed {map : GuardedMap Key Value} {command : Command Key Value}
    (failed : (map.apply command).1.result = false) : (map.apply command).2 = map := by
  cases command with
  | get key => rfl
  | create key value | put key value | erase key =>
      unfold apply at failed ⊢
      dsimp only at failed ⊢
      split
      · rename_i done
        rw [if_pos done] at failed
        cases failed
      · rfl

end GuardedMap

/-! ## Tables that represent a map -/

/-- The table answers every look-up as the map does.  It says nothing of what the
operations of the table report. -/
def Represents (table : Key -> Option Value) (map : GuardedMap Key Value) : Prop :=
  forall key, table key = map.lookup key

namespace Represents

variable {table : Key -> Option Value} {map : GuardedMap Key Value}

theorem empty : Represents (fun _ => none) (∅ : GuardedMap Key Value) := by
  intro key
  rw [Finmap.lookup_empty]

/-- A map is represented by one table only. -/
theorem unique {other : Key -> Option Value} (represents : Represents table map)
    (same : Represents other map) : table = other := by
  funext key
  exact (represents key).trans (same key).symm

theorem update (represents : Represents table map) (key : Key) (value : Value) :
    Represents (Function.update table key (some value)) (map.insert key value) := by
  intro other
  by_cases same : other = key
  · rw [same, Function.update_self, Finmap.lookup_insert]
  · rw [Function.update_of_ne same, Finmap.lookup_insert_of_ne _ same]
    exact represents other

theorem clear (represents : Represents table map) (key : Key) :
    Represents (Function.update table key none) (map.erase key) := by
  intro other
  by_cases same : other = key
  · rw [same, Function.update_self, Finmap.lookup_erase]
  · rw [Function.update_of_ne same, Finmap.lookup_erase_ne same]
    exact represents other

end Represents
end Library
end Praas
