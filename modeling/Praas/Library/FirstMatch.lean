import Mathlib.Algebra.BigOperators.Group.List.Basic
import Mathlib.Algebra.GroupWithZero.Nat
import Mathlib.Data.List.Basic

namespace Praas
namespace Library

/-!
# Updating one element of a list

Two ways to pick the element: by its index, and as the first one that matches
a test.  Both lemmas present the list as the elements before the picked one,
the picked one, and those after it, and the updated list in the same form.
Counts and sums over the list then split into three parts, of which only the
middle one changes.
-/

variable {α : Type u}

/-- Apply a function to the first element that matches, as a program does with the
result of a search. -/
def updateFirst (test : α -> Bool) (change : α -> α) : List α -> List α
  | [] => []
  | head :: rest => if test head then change head :: rest else head :: updateFirst test change rest

/-- The list around the first match, before and after an update of it. -/
theorem split_of_find {test : α -> Bool} {values : List α} {found : α}
    (first : values.find? test = some found) :
    Exists fun before => Exists fun after =>
      values = before ++ found :: after ∧ test found = true ∧
        forall change, updateFirst test change values = before ++ change found :: after := by
  induction values with
  | nil => cases first
  | cons head rest inductionHypothesis =>
      rw [List.find?_cons] at first
      cases selected : test head with
      | true =>
          simp only [selected, Option.some.injEq] at first
          subst first
          refine ⟨[], rest, rfl, selected, ?_⟩
          intro change
          simp only [updateFirst, selected, if_true, List.nil_append]
      | false =>
          simp only [selected] at first
          rcases inductionHypothesis first with ⟨before, after, whole, matched, updated⟩
          refine ⟨head :: before, after, by rw [whole, List.cons_append], matched, ?_⟩
          intro change
          simp only [updateFirst, selected, Bool.false_eq_true, if_false, updated, List.cons_append]

theorem updateFirst_of_find_none {test : α -> Bool} {values : List α}
    (absent : values.find? test = none) (change : α -> α) :
    updateFirst test change values = values := by
  induction values with
  | nil => rfl
  | cons head rest inductionHypothesis =>
      rw [List.find?_cons] at absent
      cases selected : test head with
      | true => simp only [selected, reduceCtorEq] at absent
      | false =>
          simp only [selected] at absent
          simp only [updateFirst, selected, Bool.false_eq_true, if_false, inductionHypothesis absent]

/-- After an update every element is an old one or an updated one. -/
theorem mem_or_of_mem_updateFirst {test : α -> Bool} {change : α -> α} {values : List α} {value : α}
    (member : value ∈ updateFirst test change values) :
    value ∈ values ∨ Exists fun old => old ∈ values ∧ value = change old := by
  cases first : values.find? test with
  | none =>
      rw [updateFirst_of_find_none first] at member
      exact Or.inl member
  | some found =>
      rcases split_of_find first with ⟨before, after, whole, _, updated⟩
      rw [updated] at member
      rw [whole]
      rcases List.mem_append.mp member with earlier | rest
      · exact Or.inl (List.mem_append.mpr (Or.inl earlier))
      · rcases List.mem_cons.mp rest with same | later
        · exact Or.inr ⟨found, List.mem_append.mpr (Or.inr List.mem_cons_self), same⟩
        · exact Or.inl (List.mem_append.mpr (Or.inr (List.mem_cons_of_mem _ later)))

theorem find_updateFirst {test : α -> Bool} {change : α -> α} {values : List α} {found : α}
    (first : values.find? test = some found) (kept : test (change found) = true) :
    (updateFirst test change values).find? test = some (change found) := by
  induction values with
  | nil => cases first
  | cons head rest inductionHypothesis =>
      cases matching : test head with
      | true =>
          rw [List.find?_cons_of_pos matching, Option.some.injEq] at first
          subst first
          rw [updateFirst, if_pos matching, List.find?_cons_of_pos kept]
      | false =>
          have missed : ¬ test head = true := by
            rw [matching]
            exact Bool.false_ne_true
          rw [List.find?_cons_of_neg missed] at first
          rw [updateFirst, if_neg missed, List.find?_cons_of_neg missed]
          exact inductionHypothesis first

theorem map_updateFirst {β : Type v} (test : α -> Bool) (change : α -> α) (project : α -> β)
    (kept : forall value, project (change value) = project value) (values : List α) :
    (updateFirst test change values).map project = values.map project := by
  induction values with
  | nil => rfl
  | cons head rest inductionHypothesis =>
      simp only [updateFirst]
      split
      · simp only [List.map_cons, kept]
      · simp only [List.map_cons, inductionHypothesis]

/-- The list around an index, before and after the element there is set. -/
theorem split_of_getElem {values : List α} {index : Nat} {found : α}
    (present : values[index]? = some found) :
    Exists fun before => Exists fun after =>
      values = before ++ found :: after ∧ before.length = index ∧
        forall replacement, values.set index replacement = before ++ replacement :: after := by
  induction values generalizing index with
  | nil => simp only [List.getElem?_nil, reduceCtorEq] at present
  | cons head rest inductionHypothesis =>
      cases index with
      | zero =>
          simp only [List.getElem?_cons_zero, Option.some.injEq] at present
          subst present
          exact ⟨[], rest, rfl, rfl, fun _ => rfl⟩
      | succ index =>
          rw [List.getElem?_cons_succ] at present
          rcases inductionHypothesis present with ⟨before, after, whole, length, replaced⟩
          refine ⟨head :: before, after, by rw [whole, List.cons_append], by
            rw [List.length_cons, length], ?_⟩
          intro replacement
          rw [List.set_cons_succ, replaced, List.cons_append]

theorem getElem?_middle {values before after : List α} {value : α}
    (whole : values = before ++ value :: after) : values[before.length]? = some value := by
  rw [whole, List.getElem?_append_right (Nat.le_refl _), Nat.sub_self, List.getElem?_cons_zero]

/-- A replacement is not seen at the other places. -/
theorem getElem?_replaced_of_ne (before after : List α) (old new : α) {index : Nat}
    (different : index ≠ before.length) :
    (before ++ new :: after)[index]? = (before ++ old :: after)[index]? := by
  by_cases early : index < before.length
  · rw [List.getElem?_append_left early, List.getElem?_append_left early]
  · have late : before.length ≤ index := Nat.le_of_not_lt early
    rw [List.getElem?_append_right late, List.getElem?_append_right late]
    cases gap : index - before.length with
    | zero => omega
    | succ place => rfl

/-- An element of a list after a replacement is the new one or was at its place
before. -/
theorem getElem?_replaced (before after : List α) (old : α) {new value : α} {index : Nat}
    (present : (before ++ new :: after)[index]? = some value) :
    (index = before.length ∧ value = new) ∨
      (index ≠ before.length ∧ (before ++ old :: after)[index]? = some value) := by
  by_cases here : index = before.length
  · rw [here, getElem?_middle rfl] at present
    exact Or.inl ⟨here, (Option.some.inj present).symm⟩
  · refine Or.inr ⟨here, ?_⟩
    rw [← getElem?_replaced_of_ne before after old new here]
    exact present

theorem eraseIdx_middle {values before after : List α} {value : α}
    (whole : values = before ++ value :: after) :
    values.eraseIdx before.length = before ++ after := by
  rw [whole, List.eraseIdx_append_of_length_le (Nat.le_refl _), Nat.sub_self,
    List.eraseIdx_cons_zero]

/-- A property of all places of a list, at the first place and at the others. -/
theorem forall_getElem?_cons {property : Nat -> α -> Prop} {head : α} {rest : List α} :
    (forall index value, (head :: rest)[index]? = some value -> property index value) ↔
      property 0 head ∧
        forall index value, rest[index]? = some value -> property (index + 1) value := by
  constructor
  · intro all
    exact ⟨all 0 head rfl, fun index value present => all (index + 1) value present⟩
  · rintro ⟨first, others⟩ index value present
    cases index with
    | zero =>
        rw [List.getElem?_cons_zero, Option.some.injEq] at present
        rw [← present]
        exact first
    | succ index => exact others index value present

/-- A property of every element survives the replacement of one. -/
theorem forall_mem_middle {property : α -> Prop} {values before after : List α} {old new : α}
    (whole : values = before ++ old :: after) (all : forall value, value ∈ values -> property value)
    (replaced : property new) (value : α) (member : value ∈ before ++ new :: after) :
    property value := by
  rw [whole] at all
  rcases List.mem_append.mp member with earlier | rest
  · exact all value (List.mem_append.mpr (Or.inl earlier))
  · rcases List.mem_cons.mp rest with rfl | later
    · exact replaced
    · exact all value (List.mem_append.mpr (Or.inr (List.mem_cons_of_mem _ later)))

theorem mem_middle {values before after : List α} {value : α}
    (whole : values = before ++ value :: after) : value ∈ values :=
  whole ▸ List.mem_append.mpr (Or.inr List.mem_cons_self)

theorem mem_around {values before after : List α} {value other : α}
    (whole : values = before ++ value :: after) (member : other ∈ before ++ after) :
    other ∈ values := by
  rw [whole]
  exact ((List.sublist_cons_self value after).append_left before).subset member

/-- Updates of two elements can be made in either order when neither changes
which element the other finds, and they can be swapped on one element. -/
theorem updateFirst_comm {first second : α -> Bool} {change alter : α -> α}
    (keepsFirst : forall value, first (alter value) = first value)
    (keepsSecond : forall value, second (change value) = second value)
    (swap : forall value, first value = true -> second value = true ->
      change (alter value) = alter (change value)) (values : List α) :
    updateFirst first change (updateFirst second alter values) =
      updateFirst second alter (updateFirst first change values) := by
  induction values with
  | nil => rfl
  | cons head rest inductionHypothesis =>
      cases here : first head <;> cases there : second head <;>
        simp only [updateFirst, here, there, keepsFirst, keepsSecond, Bool.false_eq_true, if_false,
          if_true]
      · rw [inductionHypothesis]
      · rw [swap head here there]

/-- An element that gains something at its end adds it to the whole, up to the
order. -/
theorem flatMap_gain {β : Type v} {values before after : List α} {old new : α}
    (contents : α -> List β) {gained : List β} (whole : values = before ++ old :: after)
    (gain : contents new = contents old ++ gained) :
    ((before ++ new :: after).flatMap contents).Perm (values.flatMap contents ++ gained) := by
  rw [whole]
  simp only [List.flatMap_append, List.flatMap_cons, gain, List.append_assoc]
  apply List.Perm.append_left
  apply List.Perm.append_left
  exact List.perm_append_comm

def total (weight : α -> Nat) (values : List α) : Nat :=
  (values.map weight).sum

@[simp] theorem total_nil (weight : α -> Nat) : total weight [] = 0 := rfl

@[simp] theorem total_cons (weight : α -> Nat) (head : α) (rest : List α) :
    total weight (head :: rest) = weight head + total weight rest := by
  simp only [total, List.map_cons, List.sum_cons]

@[simp] theorem total_append (weight : α -> Nat) (left right : List α) :
    total weight (left ++ right) = total weight left + total weight right := by
  simp only [total, List.map_append, List.sum_append]

theorem total_perm (weight : α -> Nat) {left right : List α} (same : left.Perm right) :
    total weight left = total weight right :=
  (same.map weight).sum_eq

theorem total_updateFirst (weight : α -> Nat) (test : α -> Bool) (change : α -> α)
    (kept : forall value, weight (change value) = weight value) (values : List α) :
    total weight (updateFirst test change values) = total weight values := by
  unfold total
  rw [map_updateFirst test change weight kept values]

/-- An update changes the total by what it changes at the first match. -/
theorem total_updateFirst_found (weight : α -> Nat) {test : α -> Bool} (change : α -> α)
    {values : List α} {found : α} (first : values.find? test = some found) :
    total weight (updateFirst test change values) + weight found =
      total weight values + weight (change found) := by
  rcases split_of_find first with ⟨before, after, whole, _, updated⟩
  rw [updated change, whole]
  simp only [total_append, total_cons]
  omega

theorem le_total (weight : α -> Nat) {values : List α} {value : α} (member : value ∈ values) :
    weight value ≤ total weight values := by
  rcases List.append_of_mem member with ⟨before, after, rfl⟩
  simp only [total_append, total_cons]
  omega

theorem total_mono {smaller larger : α -> Nat} {values : List α}
    (below : forall value, value ∈ values -> smaller value ≤ larger value) :
    total smaller values ≤ total larger values := by
  induction values with
  | nil => exact Nat.le_refl _
  | cons head rest inductionHypothesis =>
      have first := below head List.mem_cons_self
      have later := inductionHypothesis (fun value member => below value (List.mem_cons_of_mem _ member))
      simp only [total_cons]
      omega

/-- A weight that is smaller at one element and nowhere larger has a smaller
total. -/
theorem total_lt {smaller larger : α -> Nat} {values : List α} {found : α}
    (member : found ∈ values) (less : smaller found < larger found)
    (below : forall value, smaller value ≤ larger value) :
    total smaller values < total larger values := by
  induction values with
  | nil => cases member
  | cons head rest inductionHypothesis =>
      rw [total_cons, total_cons]
      have here := below head
      rcases List.mem_cons.mp member with same | later
      · have others : total smaller rest ≤ total larger rest :=
          total_mono (fun value _ => below value)
        rw [same] at less
        omega
      · have others := inductionHypothesis later
        omega

/-- An update that adds no more than a constant to any element adds no more to
the total. -/
theorem total_updateFirst_le (weight : α -> Nat) (test : α -> Bool) {change : α -> α} {extra : Nat}
    (more : forall value, weight (change value) ≤ weight value + extra) (values : List α) :
    total weight (updateFirst test change values) ≤ total weight values + extra := by
  cases first : values.find? test with
  | none =>
      rw [updateFirst_of_find_none first]
      exact Nat.le_add_right _ _
  | some found =>
      have exchanged := total_updateFirst_found weight change first
      have bounded := more found
      omega

/-- Two weights that agree on all elements but one differ in total by what they
differ there. -/
theorem total_exchange {β : Type v} {key : α -> β} {values : List α} {found : α}
    (distinct : (values.map key).Nodup) (member : found ∈ values) {first second : α -> Nat}
    (agree : forall value, key value ≠ key found -> first value = second value) :
    total first values + second found = total second values + first found := by
  rcases List.append_of_mem member with ⟨before, after, rfl⟩
  rw [List.map_append, List.map_cons, List.perm_middle.nodup_iff, List.nodup_cons, List.mem_append,
    not_or] at distinct
  have same : forall part : List α, key found ∉ part.map key ->
      total first part = total second part := by
    intro part absent
    unfold total
    rw [List.map_congr_left (fun value inside => agree value
      (fun equal => absent (equal ▸ List.mem_map_of_mem inside)))]
  have earlier := same before distinct.1.1
  have later := same after distinct.1.2
  simp only [total_append, total_cons]
  omega

theorem total_eq_zero {weight : α -> Nat} {values : List α}
    (zero : forall value, value ∈ values -> weight value = 0) : total weight values = 0 := by
  induction values with
  | nil => rfl
  | cons head rest inductionHypothesis =>
      rw [total_cons, zero head List.mem_cons_self,
        inductionHypothesis (fun value member => zero value (List.mem_cons_of_mem _ member))]

end Library
end Praas
