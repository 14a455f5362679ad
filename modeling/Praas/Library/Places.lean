import Mathlib.Data.List.Induction

namespace Praas
namespace Library

/-!
# The places of a sequence

A property of a sequence of operations is often that something holds at every
operation, given the operations before it.  It is proved along the sequence by
adding one operation at the end.
-/

variable {α : Type u}

/-- The property holds at every place of the list, of the values before the
place and the value at it. -/
def EveryPlace (property : List α -> α -> Prop) (values : List α) : Prop :=
  forall before value after, values = before ++ value :: after -> property before value

theorem everyPlace_nil (property : List α -> α -> Prop) : EveryPlace property [] := by
  intro before value after whole
  cases before <;> cases whole

theorem everyPlace_append {property : List α -> α -> Prop} {values : List α} {last : α} :
    EveryPlace property (values ++ [last]) ↔ EveryPlace property values ∧ property values last := by
  constructor
  · intro every
    refine ⟨?_, every values last [] rfl⟩
    intro before value after whole
    refine every before value (after ++ [last]) ?_
    rw [whole, List.append_assoc, List.cons_append]
  · rintro ⟨earlier, final⟩ before value after whole
    rcases List.eq_nil_or_concat after with empty | ⟨front, back, split⟩
    · rw [empty] at whole
      rcases List.append_inj' whole rfl with ⟨same, ends⟩
      cases ends
      rw [← same]
      exact final
    · rw [split, List.concat_eq_append, ← List.cons_append, ← List.append_assoc] at whole
      rcases List.append_inj' whole rfl with ⟨same, _⟩
      exact earlier before value front same

/-- Two properties agree along a list when they agree at each place whose
earlier places have them. -/
theorem everyPlace_congr {left right : List α -> α -> Prop}
    (agree : forall values last, EveryPlace left values -> EveryPlace right values ->
      (left values last ↔ right values last)) (values : List α) :
    EveryPlace left values ↔ EveryPlace right values := by
  induction values using List.reverseRecOn with
  | nil => exact iff_of_true (everyPlace_nil left) (everyPlace_nil right)
  | append_singleton values last inductionHypothesis =>
      rw [everyPlace_append, everyPlace_append, inductionHypothesis]
      apply and_congr_right
      intro earlier
      exact agree values last (inductionHypothesis.mpr earlier) earlier

end Library
end Praas
