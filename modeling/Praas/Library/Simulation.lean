import Praas.Library.TransitionSystem

namespace Praas
namespace Library
namespace TransitionSystem

/-!
# Simulation of one transition system by another

A concrete system is simulated by an abstract one when every step taken from
related states is answered by one abstract step or by none.  The abstract run
is built together with the concrete one, so the step lemma may use what is
known of every state that an abstract run reaches.  In the other direction, an
abstract step is realized by some concrete steps from every related state.
-/

universe u v w x

variable {Concrete : Type u} {ConcreteAction : Type v} {Abstract : Type w} {AbstractAction : Type x}
  {concrete : TransitionSystem Concrete ConcreteAction}
  {abstract : TransitionSystem Abstract AbstractAction}

/-- The abstract state stays as it is or takes one step that is allowed.  A
step of the concrete system that only the lower level knows of is answered by
none. -/
def Answers (abstract : TransitionSystem Abstract AbstractAction)
    (guard : Abstract -> AbstractAction -> Prop) (source target : Abstract) : Prop :=
  target = source ∨
    Exists fun action => guard source action ∧ abstract.step source action = some target

theorem Answers.extend {guard : Abstract -> AbstractAction -> Prop} {origin source target : Abstract}
    (answers : Answers abstract guard source target)
    {trace : List (Abstract × AbstractAction)} (run : Run abstract origin trace source)
    (guarded : Guarded guard trace) :
    Exists fun longer => Run abstract origin longer target ∧ Guarded guard longer := by
  rcases answers with same | ⟨action, allowed, stepped⟩
  · exact ⟨trace, same ▸ run, guarded⟩
  · exact ⟨_, run.extend stepped, guarded_append_iff.mpr ⟨guarded, allowed⟩⟩

/-- The simulation rule: related origins, and a step lemma that answers every
concrete step from related states, give an abstract run to every concrete
one. -/
theorem Run.simulated {guard : Abstract -> AbstractAction -> Prop}
    (relates : Concrete -> Abstract -> Prop) {origin : Concrete} {start : Abstract}
    (initially : relates origin start)
    (answered : forall earlier source middle action target, Run abstract start earlier middle ->
      Guarded guard earlier -> relates source middle ->
      concrete.step source action = some target ->
      Exists fun next => Answers abstract guard middle next ∧ relates target next)
    {trace : List (Concrete × ConcreteAction)} {final : Concrete}
    (run : Run concrete origin trace final) :
    Exists fun messages => Exists fun reached => Run abstract start messages reached ∧
      Guarded guard messages ∧ relates final reached := by
  induction run with
  | start =>
      refine ⟨[], start, .start, ?_, initially⟩
      intro entry member
      cases member
  | extend earlier step inductionHypothesis =>
      rcases inductionHypothesis with ⟨messages, middle, abstractRun, guarded, related⟩
      rcases answered messages _ middle _ _ abstractRun guarded related step with
        ⟨next, answers, relatedNext⟩
      rcases answers.extend abstractRun guarded with ⟨longer, extended, allowed⟩
      exact ⟨longer, next, extended, allowed, relatedNext⟩

/-- The realization rule: when every abstract step that is allowed can be
followed by some concrete steps from every related state, so can every abstract
run whose steps are allowed. -/
theorem Run.realized {guard : Abstract -> AbstractAction -> Prop}
    (relates : Concrete -> Abstract -> Prop) {origin : Abstract} {start : Concrete}
    (initially : relates start origin)
    (followed : forall source middle action target, relates middle source -> guard source action ->
      abstract.step source action = some target ->
      Exists fun next => concrete.Leads middle next ∧ relates next target)
    {trace : List (Abstract × AbstractAction)} {final : Abstract}
    (run : Run abstract origin trace final) (guarded : Guarded guard trace) :
    Exists fun reached => concrete.Leads start reached ∧ relates reached final := by
  apply run.guarded_invariant
    (fun state => Exists fun reached => concrete.Leads start reached ∧ relates reached state) _ _
    guarded
  · exact ⟨start, .refl start, initially⟩
  · rintro source action target ⟨middle, earlier, related⟩ allowed step
    rcases followed source middle action target related allowed step with ⟨next, later, kept⟩
    exact ⟨next, earlier.trans later, kept⟩

end TransitionSystem
end Library
end Praas
