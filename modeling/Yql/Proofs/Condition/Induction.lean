import Yql.Condition.Basic

/-!
# Induction on conditions

A same-element condition holds a list of conditions, and what is shown of a
tree is shown of all of them at once.
-/

namespace Yql.Condition

/-- Induction on conditions, over all conditions of a same-element clause at
once. -/
theorem induction {motive : Condition → Prop}
    (predicate : ∀ field relation operand matching,
      motive (predicate field relation operand matching))
    (combined : ∀ connective left right, motive left → motive right →
      motive (combined connective left right))
    (negated : ∀ inner, motive inner → motive (negated inner))
    (range : ∀ field low high, motive (range field low high))
    (sameElement : ∀ field conditions, (∀ condition ∈ conditions, motive condition) →
      motive (sameElement field conditions))
    (nearest : ∀ field vector targetHits settings,
      motive (nearest field vector targetHits settings))
    (userQuery : ∀ index, motive (userQuery index))
    (verbatim : ∀ text, motive (verbatim text)) (condition : Condition) : motive condition :=
  @Condition.rec motive (fun conditions => ∀ condition ∈ conditions, motive condition)
    predicate combined negated range sameElement nearest userQuery verbatim (by simp)
    (fun _ _ hcondition hrest => List.forall_mem_cons.mpr ⟨hcondition, hrest⟩) condition

end Yql.Condition
