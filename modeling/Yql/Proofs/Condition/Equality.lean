import Yql.Proofs.Condition.Induction
import Yql.Proofs.Value.Equality
import Yql.Rank

/-!
# Conditions that are equal

Conditions compare node by node. Their floating numbers stand in operands, at
both ends of ranges and in thresholds, at any depth, and compare as numbers; the
text shows the sign of a zero, which equality does not look at. So equal
conditions without negative zeros are written alike, and all equal conditions
are once both zeros are one (`equality_and_text`).
-/

namespace Yql

namespace NearestSettings

def mapThreshold (f : Double → Double) (settings : NearestSettings) : NearestSettings :=
  { settings with threshold := settings.threshold.map f }

theorem equal_iff (a b : NearestSettings) :
    equal a b = true
      ↔ (∀ x ∈ a.threshold.toList, x.isNaN = false)
        ∧ a.mapThreshold Binary.unifyZero = b.mapThreshold Binary.unifyZero := by
  obtain ⟨label, threshold, approximate⟩ := a
  obtain ⟨label', threshold', approximate'⟩ := b
  have hthreshold : (threshold == threshold') = true
      ↔ (∀ x ∈ threshold.toList, x.isNaN = false)
        ∧ threshold.map Binary.unifyZero = threshold'.map Binary.unifyZero := by
    cases threshold with
    | none => cases threshold' <;> simp
    | some x =>
        cases threshold' with
        | none => simp
        | some y =>
            have hnumbers : (x == y) = true
                ↔ x.isNaN = false ∧ x.unifyZero = y.unifyZero := Binary.equal_iff
            simpa using hnumbers
  simp only [equal, mapThreshold, Bool.and_eq_true, decide_eq_true_eq, hthreshold, mk.injEq]
  tauto

end NearestSettings

namespace Condition

/-! ## The numbers in a condition -/

mutual

/-- The floating numbers in a condition, in order. -/
def floats : Condition → List Double
  | predicate _ _ operand _ => operand.floats
  | combined _ left right => floats left ++ floats right
  | negated inner => floats inner
  | range _ low high => low.floats ++ high.floats
  | sameElement _ conditions => allFloats conditions
  | nearest _ _ _ settings => settings.threshold.toList
  | userQuery _ => []
  | verbatim _ => []

def allFloats : List Condition → List Double
  | [] => []
  | condition :: rest => floats condition ++ allFloats rest

end

mutual

def mapFloats (f : Double → Double) : Condition → Condition
  | predicate field relation operand matching =>
      predicate field relation (operand.mapFloats f) matching
  | combined connective left right =>
      combined connective (mapFloats f left) (mapFloats f right)
  | negated inner => negated (mapFloats f inner)
  | range field low high => range field (low.mapFloats f) (high.mapFloats f)
  | sameElement field conditions => sameElement field (mapAllFloats f conditions)
  | nearest field vector targetHits settings =>
      nearest field vector targetHits (settings.mapThreshold f)
  | userQuery index => userQuery index
  | verbatim text => verbatim text

def mapAllFloats (f : Double → Double) : List Condition → List Condition
  | [] => []
  | condition :: rest => mapFloats f condition :: mapAllFloats f rest

end

theorem allFloats_eq_flatMap (conditions : List Condition) :
    allFloats conditions = conditions.flatMap floats := by
  induction conditions with
  | nil => rfl
  | cons condition rest ih => simp [allFloats, ih]

theorem mapAllFloats_eq_map (f : Double → Double) (conditions : List Condition) :
    mapAllFloats f conditions = conditions.map (mapFloats f) := by
  induction conditions with
  | nil => rfl
  | cons condition rest ih => simp [mapAllFloats, ih]

theorem allFloats_mapAllFloats {f : Double → Double} {conditions : List Condition}
    (h : ∀ condition ∈ conditions, (condition.mapFloats f).floats = condition.floats.map f) :
    allFloats (mapAllFloats f conditions) = (allFloats conditions).map f := by
  rw [mapAllFloats_eq_map, allFloats_eq_flatMap, allFloats_eq_flatMap, List.flatMap_map,
    List.map_flatMap]
  exact List.flatMap_congr h

theorem floats_mapFloats (f : Double → Double) (condition : Condition) :
    (condition.mapFloats f).floats = condition.floats.map f := by
  induction condition using Condition.induction with
  | predicate field relation operand matching => exact operand.floats_mapFloats f
  | combined connective left right ihleft ihright =>
      rw [mapFloats, floats, floats, ihleft, ihright, List.map_append]
  | negated inner ih => exact ih
  | range field low high =>
      rw [mapFloats, floats, floats, Value.floats_mapFloats, Value.floats_mapFloats,
        List.map_append]
  | sameElement field conditions ih => exact allFloats_mapAllFloats ih
  | nearest field vector targetHits settings => exact Option.toList_map
  | userQuery index => rfl
  | verbatim text => rfl

theorem mapAllFloats_eq_self {f : Double → Double} {conditions : List Condition}
    (h : ∀ condition ∈ conditions,
      (∀ x ∈ condition.floats, f x = x) → condition.mapFloats f = condition)
    (hfloats : ∀ x ∈ allFloats conditions, f x = x) : mapAllFloats f conditions = conditions := by
  rw [allFloats_eq_flatMap, List.forall_mem_flatMap] at hfloats
  have hconditions : ∀ condition ∈ conditions, condition.mapFloats f = condition :=
    fun condition hmem => h condition hmem (hfloats condition hmem)
  rw [mapAllFloats_eq_map, List.map_congr_left hconditions, List.map_id']

theorem mapFloats_eq_self {f : Double → Double} {condition : Condition}
    (h : ∀ x ∈ condition.floats, f x = x) : condition.mapFloats f = condition := by
  induction condition using Condition.induction with
  | predicate field relation operand matching =>
      rw [mapFloats, Value.mapFloats_eq_self h]
  | combined connective left right ihleft ihright =>
      obtain ⟨hleft, hright⟩ := List.forall_mem_append.mp h
      rw [mapFloats, ihleft hleft, ihright hright]
  | negated inner ih => rw [mapFloats, ih h]
  | range field low high =>
      obtain ⟨hlow, hhigh⟩ := List.forall_mem_append.mp h
      rw [mapFloats, Value.mapFloats_eq_self hlow, Value.mapFloats_eq_self hhigh]
  | sameElement field conditions ih =>
      rw [mapFloats, mapAllFloats_eq_self ih h]
  | nearest field vector targetHits settings =>
      obtain ⟨label, threshold, approximate⟩ := settings
      cases threshold with
      | none => rfl
      | some distance =>
          rw [mapFloats, NearestSettings.mapThreshold, Option.map_some,
            h distance (List.mem_singleton_self distance)]
  | userQuery index => rfl
  | verbatim text => rfl

/-! ## Equality -/

theorem equalAll_iff_forall₂ (as bs : List Condition) :
    equalAll as bs = true ↔ List.Forall₂ (fun a b => equal a b = true) as bs := by
  induction as generalizing bs with
  | nil => cases bs <;> simp [equalAll]
  | cons a as ih => cases bs <;> simp [equalAll, ih]

theorem equalAll_iff {as : List Condition}
    (h : ∀ a ∈ as, ∀ b, equal a b = true
      ↔ (∀ x ∈ a.floats, x.isNaN = false)
        ∧ a.mapFloats Binary.unifyZero = b.mapFloats Binary.unifyZero) (bs : List Condition) :
    equalAll as bs = true
      ↔ (∀ x ∈ allFloats as, x.isNaN = false)
        ∧ mapAllFloats Binary.unifyZero as = mapAllFloats Binary.unifyZero bs := by
  rw [equalAll_iff_forall₂, forall₂_iff_of_forall_mem h, allFloats_eq_flatMap,
    List.forall_mem_flatMap, mapAllFloats_eq_map, mapAllFloats_eq_map]

/-- **Equality of conditions.** Conditions are equal just when no number is
missing in the one and both are the same condition once both zeros are one. -/
theorem equal_iff (a b : Condition) :
    equal a b = true
      ↔ (∀ x ∈ a.floats, x.isNaN = false)
        ∧ a.mapFloats Binary.unifyZero = b.mapFloats Binary.unifyZero := by
  induction a using Condition.induction generalizing b with
  | predicate field relation operand matching =>
      cases b with
      | predicate field' relation' operand' matching' =>
          simp only [equal, mapFloats, floats, Bool.and_eq_true, decide_eq_true_eq,
            Value.equal_iff, predicate.injEq]
          tauto
      | _ => simp [equal, mapFloats]
  | combined connective left right ihleft ihright =>
      cases b with
      | combined connective' left' right' =>
          simp only [equal, mapFloats, floats, Bool.and_eq_true, decide_eq_true_eq,
            ihleft, ihright, List.forall_mem_append, combined.injEq]
          tauto
      | _ => simp [equal, mapFloats]
  | negated inner ih =>
      cases b with
      | negated inner' => rw [equal, ih, mapFloats, mapFloats, negated.injEq, floats]
      | _ => simp [equal, mapFloats]
  | range field low high =>
      cases b with
      | range field' low' high' =>
          simp only [equal, mapFloats, floats, Bool.and_eq_true, decide_eq_true_eq,
            Value.equal_iff, List.forall_mem_append, range.injEq]
          tauto
      | _ => simp [equal, mapFloats]
  | sameElement field conditions ih =>
      cases b with
      | sameElement field' conditions' =>
          simp only [equal, mapFloats, floats, Bool.and_eq_true, decide_eq_true_eq,
            equalAll_iff ih, sameElement.injEq]
          exact and_left_comm
      | _ => simp [equal, mapFloats]
  | nearest field vector targetHits settings =>
      cases b with
      | nearest field' vector' targetHits' settings' =>
          simp only [equal, mapFloats, floats, Bool.and_eq_true, decide_eq_true_eq,
            NearestSettings.equal_iff, nearest.injEq]
          tauto
      | _ => simp [equal, mapFloats]
  | userQuery index => cases b <;> simp [equal, floats, mapFloats]
  | verbatim text => cases b <;> simp [equal, floats, mapFloats]

theorem comparedAsNumbers : ComparedAsNumbers floats mapFloats yql :=
  comparedAsNumbers_of_beq_iff floats_mapFloats (fun _ _ => mapFloats_eq_self) equal_iff

end Condition

/-! ## Rank clauses -/

namespace Rank

def floats (rank : Rank) : List Double :=
  Condition.allFloats rank.conditions

def mapFloats (f : Double → Double) (rank : Rank) : Rank :=
  ⟨Condition.mapAllFloats f rank.conditions⟩

theorem equal_iff (a b : Rank) :
    equal a b = true
      ↔ (∀ x ∈ a.floats, x.isNaN = false)
        ∧ a.mapFloats Binary.unifyZero = b.mapFloats Binary.unifyZero := by
  rw [equal, Condition.equalAll_iff (fun a _ => Condition.equal_iff a), floats, mapFloats,
    mapFloats, mk.injEq]

theorem comparedAsNumbers : ComparedAsNumbers floats mapFloats yql := by
  apply comparedAsNumbers_of_beq_iff
  · intro f rank
    exact Condition.allFloats_mapAllFloats fun condition _ => condition.floats_mapFloats f
  · intro f rank h
    exact congrArg mk (Condition.mapAllFloats_eq_self (fun _ _ => Condition.mapFloats_eq_self) h)
  · exact equal_iff

end Rank

/-- **Equality and text.** For values, conditions and rank clauses alike:
equality can be turned round and chained, a thing is equal to itself just when
no number is missing anywhere in it, equal things without negative zeros are
written alike, and so are all equal things once their negative zeros are
replaced by positive ones. -/
theorem equality_and_text :
    ComparedAsNumbers Value.floats Value.mapFloats Value.literal
      ∧ ComparedAsNumbers Condition.floats Condition.mapFloats Condition.yql
      ∧ ComparedAsNumbers Rank.floats Rank.mapFloats Rank.yql :=
  ⟨Value.comparedAsNumbers, Condition.comparedAsNumbers, Rank.comparedAsNumbers⟩

namespace Condition

/-- A condition that holds the number in a range, in a list under a negation,
and in a threshold. -/
def threefold (x : Double) : Condition :=
  sameElement "items"
    [range "weight" (.float x) (.int 9),
      negated (predicate "size" .among (.list [.float x]) .exact),
      nearest "embedding" "q" 1 { threshold := some x }]

/-- The two zeros make equal conditions that are written differently; without
the sign both are written alike. A half is the same half however it was made,
and a missing number keeps a condition from being equal to itself. -/
theorem equality_and_text_zeros :
    (threefold (.ofNat 0) == threefold (.negate (.ofNat 0))) = true
      ∧ (threefold (.negate (.ofNat 0)) == threefold (.ofNat 0)) = true
      ∧ (threefold (.ofNat 0) == threefold (.ofNat 0)) = true
      ∧ (threefold (.ofNat 0)).yql ≠ (threefold (.negate (.ofNat 0))).yql
      ∧ ((threefold (.ofNat 0)).mapFloats Binary.unifyZero).yql
        = ((threefold (.negate (.ofNat 0))).mapFloats Binary.unifyZero).yql
      ∧ (threefold (.ofRatio false 1 2)).yql = (threefold (.ofRatio false 2 4)).yql
      ∧ ¬(threefold .missing == threefold .missing) = true := by
  obtain ⟨-, hcondition, -⟩ := equality_and_text
  have hzeros : (threefold (.ofNat 0) == threefold (.negate (.ofNat 0))) = true := by decide
  have hback := hcondition.symm hzeros
  refine ⟨hzeros, hback, hcondition.trans hzeros hback, by decide +kernel,
    hcondition.text_unified hzeros, ?_, ?_⟩
  · exact hcondition.text_eq (by decide +kernel) (by decide +kernel) (by decide +kernel)
  · rw [hcondition.self_iff]
    intro h
    exact absurd (h .missing List.mem_cons_self) (by decide)

end Condition

end Yql
