import Yql.Condition.Render
import Yql.Proofs.Condition.Induction

/-!
# Pruning before writing

A condition without anything to say is void, which can be seen from the tree:
an empty text written by hand is void, and so is what stands above nothing but
void conditions. Rendering finds out by looking at the texts of the children
whether they are empty. It comes to the same as pruning the tree first, so that
no void condition is left anywhere in it, and then writing every node without
looking.
-/

namespace Yql.Condition

/-! ## Void conditions -/

mutual

/-- Whether a condition has nothing to say. -/
def isVoid : Condition → Bool
  | combined _ left right => isVoid left && isVoid right
  | negated inner => isVoid inner
  | sameElement _ conditions => areVoid conditions
  | verbatim text => text = ""
  | _ => false

def areVoid : List Condition → Bool
  | [] => true
  | condition :: rest => isVoid condition && areVoid rest

end

theorem areVoid_iff (conditions : List Condition) :
    areVoid conditions = true ↔ ∀ condition ∈ conditions, condition.isVoid = true := by
  induction conditions with
  | nil => simp [areVoid]
  | cons condition rest ih => simp [areVoid, ih]

/-! ## Pruned conditions -/

mutual

/-- The condition without its void parts: a combination with exactly one void
side is its other side, and a same-element condition has no void conditions. -/
def prune : Condition → Condition
  | combined connective left right =>
      match isVoid left, isVoid right with
      | true, false => prune right
      | false, true => prune left
      | _, _ => combined connective (prune left) (prune right)
  | negated inner => negated (prune inner)
  | sameElement field conditions => sameElement field (pruneAll conditions)
  | other => other

def pruneAll : List Condition → List Condition
  | [] => []
  | condition :: rest =>
      if isVoid condition then pruneAll rest else prune condition :: pruneAll rest

end

theorem pruneAll_eq (conditions : List Condition) :
    pruneAll conditions = (conditions.filter fun condition => !condition.isVoid).map prune := by
  induction conditions with
  | nil => rfl
  | cons condition rest ih =>
      by_cases h : condition.isVoid = true
      · simp [pruneAll, h, ih]
      · simp [pruneAll, h, ih]

mutual

/-- The nodes of a tree: the condition and everything below it. -/
def nodes : Condition → List Condition
  | combined connective left right => combined connective left right :: (nodes left ++ nodes right)
  | negated inner => negated inner :: nodes inner
  | sameElement field conditions => sameElement field conditions :: allNodes conditions
  | other => [other]

def allNodes : List Condition → List Condition
  | [] => []
  | condition :: rest => nodes condition ++ allNodes rest

end

theorem allNodes_eq_flatMap (conditions : List Condition) :
    allNodes conditions = conditions.flatMap nodes := by
  induction conditions with
  | nil => rfl
  | cons condition rest ih => simp [allNodes, ih]

/-! ## Plain texts -/

mutual

/-- The text of a condition by the templates alone: whatever the children are,
their texts are put in. -/
def plain : Condition → String
  | predicate field relation operand matching => predicateText field relation operand matching
  | combined connective left right =>
      "(" ++ plain left ++ " " ++ connective.word ++ " " ++ plain right ++ ")"
  | negated inner => "!(" ++ plain inner ++ ")"
  | range field low high => rangeText field low high
  | sameElement field conditions =>
      "(" ++ field ++ " contains sameElement(" ++ Text.joined ", " (plains conditions) ++ "))"
  | nearest field vector targetHits settings => nearestText field vector targetHits settings
  | userQuery index => userQueryText index
  | verbatim text => text

def plains : List Condition → List String
  | [] => []
  | condition :: rest => plain condition :: plains rest

end

theorem plains_eq_map (conditions : List Condition) : plains conditions = conditions.map plain := by
  induction conditions with
  | nil => rfl
  | cons condition rest ih => simp [plains, ih]

/-! ## Empty texts -/

theorem predicateText_ne_empty (field : String) (relation : Relation) (operand : Value)
    (matching : Matching) : predicateText field relation operand matching ≠ "" := by
  rw [ne_eq, ← String.toList_eq_nil_iff]
  unfold predicateText
  cases relation <;> cases operand.isText <;> simp

theorem rangeText_ne_empty (field : String) (low high : Value) : rangeText field low high ≠ "" := by
  simp [rangeText, ← String.toList_eq_nil_iff]

theorem nearestText_ne_empty (field vector : String) (targetHits : UInt32)
    (settings : NearestSettings) : nearestText field vector targetHits settings ≠ "" := by
  simp [nearestText, ← String.toList_eq_nil_iff]

theorem userQueryText_ne_empty (index : Option String) : userQueryText index ≠ "" := by
  cases index with
  | none => decide
  | some name =>
      rw [userQueryText]
      split
      · decide
      · simp [← String.toList_eq_nil_iff]

theorem combinedText_eq_empty_iff (connective : Connective) (left right : String) :
    combinedText connective left right = "" ↔ left = "" ∧ right = "" := by
  unfold combinedText
  by_cases hleft : left = ""
  · simp [hleft]
  · by_cases hright : right = ""
    · simp [hleft, hright]
    · simp [hleft, hright, ← String.toList_eq_nil_iff]

theorem negatedText_eq_empty_iff (inner : String) : negatedText inner = "" ↔ inner = "" := by
  unfold negatedText
  by_cases h : inner = ""
  · simp [h]
  · simp [h, ← String.toList_eq_nil_iff]

theorem sameElementText_eq_empty_iff (field : String) (texts : List String) :
    sameElementText field texts = "" ↔ ∀ text ∈ texts, text = "" := by
  rw [← Text.nonEmpty_eq_nil_iff, sameElementText]
  cases Text.nonEmpty texts with
  | nil => simp
  | cons clause rest => simp [← String.toList_eq_nil_iff]

theorem yql_eq_empty_iff_isVoid (condition : Condition) :
    condition.yql = "" ↔ condition.isVoid = true := by
  induction condition using Condition.induction with
  | predicate field relation operand matching =>
      simp [yql, isVoid, predicateText_ne_empty]
  | combined connective left right ihleft ihright =>
      rw [yql, combinedText_eq_empty_iff, ihleft, ihright, isVoid, Bool.and_eq_true]
  | negated inner ih => rw [yql, negatedText_eq_empty_iff, ih, isVoid]
  | range field low high => simp [yql, isVoid, rangeText_ne_empty]
  | sameElement field conditions ih =>
      rw [yql, sameElementText_eq_empty_iff, yqls_eq_map, List.forall_mem_map, isVoid, areVoid_iff]
      exact forall₂_congr ih
  | nearest field vector targetHits settings => simp [yql, isVoid, nearestText_ne_empty]
  | userQuery index => simp [yql, isVoid, userQueryText_ne_empty]
  | verbatim text => simp [yql, isVoid]

/-! ## Pruning -/

theorem prune_combined_cases {connective : Connective} {left right : Condition}
    (h : (combined connective left right).isVoid = false) :
    (left.isVoid = true ∧ right.isVoid = false
        ∧ (combined connective left right).prune = right.prune)
      ∨ (left.isVoid = false ∧ right.isVoid = true
        ∧ (combined connective left right).prune = left.prune)
      ∨ (left.isVoid = false ∧ right.isVoid = false
        ∧ (combined connective left right).prune
          = combined connective left.prune right.prune) := by
  rw [isVoid] at h
  cases hleft : left.isVoid <;> cases hright : right.isVoid <;> simp_all [prune]

theorem mem_pruneAll {conditions : List Condition} {pruned : Condition}
    (h : pruned ∈ pruneAll conditions) :
    ∃ condition ∈ conditions, condition.isVoid = false ∧ condition.prune = pruned := by
  rw [pruneAll_eq] at h
  obtain ⟨condition, hmem, rfl⟩ := List.mem_map.mp h
  obtain ⟨hcondition, hvoid⟩ := List.mem_filter.mp hmem
  exact ⟨condition, hcondition, by simpa using hvoid, rfl⟩

theorem isVoid_prune {condition : Condition} (h : condition.isVoid = false) :
    condition.prune.isVoid = false := by
  induction condition using Condition.induction with
  | combined connective left right ihleft ihright =>
      rcases prune_combined_cases h with ⟨-, hright, hprune⟩ | ⟨hleft, -, hprune⟩
        | ⟨hleft, hright, hprune⟩
      · rw [hprune]
        exact ihright hright
      · rw [hprune]
        exact ihleft hleft
      · rw [hprune, isVoid, ihleft hleft]
        rfl
  | negated inner ih =>
      rw [prune, isVoid]
      exact ih h
  | sameElement field conditions ih =>
      -- a condition that has something to say is kept, and still has when pruned
      rw [isVoid, ← Bool.not_eq_true, areVoid_iff] at h
      obtain ⟨condition, hcondition⟩ := Classical.not_forall.mp h
      obtain ⟨hmem, hspeaks⟩ := Classical.not_imp.mp hcondition
      have hspeaks : condition.isVoid = false := by simpa using hspeaks
      have hpruned : condition.prune ∈ pruneAll conditions := by
        rw [pruneAll_eq]
        exact List.mem_map_of_mem (List.mem_filter.mpr ⟨hmem, by simp [hspeaks]⟩)
      rw [prune, isVoid, ← Bool.not_eq_true, areVoid_iff]
      intro hall
      have hvoid := hall _ hpruned
      rw [ih condition hmem hspeaks] at hvoid
      exact Bool.noConfusion hvoid
  | _ => exact h

theorem isVoid_of_mem_nodes_prune {condition : Condition} (h : condition.isVoid = false) :
    ∀ node ∈ condition.prune.nodes, node.isVoid = false := by
  induction condition using Condition.induction with
  | combined connective left right ihleft ihright =>
      have hwhole := isVoid_prune h
      rcases prune_combined_cases h with ⟨-, hright, hprune⟩ | ⟨hleft, -, hprune⟩
        | ⟨hleft, hright, hprune⟩
      · rw [hprune]
        exact ihright hright
      · rw [hprune]
        exact ihleft hleft
      · rw [hprune] at hwhole ⊢
        intro node hnode
        rcases List.mem_cons.mp hnode with rfl | hbelow
        · exact hwhole
        · rcases List.mem_append.mp hbelow with hnode | hnode
          · exact ihleft hleft node hnode
          · exact ihright hright node hnode
  | negated inner ih =>
      intro node hnode
      rcases List.mem_cons.mp hnode with rfl | hbelow
      · exact isVoid_prune h
      · exact ih h node hbelow
  | sameElement field conditions ih =>
      intro node hnode
      rcases List.mem_cons.mp hnode with rfl | hbelow
      · exact isVoid_prune h
      · rw [allNodes_eq_flatMap] at hbelow
        obtain ⟨pruned, hpruned, hnode⟩ := List.mem_flatMap.mp hbelow
        obtain ⟨condition, hmem, hspeaks, rfl⟩ := mem_pruneAll hpruned
        exact ih condition hmem hspeaks node hnode
  | _ =>
      intro node hnode
      obtain rfl := List.mem_singleton.mp hnode
      exact h

/-! ## Writing -/

theorem yql_ne_empty {condition : Condition} (h : condition.isVoid = false) :
    condition.yql ≠ "" := by
  rw [ne_eq, yql_eq_empty_iff_isVoid, h]
  exact Bool.false_ne_true

theorem nonEmpty_map_yql (conditions : List Condition) :
    Text.nonEmpty (conditions.map yql)
      = (conditions.filter fun condition => !condition.isVoid).map yql := by
  induction conditions with
  | nil => rfl
  | cons condition rest ih =>
      rw [List.map_cons, Text.nonEmpty_cons, ih]
      by_cases h : condition.isVoid = true
      · simp [(yql_eq_empty_iff_isVoid condition).mpr h, h]
      · simp only [Bool.not_eq_true] at h
        simp [yql_ne_empty h, h]

theorem yql_eq_plain_prune {condition : Condition} (h : condition.isVoid = false) :
    condition.yql = condition.prune.plain := by
  induction condition using Condition.induction with
  | combined connective left right ihleft ihright =>
      rw [yql, combinedText]
      rcases prune_combined_cases h with ⟨hleft, hright, hprune⟩ | ⟨hleft, hright, hprune⟩
        | ⟨hleft, hright, hprune⟩
      · rw [hprune, if_pos ((yql_eq_empty_iff_isVoid left).mpr hleft), ihright hright]
      · rw [hprune, if_neg (yql_ne_empty hleft),
          if_pos ((yql_eq_empty_iff_isVoid right).mpr hright), ihleft hleft]
      · rw [hprune, if_neg (yql_ne_empty hleft), if_neg (yql_ne_empty hright), plain,
          ihleft hleft, ihright hright]
  | negated inner ih =>
      have hinner : inner.isVoid = false := h
      rw [yql, negatedText, if_neg (yql_ne_empty hinner), prune, plain, ih hinner]
  | sameElement field conditions ih =>
      have hclauses : Text.nonEmpty (yqls conditions) = plains (pruneAll conditions) := by
        rw [yqls_eq_map, nonEmpty_map_yql, pruneAll_eq, plains_eq_map, List.map_map]
        apply List.map_congr_left
        intro condition hmem
        obtain ⟨hcondition, hspeaks⟩ := List.mem_filter.mp hmem
        exact ih condition hcondition (by simpa using hspeaks)
      -- the clauses are not all empty, so that the template applies
      have hne : sameElementText field (yqls conditions) ≠ "" := yql_ne_empty h
      rw [yql, prune, plain]
      rw [sameElementText, hclauses] at hne ⊢
      split
      · rename_i hnil
        simp [hnil] at hne
      · rfl
  | _ => rfl

end Yql.Condition
