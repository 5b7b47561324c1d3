import Mathlib.Data.List.Induction
import Yql.Condition.Render

/-!
# Combining lists of conditions

A list of conditions is combined from the left: the front of the list may be
combined before the rest, and the rest may be added one by one. The tree keeps
the conditions that have nothing to say, and its text looks as if they had
never been there (`combines_left`).
-/

namespace Yql

def Connective.ofList : Connective → List Condition → Option Condition
  | and => Condition.allOf
  | or => Condition.anyOf

def Connective.ofPair : Connective → Condition → Condition → Condition
  | and => Condition.and
  | or => Condition.or

/-- Two texts with the word between them, in brackets. -/
def Connective.bracketed (connective : Connective) (left right : String) : String :=
  "(" ++ left ++ " " ++ connective.word ++ " " ++ right ++ ")"

theorem Connective.bracketed_eq (left right : String) :
    Connective.and.bracketed left right = "(" ++ left ++ " AND " ++ right ++ ")"
      ∧ Connective.or.bracketed left right = "(" ++ left ++ " OR " ++ right ++ ")" := by
  have hand : " AND " = " " ++ "AND" ++ " " := by decide
  have hor : " OR " = " " ++ "OR" ++ " " := by decide
  simp only [Connective.bracketed, Connective.word, hand, hor, String.append_assoc, and_self]

namespace Condition

variable (connective : Connective)

/-! ## The tree -/

theorem ofList_eq_combineAll (conditions : List Condition) :
    connective.ofList conditions = combineAll connective conditions := by
  cases connective <;> rfl

theorem ofPair_eq_combined : connective.ofPair = combined connective := by
  cases connective <;> rfl

theorem combineAll_eq_none_iff (conditions : List Condition) :
    combineAll connective conditions = none ↔ conditions = [] := by
  cases conditions <;> simp [combineAll]

/-- The front of a list may be combined before the rest is added. -/
theorem combineAll_append {front : List Condition} {whole : Condition}
    (h : combineAll connective front = some whole) (rest : List Condition) :
    combineAll connective (front ++ rest) = some (rest.foldl (combined connective) whole) := by
  cases front with
  | nil => exact nomatch h
  | cons first others =>
      obtain rfl := Option.some.inj h
      rw [List.cons_append, combineAll, List.foldl_append]

/-! ## Its text -/

def foldedText : List String → String
  | [] => ""
  | first :: rest => rest.foldl connective.bracketed first

theorem combinedText_empty_right (text : String) : combinedText connective text "" = text := by
  unfold combinedText
  split
  · rename_i h
    exact h.symm
  · exact if_pos rfl

theorem combinedText_eq_bracketed {left right : String} (hleft : left ≠ "") (hright : right ≠ "") :
    combinedText connective left right = connective.bracketed left right := by
  rw [combinedText, if_neg hleft, if_neg hright]
  rfl

theorem bracketed_ne_empty (left right : String) : connective.bracketed left right ≠ "" := by
  simp [Connective.bracketed, ← String.toList_eq_nil_iff]

theorem foldedText_ne_empty {texts : List String} (h : ∀ text ∈ texts, text ≠ "")
    (hne : texts ≠ []) : foldedText connective texts ≠ "" := by
  obtain ⟨first, rest, rfl⟩ := List.exists_cons_of_ne_nil hne
  rcases List.eq_nil_or_concat rest with rfl | ⟨rest, last, rfl⟩
  · exact h first List.mem_cons_self
  · rw [List.concat_eq_append, foldedText, List.foldl_append]
    exact bracketed_ne_empty connective _ last

theorem foldedText_concat {texts : List String} (h : ∀ text ∈ texts, text ≠ "") {last : String}
    (hlast : last ≠ "") :
    foldedText connective (texts ++ [last])
      = combinedText connective (foldedText connective texts) last := by
  cases texts with
  | nil => rfl
  | cons first rest =>
      have hfront := foldedText_ne_empty connective h (List.cons_ne_nil first rest)
      rw [combinedText_eq_bracketed connective hfront hlast, List.cons_append, foldedText,
        List.foldl_append]
      rfl

/-- Combining texts leaves out the empty ones, wherever they stand. -/
theorem foldl_combinedText (first : String) (rest : List String) :
    rest.foldl (combinedText connective) first
      = foldedText connective (Text.nonEmpty (first :: rest)) := by
  induction rest using List.reverseRecOn with
  | nil => by_cases h : first = "" <;> simp [Text.nonEmpty, foldedText, h]
  | append_singleton rest last ih =>
      have hsays : ∀ text ∈ Text.nonEmpty (first :: rest), text ≠ "" :=
        fun _ => Text.ne_empty_of_mem_nonEmpty
      have hsplit : Text.nonEmpty (first :: (rest ++ [last]))
          = Text.nonEmpty (first :: rest) ++ Text.nonEmpty [last] :=
        List.filter_append (first :: rest) [last]
      rw [List.foldl_append, ih, hsplit]
      show combinedText connective _ last = _
      by_cases hlast : last = ""
      · subst hlast
        rw [combinedText_empty_right]
        exact congrArg _ (List.append_nil _).symm
      · have hkept : Text.nonEmpty [last] = [last] := by simp [Text.nonEmpty, hlast]
        rw [hkept, foldedText_concat connective hsays hlast]

theorem yql_foldl (first : Condition) (rest : List Condition) :
    (rest.foldl (combined connective) first).yql
      = (rest.map yql).foldl (combinedText connective) first.yql := by
  rw [List.foldl_map]
  exact (List.foldl_hom yql fun _ _ => rfl).symm

theorem map_yql_combineAll (conditions : List Condition) :
    (combineAll connective conditions).map yql
      = if conditions = [] then none
        else some (foldedText connective (Text.nonEmpty (conditions.map yql))) := by
  cases conditions with
  | nil => rfl
  | cons first rest =>
      rw [combineAll, Option.map_some, yql_foldl, foldl_combinedText, if_neg (List.cons_ne_nil _ _)]
      rfl

/-- **Lists are combined from the left**, both the trees and their texts. No
conditions come to none, and one condition is itself. The front of a list may be
combined before the rest, and the rest may be added one by one. Conditions that
have nothing to say leave no trace in the text: what is left is bracketed from
the left, and a single text that is left gets no brackets. -/
theorem combines_left :
    (∀ conditions, connective.ofList conditions = none ↔ conditions = [])
      ∧ (∀ condition, connective.ofList [condition] = some condition)
      ∧ (∀ front rest, front ≠ [] → ∃ whole, connective.ofList front = some whole
          ∧ connective.ofList (front ++ rest) = connective.ofList ([whole] ++ rest)
          ∧ connective.ofList (front ++ rest) = some (rest.foldl connective.ofPair whole))
      ∧ (∀ conditions, Text.nonEmpty (conditions.map yql) = [] →
          ∀ whole ∈ connective.ofList conditions, whole.yql = "")
      ∧ ∀ conditions first rest, Text.nonEmpty (conditions.map yql) = first :: rest →
          ∃ whole, connective.ofList conditions = some whole
            ∧ whole.yql = rest.foldl connective.bracketed first := by
  simp only [ofList_eq_combineAll, ofPair_eq_combined]
  refine ⟨combineAll_eq_none_iff connective, fun _ => rfl, ?_, ?_, ?_⟩
  · intro front rest hfront
    obtain ⟨whole, hwhole⟩ := Option.ne_none_iff_exists'.mp
      (mt (combineAll_eq_none_iff connective front).mp hfront)
    have hrest := combineAll_append connective hwhole rest
    exact ⟨whole, hwhole, hrest, hrest⟩
  · intro conditions htexts whole hwhole
    have htext := map_yql_combineAll connective conditions
    rw [Option.mem_def.mp hwhole, htexts, Option.map_some] at htext
    split at htext
    · exact nomatch htext
    · exact Option.some.inj htext
  · intro conditions first rest htexts
    have hne : conditions ≠ [] := by
      rintro rfl
      exact nomatch htexts
    have htext := map_yql_combineAll connective conditions
    rw [if_neg hne, htexts] at htext
    exact Option.map_eq_some_iff.mp htext

/-- Conditions without anything to say at the front, at the end and in
between. -/
def sparseList : List Condition :=
  [.verbatim "", .verbatim "a", .sameElement "tags" [], .verbatim "b", .negated (.verbatim ""),
    .verbatim "c", .verbatim ""]

theorem combines_left_sparseList :
    Text.nonEmpty (sparseList.map yql) = ["a", "b", "c"]
      ∧ ∃ whole, Connective.and.ofList sparseList = some whole
          ∧ whole.yql = "((a AND b) AND c)" :=
  have htexts : Text.nonEmpty (sparseList.map yql) = ["a", "b", "c"] := by decide +kernel
  ⟨htexts, (combines_left .and).2.2.2.2 sparseList "a" ["b", "c"] htexts⟩

end Condition

end Yql
