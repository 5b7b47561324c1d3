import Mathlib.Data.List.DropRight
import Yql.Text.Blank

/-!
# Texts without blanks at their ends

A trimmed text is what is left of a text when the blanks at both ends are taken
away: the one part with nothing but blanks on either side that has no blank at
an end of its own.
-/

namespace Yql.Text

def Blank (chars : List Char) : Prop :=
  ∀ c ∈ chars, isBlank c = true

/-- The text neither begins nor ends with a blank. -/
structure Tight (chars : List Char) : Prop where
  first : chars.head?.any isBlank = false
  last : chars.getLast?.any isBlank = false

theorem dropWhile_eq_self {chars : List Char} (h : chars.head?.any isBlank = false) :
    chars.dropWhile isBlank = chars := by
  cases chars with
  | nil => rfl
  | cons c rest =>
      have hc : isBlank c = false := h
      rw [List.dropWhile_cons_of_neg (by simp [hc])]

theorem Tight.trimmedChars_eq {inner : List Char} (h : Tight inner) {left right : List Char}
    (hleft : Blank left) (hright : Blank right) :
    trimmedChars (left ++ (inner ++ right)) = inner := by
  have hright' : ∀ c ∈ right.reverse, isBlank c = true :=
    fun c hc => hright c (List.mem_reverse.mp hc)
  rw [trimmedChars, List.dropWhile_append_of_pos hleft]
  cases inner with
  | nil =>
      have hnil : right.dropWhile isBlank = [] := List.dropWhile_eq_nil_iff.mpr hright
      rw [List.nil_append, hnil]
      rfl
  | cons c inner =>
      have hlast : (c :: inner).reverse.head?.any isBlank = false := by
        rw [List.head?_reverse]
        exact h.last
      have hfirst : (c :: inner ++ right).head?.any isBlank = false := h.first
      rw [dropWhile_eq_self hfirst, List.reverse_append, List.dropWhile_append_of_pos hright',
        dropWhile_eq_self hlast, List.reverse_reverse]

theorem exists_around_trimmedChars (chars : List Char) :
    ∃ left right, chars = left ++ (trimmedChars chars ++ right) ∧ Blank left ∧ Blank right
      ∧ Tight (trimmedChars chars) := by
  have htrimmed : trimmedChars chars = (chars.dropWhile isBlank).rdropWhile isBlank := rfl
  refine ⟨chars.takeWhile isBlank, (chars.dropWhile isBlank).rtakeWhile isBlank, ?_, ?_, ?_, ?_⟩
  · rw [htrimmed, List.rdropWhile_append_rtakeWhile, List.takeWhile_append_dropWhile]
  · intro c hc
    exact List.mem_takeWhile_imp hc
  · intro c hc
    exact List.mem_rtakeWhile_imp hc
  · constructor
    · -- the front of what is left is where the blanks at the beginning ended
      cases hhead : (trimmedChars chars).head? with
      | none => rfl
      | some c =>
          obtain ⟨rest, hrest⟩ : trimmedChars chars <+: chars.dropWhile isBlank :=
            htrimmed ▸ List.rdropWhile_prefix _ _
          have hnot := List.head?_dropWhile_not isBlank chars
          rw [← hrest, List.head?_append, hhead] at hnot
          exact hnot
    · cases hlast : (trimmedChars chars).getLast? with
      | none => rfl
      | some c =>
          obtain ⟨hne, rfl⟩ := List.mem_getLast?_eq_getLast hlast
          exact eq_false_of_ne_true
            (List.rdropWhile_last_not isBlank (chars.dropWhile isBlank) hne)

end Yql.Text
