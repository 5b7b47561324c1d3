/-!
# Joined texts

The one way the library puts a list of texts into a row: a separator stands
between neighbours and nowhere else. A list of arguments, a list of clauses
and the members of a JSON object are all written this way.
-/

namespace Yql.Text

/-- The texts in order, with the separator between neighbours. -/
def joined (separator : String) : List String → String
  | [] => ""
  | [text] => text
  | text :: next :: rest => text ++ separator ++ joined separator (next :: rest)

@[simp] theorem joined_nil (separator : String) : joined separator [] = "" := rfl

@[simp] theorem joined_singleton (separator text : String) :
    joined separator [text] = text := rfl

theorem joined_cons_cons (separator text next : String) (rest : List String) :
    joined separator (text :: next :: rest)
      = text ++ separator ++ joined separator (next :: rest) := rfl

/-- A separator stands before every text but the first. -/
theorem toList_joined_cons (separator text : String) (rest : List String) :
    (joined separator (text :: rest)).toList
      = text.toList ++ rest.flatMap fun next => separator.toList ++ next.toList := by
  induction rest generalizing text with
  | nil => simp
  | cons next rest ih => simp [joined_cons_cons, ih]

/-- The texts that say something, in order. -/
def nonEmpty (texts : List String) : List String :=
  texts.filter (· ≠ "")

theorem nonEmpty_cons (text : String) (rest : List String) :
    nonEmpty (text :: rest) = if text = "" then nonEmpty rest else text :: nonEmpty rest := by
  by_cases h : text = "" <;> simp [nonEmpty, h]

theorem ne_empty_of_mem_nonEmpty {text : String} {texts : List String}
    (h : text ∈ nonEmpty texts) : text ≠ "" := by
  simpa using (List.mem_filter.mp h).2

theorem nonEmpty_eq_nil_iff {texts : List String} :
    nonEmpty texts = [] ↔ ∀ text ∈ texts, text = "" := by
  simp [nonEmpty, List.filter_eq_nil_iff]

theorem joined_eq_empty_iff {separator : String} {texts : List String}
    (h : ∀ text ∈ texts, text ≠ "") : joined separator texts = "" ↔ texts = [] := by
  cases texts with
  | nil => simp
  | cons text rest =>
      have htext : text ≠ "" := h text List.mem_cons_self
      simp [← String.toList_eq_nil_iff, toList_joined_cons] at htext ⊢
      exact fun hnil => absurd hnil htext

def repeated (text : String) : Nat → String
  | 0 => ""
  | count + 1 => text ++ repeated text count

/-- The pieces of a row of characters between the separators; there is one
piece more than there are separators. -/
def pieces (separator : Char) : List Char → List (List Char)
  | [] => [[]]
  | c :: rest =>
      match pieces separator rest with
      | [] => [[c]]
      | piece :: others =>
          if c = separator then [] :: piece :: others else (c :: piece) :: others

def split (separator : Char) (text : String) : List String :=
  (pieces separator text.toList).map String.ofList

end Yql.Text
