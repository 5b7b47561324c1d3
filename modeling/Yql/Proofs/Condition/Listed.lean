import Yql.Proofs.Condition.Contained

/-!
# Lists in predicates

A list is written in three places: as a literal, as the words of a phrase, and
as the operand of a membership test. All three write it in the same way. A text
is the phrase of its only word, a scalar the only item of a membership test, and
a phrase of anything but texts is no phrase.
-/

namespace Yql

namespace Value

/-- The value is a text, or a list in which every item is one. -/
def MadeOfTexts : Value → Prop
  | string _ => True
  | list items => ∀ item ∈ items, item.isText = true
  | _ => False

theorem madeOfTexts_map_string (words : List String) :
    MadeOfTexts (list (words.map .string)) := by
  intro item hitem
  obtain ⟨word, -, rfl⟩ := List.mem_map.mp hitem
  rfl

theorem MadeOfTexts.cases {value : Value} (h : value.MadeOfTexts) :
    (∃ text, value = string text) ∨ ∃ words : List String, value = list (words.map .string) := by
  cases value with
  | string text => exact .inl ⟨text, rfl⟩
  | list items =>
      right
      induction items with
      | nil => exact ⟨[], rfl⟩
      | cons item rest ih =>
          obtain ⟨hitem, hrest⟩ := List.forall_mem_cons.mp h
          obtain ⟨words, hwords⟩ := ih hrest
          obtain rfl := list.inj hwords
          cases item with
          | string text => exact ⟨text :: words, rfl⟩
          | _ => exact nomatch hitem
  | _ => exact h.elim

theorem texts?_map_string (words : List String) :
    (list (words.map .string)).texts? = some words := by
  induction words with
  | nil => rfl
  | cons word rest ih =>
      rw [texts?] at ih
      simp [texts?, text?, ih]

theorem madeOfTexts_of_texts? {value : Value} {words : List String}
    (h : value.texts? = some words) : value.MadeOfTexts := by
  cases value with
  | list items =>
      rw [eq_map_of_mapM_text? h]
      exact madeOfTexts_map_string words
  | _ => exact nomatch h

/-- The operand of a membership test does not tell a scalar from the list of
it. -/
theorem membership_scalar {scalar : Value} (h : ∀ items, scalar ≠ list items) :
    scalar.membership = (list [scalar]).membership := by
  cases scalar with
  | list items => exact absurd rfl (h items)
  | _ => rfl

end Value

namespace Condition

theorem containsOperand_phrase_texts (words : List String) :
    containsOperand (.list (words.map .string)) .phrase
      = "phrase" ++ (Value.list (words.map .string)).literal := by
  have hliterals : words.map Text.quoted = Value.literals (words.map .string) := by
    rw [Value.literals_eq_map, List.map_map]
    rfl
  simp only [containsOperand, Value.texts?_map_string, Value.literal, hliterals,
    ← String.append_assoc]
  rfl

theorem containsOperand_phrase_text (text : String) :
    containsOperand (.string text) .phrase = containsOperand (.list [.string text]) .phrase :=
  rfl

theorem containsOperand_phrase_of_not {operand : Value} (h : ¬operand.MadeOfTexts) :
    containsOperand operand .phrase = containsOperand operand .exact := by
  rw [containsOperand, containsOperand]
  cases hwords : operand.texts? with
  | some words => exact absurd (Value.madeOfTexts_of_texts? hwords) h
  | none =>
      have htext : operand.isText = false := by
        cases operand with
        | string text => exact absurd trivial h
        | _ => rfl
      simp [htext]

/-- A phrase is longer than what it is made of. -/
theorem containsOperand_phrase_ne {operand : Value} (h : operand.MadeOfTexts) :
    containsOperand operand .phrase ≠ containsOperand operand .exact := by
  intro heq
  have hlength := congrArg String.length heq
  rcases h.cases with ⟨text, rfl⟩ | ⟨words, rfl⟩
  · have hword : "phrase(".length = 7 := rfl
    simp [containsOperand, Value.texts?, Value.isText] at hlength
    omega
  · rw [containsOperand_phrase_texts] at hlength
    simp [containsOperand] at hlength

theorem yql_contains (field : String) (operand : Value) (matching : Matching) :
    (predicate field .contains operand matching).yql
      = "(" ++ field ++ " contains " ++ containsOperand operand matching ++ ")" :=
  rfl

/-- The phrase and the exact match of a value are written alike just when the
value is not made of texts. -/
theorem yql_phrase_eq_exact_iff (field : String) (operand : Value) :
    (predicate field .contains operand .phrase).yql
        = (predicate field .contains operand .exact).yql ↔ ¬operand.MadeOfTexts := by
  rw [yql_contains, yql_contains]
  constructor
  · intro h htexts
    have hoperand := String.append_right_inj _ |>.mp (String.append_left_inj _ |>.mp h)
    exact containsOperand_phrase_ne htexts hoperand
  · intro h
    rw [containsOperand_phrase_of_not h]

theorem yql_membership {relation : Relation} (h : relation ∈ [Relation.among, .notAmong])
    (field : String) (operand : Value) (matching : Matching) :
    (predicate field relation operand matching).yql
      = "(" ++ field ++ " " ++ relation.sign ++ " " ++ operand.membership ++ ")" := by
  rcases List.mem_pair.mp h with rfl | rfl
  · rfl
  · rfl

/-- **Lists are written in one way.** A phrase of texts is the word and the
literal of their list, and a text is the phrase of its only word; a phrase is
written like an exact match just when its value is made of anything but texts,
which one such item at any place of a list is enough for. A membership test of
a scalar is that of the list of it, and a membership test of a list has the
brackets of the list and no others, whatever its items are. -/
theorem lists_written_alike (field : String) :
    (∀ words : List String,
        (predicate field .contains (.list (words.map .string)) .phrase).yql
          = "(" ++ field ++ " contains phrase"
            ++ (Value.list (words.map .string)).literal ++ ")")
      ∧ (∀ text,
        (predicate field .contains (.string text) .phrase).yql
          = (predicate field .contains (.list [.string text]) .phrase).yql)
      ∧ (∀ operand,
        (predicate field .contains operand .phrase).yql
            = (predicate field .contains operand .exact).yql ↔ ¬operand.MadeOfTexts)
      ∧ ∀ relation ∈ [Relation.among, .notAmong], ∀ matching,
        (∀ scalar, (∀ items, scalar ≠ .list items) →
          (predicate field relation scalar matching).yql
            = (predicate field relation (.list [scalar]) matching).yql)
          ∧ ∀ items,
            (predicate field relation (.list items) matching).yql
              = "(" ++ field ++ " " ++ relation.sign ++ " "
                ++ ("(" ++ Text.joined ", " (items.map Value.literal) ++ ")") ++ ")" := by
  refine ⟨?_, ?_, yql_phrase_eq_exact_iff field, ?_⟩
  · intro words
    have hword : " contains " ++ "phrase" = " contains phrase" := rfl
    rw [yql_contains, containsOperand_phrase_texts, ← hword]
    simp only [String.append_assoc]
  · intro text
    rw [yql_contains, yql_contains, containsOperand_phrase_text]
  · intro relation hrelation matching
    constructor
    · intro scalar hscalar
      rw [yql_membership hrelation, yql_membership hrelation, Value.membership_scalar hscalar]
    · intro items
      rw [yql_membership hrelation, Value.membership, Value.literal, Value.literals_eq_map]

/-- A text among the words of a phrase keeps its quote, an item of another kind
at the end makes an exact match of it, and lists may be items of a membership
test. -/
theorem lists_written_alike_nested :
    (predicate "title" .contains (.list [.string "rock'n", .string "roll"]) .phrase).yql
        = "(title contains phrase('rock\\'n', 'roll'))"
      ∧ (predicate "title" .contains (.list [.string "a", .int 1]) .phrase).yql
        = (predicate "title" .contains (.list [.string "a", .int 1]) .exact).yql
      ∧ (predicate "size" .notAmong (.int 3) .exact).yql
        = (predicate "size" .notAmong (.list [.int 3]) .exact).yql
      ∧ (predicate "size" .among (.list [.list [.int 3], .list []]) .exact).yql
        = "(size in ((3), ()))" := by
  have hmixed : ¬(Value.list [.string "a", .int 1]).MadeOfTexts := by
    intro h
    exact absurd (h (.int 1) (by simp)) (by decide)
  have hscalar : ∀ items, Value.int 3 ≠ .list items := by
    intro items h
    exact nomatch h
  refine ⟨?_, ?_, ?_, ?_⟩
  · exact ((lists_written_alike "title").1 ["rock'n", "roll"]).trans (by decide)
  · exact ((lists_written_alike "title").2.2.1 _).mpr hmixed
  · exact ((lists_written_alike "size").2.2.2 .notAmong (by simp) .exact).1 _ hscalar
  · exact (((lists_written_alike "size").2.2.2 .among (by simp) .exact).2 _).trans (by decide)

end Condition

end Yql
