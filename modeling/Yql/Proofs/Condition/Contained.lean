import Yql.Condition.Render
import Yql.Proofs.Condition.Induction
import Yql.Proofs.Text.Cut
import Yql.Proofs.Value.Numeral
import Yql.Rank

/-!
# Conditions stay inside their brackets

The text of a condition is a fragment: its brackets are balanced, and what
separates it from its neighbours does not show in it, except in the brackets
and literals of its own. Names have to be names for this, texts must not let a
backslash meet a quote, and a text written by hand has to be a fragment itself.
-/

namespace Yql

open Text (Balanced Fragment EvenBackslashes)

def Wordlike (text : String) : Prop :=
  ∀ c ∈ text.toList, isNameChar c = true

instance : DecidablePred Wordlike := fun text =>
  decidable_of_iff (text.toList.all isNameChar = true) List.all_eq_true

theorem isPlain_of_isWordChar {c : Char} (h : isWordChar c = true) : Text.isPlain c = true := by
  have hne (d : Char) (hd : isWordChar d = false) : c ≠ d := by
    rintro rfl
    rw [h] at hd
    exact Bool.noConfusion hd
  simp [Text.isPlain, Text.isOpening, Text.isClosing, hne '(' rfl, hne '\x7b' rfl, hne ')' rfl,
    hne '\x7d' rfl, hne '\'' rfl]

theorem Wordlike.balanced {text : String} (h : Wordlike text) : Balanced text.toList := by
  apply Text.balanced_of_plain
  intro c hc
  exact isPlain_of_isWordChar (by simp [isWordChar, h c hc])

theorem Wordlike.not_mem {text : String} (h : Wordlike text) {c : Char}
    (hc : isNameChar c = false) : c ∉ text.toList := by
  intro hmem
  rw [h c hmem] at hc
  exact Bool.noConfusion hc

theorem Numeral.balanced (n : Numeral) : Balanced n.text.toList := by
  apply Text.balanced_of_plain
  intro c hc
  exact isPlain_of_isWordChar (isWordChar_of_isNumeralChar (n.numeric c hc))

namespace Value

/-- In all texts of the value, every row of backslashes right before a single
quote or the end has even length. -/
inductive Quotable : Value → Prop where
  | null : Quotable .null
  | bool {b} : Quotable (.bool b)
  | int {n} : Quotable (.int n)
  | float {x} : Quotable (.float x)
  | string {text} (htext : EvenBackslashes text.toList) : Quotable (.string text)
  | list {items} (hitems : ∀ item ∈ items, Quotable item) : Quotable (.list items)

theorem not_mem_plainText {x : Double} (h : x.isFinite = false) : '\\' ∉ x.plainText.toList := by
  have hsign : '\\' ∉ x.signText.toList := by
    unfold Binary.signText
    split <;> decide
  unfold Binary.plainText
  by_cases hnan : x.isNaN = true
  · rw [if_pos hnan]
    decide
  · have hinf : x.isInfinite = true := by
      simp only [Binary.isFinite, Binary.isNaN, Binary.isInfinite, decide_eq_true_eq,
        decide_eq_false_iff_not] at h hnan ⊢
      omega
    rw [if_neg hnan, if_pos hinf]
    simpa using hsign

theorem Quotable.balanced_literal {value : Value} (h : value.Quotable) :
    Balanced value.literal.toList := by
  induction h with
  | null => rfl
  | @bool b => cases b <;> rfl
  | @int n => exact (Numeral.ofInt n.toInt).balanced
  | @float x =>
      rw [literal]
      split
      · rename_i hfinite
        rw [← Binary.text_numeral hfinite]
        exact x.numeral.balanced
      · -- what is not finite is quoted like a text
        rename_i hfinite
        apply Text.balanced_quoted
        apply Text.evenBackslashes_of_not_mem
        exact not_mem_plainText (by simpa using hfinite)
  | string htext => exact Text.balanced_quoted htext
  | @list items _ ih =>
      have hrow : Balanced (Text.joined ", " (literals items)).toList := by
        apply Text.balanced_joined (by decide)
        simpa [literals_eq_map] using ih
      have htext : (literal (.list items)).toList
          = '(' :: ((Text.joined ", " (literals items)).toList ++ [')']) := by
        simp [literal]
      rw [htext]
      exact hrow.bracketed rfl rfl

theorem Quotable.balanced_membership {value : Value} (h : value.Quotable) :
    Balanced value.membership.toList := by
  cases value with
  | list items => exact h.balanced_literal
  | _ =>
      have hbracketed : Balanced ('(' :: (_ ++ [')'])) := h.balanced_literal.bracketed rfl rfl
      simpa [membership] using hbracketed

theorem eq_map_of_mapM_text? {items : List Value} {words : List String}
    (h : items.mapM text? = some words) : items = words.map .string := by
  induction items generalizing words with
  | nil =>
      obtain rfl : [] = words := by simpa using h
      rfl
  | cons item items ih =>
      rw [List.mapM_cons] at h
      obtain ⟨word, hword, hrest⟩ := Option.bind_eq_some_iff.mp h
      obtain ⟨others, hothers, hwords⟩ := Option.bind_eq_some_iff.mp hrest
      obtain rfl : word :: others = words := Option.some.inj hwords
      cases item with
      | string text =>
          obtain rfl : text = word := Option.some.inj hword
          rw [ih hothers, List.map_cons]
      | _ => simp [text?] at hword

theorem Quotable.even_of_texts? {value : Value} (h : value.Quotable) {words : List String}
    (hwords : value.texts? = some words) : ∀ word ∈ words, EvenBackslashes word.toList := by
  cases h with
  | list hitems =>
      rw [eq_map_of_mapM_text? hwords] at hitems
      intro word hword
      cases hitems (.string word) (List.mem_map_of_mem hword) with
      | string htext => exact htext
  | _ => simp [texts?] at hwords

end Value

/-! ## Conditions -/

namespace Condition

/-- Names are names, no text lets a backslash meet a quote, and what is written
by hand is a fragment. -/
inductive Contained : Condition → Prop where
  | predicate {field relation operand matching} (hfield : Wordlike field)
      (hoperand : operand.Quotable) : Contained (.predicate field relation operand matching)
  | combined {connective left right} (hleft : Contained left) (hright : Contained right) :
      Contained (.combined connective left right)
  | negated {inner} (hinner : Contained inner) : Contained (.negated inner)
  | range {field low high} (hfield : Wordlike field) (hlow : low.Quotable)
      (hhigh : high.Quotable) : Contained (.range field low high)
  | sameElement {field conditions} (hfield : Wordlike field)
      (hconditions : ∀ condition ∈ conditions, Contained condition) :
      Contained (.sameElement field conditions)
  | nearest {field vector targetHits settings} (hfield : Wordlike field)
      (hvector : Wordlike vector) (hlabel : ∀ label ∈ settings.label, Wordlike label) :
      Contained (.nearest field vector targetHits settings)
  | userQuery {index} (hindex : ∀ name ∈ index, Wordlike name) : Contained (.userQuery index)
  | verbatim {text} (htext : Fragment text.toList) : Contained (.verbatim text)

theorem balanced_containsOperand {operand : Value} (h : operand.Quotable) (matching : Matching) :
    Balanced (containsOperand operand matching).toList := by
  -- a word in front of bracketed arguments, as in a phrase
  have called (name : String) {arguments : String} (hname : Balanced name.toList)
      (harguments : Balanced arguments.toList) :
      Balanced (name ++ "(" ++ arguments ++ ")").toList := by
    have hbracketed : Balanced ('(' :: (arguments.toList ++ [')'])) :=
      harguments.bracketed rfl rfl
    simpa using hname.append hbracketed
  cases matching with
  | exact => exact h.balanced_literal
  | fuzzy => exact called "fuzzy" (by decide) h.balanced_literal
  | phrase =>
      rw [containsOperand]
      split
      · rename_i words hwords
        apply called "phrase" (by decide)
        apply Text.balanced_joined (by decide)
        intro text htext
        obtain ⟨word, hword, rfl⟩ := List.mem_map.mp htext
        exact Text.balanced_quoted (h.even_of_texts? hwords word hword)
      · split
        · exact called "phrase" (by decide) h.balanced_literal
        · exact h.balanced_literal

theorem fragment_predicateText {field : String} {operand : Value} (hfield : Wordlike field)
    (h : operand.Quotable) (relation : Relation) (matching : Matching) :
    Fragment (predicateText field relation operand matching).toList := by
  have hsign : Balanced relation.sign.toList := by cases relation <;> decide
  have related {sign text : String} (hsign : Balanced sign.toList)
      (htext : Balanced text.toList) :
      Fragment ("(" ++ field ++ " " ++ sign ++ " " ++ text ++ ")").toList := by
    have hblank : Balanced [' '] := by decide
    have hinner := (((hfield.balanced.append hblank).append hsign).append hblank).append htext
    simpa using Text.fragment_bracketed hinner
  have containing {text : String} (htext : Balanced text.toList) :
      Fragment ("(" ++ field ++ " contains " ++ text ++ ")").toList := by
    have hcontains : Balanced "contains".toList := by decide
    simpa using related hcontains htext
  cases relation with
  | contains => exact containing (balanced_containsOperand h matching)
  | among => exact related hsign h.balanced_membership
  | notAmong => exact related hsign h.balanced_membership
  | equal =>
      rw [predicateText]
      split
      · exact containing h.balanced_literal
      · exact related hsign h.balanced_literal
  | notEqual =>
      rw [predicateText]
      split
      · have hnegated := (containing h.balanced_literal).negated
        simpa using hnegated
      · exact related hsign h.balanced_literal
  | _ => exact related hsign h.balanced_literal

theorem fragment_rangeText {field : String} {low high : Value} (hfield : Wordlike field)
    (hlow : low.Quotable) (hhigh : high.Quotable) :
    Fragment (rangeText field low high).toList := by
  have bounded (sign : String) {bound : Value} (hsign : Balanced sign.toList)
      (hbound : bound.Quotable) :
      Balanced ('(' :: (field.toList ++ sign.toList ++ bound.literal.toList ++ [')'])) :=
    ((hfield.balanced.append hsign).append hbound.balanced_literal).bracketed rfl rfl
  have hatLeast := bounded " >= " (by decide) hlow
  have hatMost := bounded " <= " (by decide) hhigh
  have hand : Balanced " and ".toList := by decide
  have hinner := (hatLeast.append hand).append hatMost
  simpa [rangeText] using Text.fragment_bracketed hinner

theorem balanced_nearestParameters (targetHits : UInt32) {settings : NearestSettings}
    (hlabel : ∀ label ∈ settings.label, Wordlike label) :
    ∀ text ∈ nearestParameters targetHits settings, Balanced text.toList := by
  have named (name : String) {value : String} (hname : Balanced name.toList)
      (hvalue : Balanced value.toList) : Balanced (name ++ value).toList := by
    simpa using hname.append hvalue
  intro text htext
  simp only [nearestParameters, List.mem_append] at htext
  rcases htext with ((htext | htext) | htext) | htext
  · obtain rfl := List.mem_singleton.mp htext
    exact named "targetHits:" (by decide) (Numeral.ofNat targetHits.toNat).balanced
  · split at htext
    · -- a label is not escaped, but has nothing in it that would be
      rename_i label hsome
      have hword := hlabel label hsome
      have hquoted : Balanced (Text.quoted label).toList :=
        Text.balanced_quoted (Text.evenBackslashes_of_not_mem (hword.not_mem (by decide)))
      have hlabelText := named "label:" (by decide) hquoted
      obtain rfl := List.mem_singleton.mp htext
      simpa [Text.quoted, Text.escapedChars_of_not_mem (hword.not_mem (by decide))]
        using hlabelText
    · simp at htext
  · split at htext
    · split at htext
      · obtain rfl := List.mem_singleton.mp htext
        exact named "distanceThreshold:" (by decide) (Binary.fixedNumeral _ 6).balanced
      · simp at htext
    · simp at htext
  · split at htext
    · rename_i allowed _
      obtain rfl := List.mem_singleton.mp htext
      cases allowed <;> decide
    · simp at htext

theorem fragment_nearestText {field vector : String} {settings : NearestSettings}
    (hfield : Wordlike field) (hvector : Wordlike vector)
    (hlabel : ∀ label ∈ settings.label, Wordlike label) (targetHits : UInt32) :
    Fragment (nearestText field vector targetHits settings).toList := by
  have hparameters : Balanced (Text.joined "," (nearestParameters targetHits settings)).toList :=
    Text.balanced_joined (by decide) (balanced_nearestParameters targetHits hlabel)
  have hannotations : Balanced ('\x7b' :: (_ ++ ['\x7d'])) := hparameters.bracketed rfl rfl
  have hcomma : Balanced ", ".toList := by decide
  have harguments : Balanced ('(' :: (_ ++ [')'])) :=
    ((hfield.balanced.append hcomma).append hvector.balanced).bracketed rfl rfl
  have hname : Balanced "nearestNeighbor".toList := by decide
  simpa [nearestText] using
    Text.fragment_bracketed ((hannotations.append hname).append harguments)

theorem fragment_userQueryText {index : Option String} (h : ∀ name ∈ index, Wordlike name) :
    Fragment (userQueryText index).toList := by
  have hcall : Fragment "userQuery()".toList := by decide
  cases index with
  | none => exact hcall
  | some name =>
      rw [userQueryText]
      split
      · exact hcall
      · have hstart : Balanced "defaultIndex:\"".toList := by decide
        have hend : Balanced "\"".toList := by decide
        have hinner := (hstart.append (h name rfl).balanced).append hend
        have hindexed : Fragment ('\x7b' :: (_ ++ '\x7d' :: _)) :=
          hcall.bracketed_append hinner rfl rfl
        simpa using hindexed

theorem fragment_combinedText {left right : String} (hleft : Fragment left.toList)
    (hright : Fragment right.toList) (connective : Connective) :
    Fragment (combinedText connective left right).toList := by
  rw [combinedText]
  split
  · exact hright
  · split
    · exact hleft
    · have hword : Balanced (" " ++ connective.word ++ " ").toList := by cases connective <;> decide
      have hinner := (hleft.balanced.append hword).append hright.balanced
      simpa using Text.fragment_bracketed hinner

theorem fragment_negatedText {inner : String} (h : Fragment inner.toList) :
    Fragment (negatedText inner).toList := by
  rw [negatedText]
  split
  · exact Text.fragment_nil
  · have hnegated := (Text.fragment_bracketed h.balanced).negated
    simpa using hnegated

theorem fragment_sameElementText {field : String} {texts : List String} (hfield : Wordlike field)
    (h : ∀ text ∈ texts, Fragment text.toList) : Fragment (sameElementText field texts).toList := by
  have hclauses : Balanced (Text.joined ", " (Text.nonEmpty texts)).toList := by
    apply Text.balanced_joined (by decide)
    intro text htext
    exact (h text (List.mem_of_mem_filter htext)).balanced
  rw [sameElementText]
  split
  · exact Text.fragment_nil
  · have harguments : Balanced ('(' :: (_ ++ [')'])) := hclauses.bracketed rfl rfl
    have hname : Balanced " contains sameElement".toList := by decide
    simpa using Text.fragment_bracketed ((hfield.balanced.append hname).append harguments)

/-- **The text of a condition stays inside its own brackets.** -/
theorem Contained.fragment {condition : Condition} (h : condition.Contained) :
    Fragment condition.yql.toList := by
  induction h with
  | predicate hfield hoperand => exact fragment_predicateText hfield hoperand _ _
  | combined _ _ ihleft ihright => exact fragment_combinedText ihleft ihright _
  | negated _ ih => exact fragment_negatedText ih
  | range hfield hlow hhigh => exact fragment_rangeText hfield hlow hhigh
  | sameElement hfield _ ih =>
      apply fragment_sameElementText hfield
      rw [yqls_eq_map]
      simpa using ih
  | nearest hfield hvector hlabel => exact fragment_nearestText hfield hvector hlabel _
  | userQuery hindex => exact fragment_userQueryText hindex
  | verbatim htext => exact htext

end Condition

/-! ## Rank clauses -/

theorem Rank.fragment_yql {rank : Rank} (h : ∀ condition ∈ rank.conditions, condition.Contained) :
    Fragment rank.yql.toList := by
  have hclauses :
      Balanced (Text.joined ", " (Text.nonEmpty (rank.conditions.map Condition.yql))).toList := by
    apply Text.balanced_joined (by decide)
    intro text htext
    obtain ⟨condition, hcondition, rfl⟩ := List.mem_map.mp (List.mem_of_mem_filter htext)
    exact (h condition hcondition).fragment.balanced
  rw [yql]
  split
  · exact Text.fragment_nil
  · -- the name in front is plain, and its "an" goes on with a letter that is no "d"
    have hk : Fragment ('k' :: _) :=
      (Text.fragment_bracketed hclauses).cons (by decide) (by decide) (by simp)
    have hn : Fragment ('n' :: _) := hk.cons (by decide) (by decide) (by simp)
    have ha : Fragment ('a' :: _) := hn.cons (by decide) (by decide) (by simp)
    have hr : Fragment ('r' :: _) := ha.cons (by decide) (by decide) (by simp)
    simpa using hr

end Yql
