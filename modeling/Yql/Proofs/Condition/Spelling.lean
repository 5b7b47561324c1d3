import Yql.Proofs.Condition.Shape

/-!
# Conditions as the spelling of their shapes

The text of a condition is the text of the tokens of its shape, and empty when
it has no shape. This is so for conditions whose names are names and which
hold no text written by hand; the values in them are arbitrary.
-/

namespace Yql

theorem Relation.toList_sign (relation : Relation) :
    relation.sign.toList = spelling relation.tokens := by
  cases relation <;> rfl

namespace Condition

/-- Every field, query vector and index of the condition is a name, no label
has a single quote in it, and nothing is written by hand. -/
inductive Named : Condition → Prop where
  | predicate {field relation operand matching} (hfield : IsName field) :
      Named (.predicate field relation operand matching)
  | combined {connective left right} (hleft : Named left) (hright : Named right) :
      Named (.combined connective left right)
  | negated {inner} (hinner : Named inner) : Named (.negated inner)
  | range {field low high} (hfield : IsName field) : Named (.range field low high)
  | sameElement {field conditions} (hfield : IsName field)
      (hconditions : ∀ condition ∈ conditions, Named condition) :
      Named (.sameElement field conditions)
  | nearest {field vector targetHits settings} (hfield : IsName field) (hvector : IsName vector)
      (hlabel : ∀ label ∈ settings.label, '\'' ∉ label.toList) :
      Named (.nearest field vector targetHits settings)
  | userQuery {index} (hindex : ∀ name ∈ index, name = "" ∨ IsName name) :
      Named (.userQuery index)

theorem shapes_eq_filterMap (conditions : List Condition) :
    shapes conditions = conditions.filterMap shape? := by
  induction conditions with
  | nil => rfl
  | cons condition rest ih =>
      cases h : shape? condition <;> simp [shapes, h, ih]

/-! ## Operands and predicates -/

theorem toList_quoted (text : String) :
    (Text.quoted text).toList = (Token.literal text).chars := by
  simp [Text.quoted, Token.chars]

theorem toList_containsOperand (operand : Value) (matching : Matching) :
    (containsOperand operand matching).toList
      = spelling (containsShape operand matching).tokens := by
  cases matching with
  | exact => exact Value.toList_literal operand
  | fuzzy =>
      simp [containsOperand, containsShape, Operand.tokens, Token.chars, Value.toList_literal]
  | phrase =>
      have words (texts : List String) :
          ("phrase(" ++ Text.joined ", " (texts.map Text.quoted) ++ ")").toList
            = spelling (Operand.phrase texts).tokens := by
        have hrow : (Text.joined ", " (texts.map Text.quoted)).toList
            = spelling (Token.row (texts.map fun text => [.literal text])) :=
          Token.toList_joined (by simp [toList_quoted])
        simp [Operand.tokens, Token.chars, hrow]
      cases operand with
      | string text => exact words [text]
      | list items =>
          simp only [containsOperand, containsShape]
          cases (Value.list items).texts? with
          | none => exact Value.toList_literal (.list items)
          | some texts => exact words texts
      | _ => exact Value.toList_literal _

theorem toList_membership (operand : Value) :
    operand.membership.toList = spelling (membershipShape operand).tokens := by
  cases operand with
  | list items => exact Value.toList_literal (.list items)
  | _ =>
      simp [Value.membership, membershipShape, Value.Shape.tokens, Value.Shape.rows, Token.row,
        Token.followers_nil, Token.chars, Value.toList_literal]

theorem spelling_predicateTokens (field : String) (relation : Relation) (operand : Operand) :
    spelling (predicateTokens field relation operand)
      = '(' :: (field.toList ++ ' ' :: (relation.sign.toList ++ ' ' ::
        (spelling operand.tokens ++ [')']))) := by
  simp [predicateTokens, Token.chars, Relation.toList_sign]

theorem toList_predicateText (field : String) (relation : Relation) (operand : Value)
    (matching : Matching) :
    (predicateText field relation operand matching).toList
      = spelling (predicateShape field relation operand matching).tokens := by
  have related (relation : Relation) :
      ("(" ++ field ++ " " ++ relation.sign ++ " " ++ operand.literal ++ ")").toList
        = spelling (predicateTokens field relation (.value operand.shape)) := by
    simp [spelling_predicateTokens, Operand.tokens, Value.toList_literal]
  have member (relation : Relation) :
      ("(" ++ field ++ " " ++ relation.sign ++ " " ++ operand.membership ++ ")").toList
        = spelling (predicateTokens field relation (.value (membershipShape operand))) := by
    simp [spelling_predicateTokens, Operand.tokens, toList_membership]
  cases relation with
  | among => exact member .among
  | notAmong => exact member .notAmong
  | contains =>
      simp [predicateText, predicateShape, Shape.tokens, spelling_predicateTokens,
        toList_containsOperand, Relation.sign]
  | equal =>
      cases operand with
      | string text =>
          simp [predicateText, predicateShape, Shape.tokens, spelling_predicateTokens,
            Operand.tokens, Value.Shape.tokens, Value.literal, Value.isText, toList_quoted,
            Relation.sign]
      | _ => exact related .equal
  | notEqual =>
      cases operand with
      | string text =>
          simp [predicateText, predicateShape, Shape.tokens, spelling_predicateTokens,
            Operand.tokens, Value.Shape.tokens, Value.literal, Value.isText, toList_quoted,
            Relation.sign, Token.chars]
      | _ => exact related .notEqual
  | _ => exact related _

/-! ## The whole condition -/

theorem toList_rangeText (field : String) (low high : Value) :
    (rangeText field low high).toList
      = spelling (Shape.range field low.shape high.shape).tokens := by
  simp [rangeText, Shape.tokens, spelling_predicateTokens, Operand.tokens, Relation.sign,
    Token.chars, Value.toList_literal]

theorem nearestParameters_eq (targetHits : UInt32) (settings : NearestSettings) :
    nearestParameters targetHits settings
      = ("targetHits" ++ ":" ++ (Numeral.ofNat targetHits.toNat).text)
        :: (settings.label.toList.map (fun label => "label" ++ ":" ++ ("'" ++ label ++ "'"))
        ++ ((settings.threshold.bind thresholdShape).toList.map
            (fun threshold => "distanceThreshold" ++ ":" ++ threshold.text)
        ++ settings.approximate.toList.map
            (fun allowed => "approximate" ++ ":" ++ if allowed then "true" else "false"))) := by
  obtain ⟨label, threshold, approximate⟩ := settings
  have hlabel (text : String) :
      "label:'" ++ text ++ "'" = "label" ++ ":" ++ ("'" ++ text ++ "'") := by
    simp only [← String.append_assoc]
    rfl
  cases threshold with
  | none =>
      cases label <;> cases approximate <;> simp [nearestParameters, hlabel, Numeral.ofNat]
  | some threshold =>
      by_cases hfinite : threshold.isFinite = true
      · cases label <;> cases approximate <;>
          simp [nearestParameters, thresholdShape, hfinite, hlabel, Numeral.ofNat,
            Binary.fixedNumeral]
      · cases label <;> cases approximate <;>
          simp [nearestParameters, thresholdShape, hfinite, hlabel, Numeral.ofNat]

/-- An annotation stands behind the comma that keeps it apart from the one
before. -/
theorem flatMap_annotation {α : Type} (name : String) {text : α → String} {token : α → Token}
    {value : Option α} (h : ∀ a ∈ value, (text a).toList = (token a).chars) :
    (value.toList.map fun a => name ++ ":" ++ text a).flatMap
        (fun (next : String) => ",".toList ++ next.toList)
      = spelling (annotationTokens name (value.map token)) := by
  cases value with
  | none => rfl
  | some a => simp [annotationTokens, Token.chars, h a rfl]

theorem toList_nearestText (field vector : String) (targetHits : UInt32)
    (settings : NearestSettings) (hquote : ∀ label ∈ settings.label, '\'' ∉ label.toList) :
    (nearestText field vector targetHits settings).toList
      = spelling (Shape.nearest field vector targetHits settings.label
          (settings.threshold.bind thresholdShape) settings.approximate).tokens := by
  have hlabel : ∀ label ∈ settings.label,
      ("'" ++ label ++ "'").toList = (Token.literal label).chars := by
    intro label hmem
    simp [Token.chars, Text.escapedChars_of_not_mem (hquote label hmem)]
  have hthreshold : ∀ threshold ∈ settings.threshold.bind thresholdShape,
      threshold.text.toList = (Token.word threshold.text).chars := fun _ _ => rfl
  have happroximate : ∀ allowed ∈ settings.approximate,
      (if allowed then "true" else "false" : String).toList = (truthWord allowed).chars :=
    fun _ _ => rfl
  have hparameters : (Text.joined "," (nearestParameters targetHits settings)).toList
      = spelling (.word "targetHits" :: .sign ':' :: .word (Numeral.ofNat targetHits.toNat).text
        :: (annotationTokens "label" (settings.label.map .literal)
        ++ (annotationTokens "distanceThreshold"
          ((settings.threshold.bind thresholdShape).map fun n => .word n.text)
        ++ annotationTokens "approximate" (settings.approximate.map truthWord)))) := by
    rw [nearestParameters_eq, Text.toList_joined_cons, List.flatMap_append, List.flatMap_append,
      flatMap_annotation "label" hlabel, flatMap_annotation "distanceThreshold" hthreshold,
      flatMap_annotation "approximate" happroximate]
    simp [Token.chars]
  simp [nearestText, hparameters, Shape.tokens, Token.chars]

theorem toList_userQueryText (index : Option String) :
    (userQueryText index).toList
      = spelling (Shape.userQuery (index.filter (· ≠ ""))).tokens := by
  cases index with
  | none => rfl
  | some name =>
      by_cases h : name = ""
      · subst h
        rfl
      · simp [userQueryText, h, Shape.tokens, Token.chars, Option.filter]

/-! ## Spacing -/

end Condition

theorem Relation.spaced_tokens (relation : Relation) : Spaced relation.tokens := by
  cases relation <;> decide

namespace Condition

theorem Operand.spaced_tokens (operand : Operand) : Spaced operand.tokens := by
  cases operand with
  | value shape => exact shape.spaced_tokens
  | phrase words =>
      have hrow : Spaced (Token.row (words.map fun text => [.literal text])) := by
        apply Token.spaced_row
        intro item hitem
        obtain ⟨text, -, rfl⟩ := List.mem_map.mp hitem
        simp
      rw [tokens, spaced_word_sign_cons, spaced_append_sign]
      exact ⟨by decide, by decide, hrow, by decide, trivial⟩
  | fuzzy shape =>
      rw [tokens, spaced_word_sign_cons, spaced_append_sign]
      exact ⟨by decide, by decide, shape.spaced_tokens, by decide, trivial⟩

theorem spaced_predicateTokens {field : String} (h : IsName field) (relation : Relation)
    (operand : Operand) : Spaced (predicateTokens field relation operand) := by
  rw [predicateTokens, spaced_sign_cons, spaced_word_sign_cons, spaced_append_sign,
    spaced_append_sign]
  exact ⟨by decide, h.legible, by decide, relation.spaced_tokens, by decide,
    operand.spaced_tokens, by decide, trivial⟩

theorem spaced_predicateShape {field : String} (h : IsName field) (relation : Relation)
    (operand : Value) (matching : Matching) :
    Spaced (predicateShape field relation operand matching).tokens := by
  cases relation with
  | equal => cases operand <;> exact spaced_predicateTokens h _ _
  | notEqual =>
      cases operand with
      | string text =>
          rw [predicateShape, Shape.tokens, spaced_sign_cons]
          exact ⟨by decide, spaced_predicateTokens h _ _⟩
      | _ => exact spaced_predicateTokens h _ _
  | _ => exact spaced_predicateTokens h _ _

/-- A spaced row that may stand right behind a word. -/
def FollowsWord (tokens : List Token) : Prop :=
  Spaced tokens ∧ ∀ first ∈ tokens.head?, first.isWord = false

theorem spaced_word_cons {text : String} {rest : List Token} (htext : (Token.word text).Legible)
    (hrest : FollowsWord rest) : Spaced (.word text :: rest) :=
  ⟨htext, fun _ => hrest.2, hrest.1⟩

theorem followsWord_annotationTokens {name : String} {value : Option Token} {rest : List Token}
    (hname : (Token.word name).Legible) (hvalue : ∀ token ∈ value, token.Legible)
    (hrest : FollowsWord rest) : FollowsWord (annotationTokens name value ++ rest) := by
  cases value with
  | none => exact hrest
  | some token =>
      have htoken : Spaced (token :: rest) := ⟨hvalue token rfl, fun _ => hrest.2, hrest.1⟩
      simp only [annotationTokens, List.cons_append, List.nil_append]
      refine ⟨?_, by simp [Token.isWord]⟩
      rw [spaced_sign_cons, spaced_word_sign_cons]
      exact ⟨by decide, hname, by decide, htoken⟩

theorem spaced_nearestTokens {field vector : String} (hfield : IsName field)
    (hvector : IsName vector) (targetHits : UInt32) (label : Option String)
    (threshold : Option Numeral) (approximate : Option Bool) :
    Spaced (Shape.nearest field vector targetHits label threshold approximate).tokens := by
  have hlabel : ∀ token ∈ label.map Token.literal, token.Legible := by
    cases label <;> simp [Token.Legible]
  have hthreshold : ∀ token ∈ threshold.map fun n => Token.word n.text, token.Legible := by
    cases threshold <;> simp [Numeral.legible]
  have htruth : ∀ token ∈ approximate.map truthWord, token.Legible := by
    cases approximate with
    | none => simp
    | some allowed => cases allowed <;> decide
  have hend : FollowsWord (.sign '\x7d' :: .word "nearestNeighbor" :: .sign '(' :: .word field
      :: .sign ',' :: .sign ' ' :: .word vector :: .sign ')' :: [.sign ')']) := by
    refine ⟨?_, by simp [Token.isWord]⟩
    simp only [spaced_sign_cons, spaced_word_sign_cons]
    exact ⟨by decide, by decide, by decide, hfield.legible, by decide, by decide, hvector.legible,
      by decide, by decide, trivial⟩
  rw [Shape.tokens, spaced_sign_cons, spaced_sign_cons, spaced_word_sign_cons]
  refine ⟨by decide, by decide, by decide, by decide, spaced_word_cons (Numeral.legible _) ?_⟩
  apply followsWord_annotationTokens (by decide) hlabel
  apply followsWord_annotationTokens (by decide) hthreshold
  exact followsWord_annotationTokens (by decide) htruth hend

theorem Named.spaced_tokens {condition : Condition} (h : condition.Named) :
    ∀ shape ∈ condition.shape?, Spaced shape.tokens := by
  induction h with
  | @predicate field relation operand matching hfield =>
      rintro shape ⟨⟩
      exact spaced_predicateShape hfield relation operand matching
  | @combined connective left right _ _ ihleft ihright =>
      have hword : (Token.word connective.word).Legible := by cases connective <;> decide
      intro shape hshape
      rw [shape?] at hshape
      cases hleft : left.shape? with
      | none =>
          rw [hleft, combinedShape] at hshape
          exact ihright shape hshape
      | some l =>
          cases hright : right.shape? with
          | none =>
              rw [hleft, hright, combinedShape] at hshape
              exact ihleft shape (hleft ▸ hshape)
          | some r =>
              rw [hleft, hright] at hshape
              obtain rfl : Shape.combined connective l r = shape := Option.some.inj hshape
              simp only [Shape.tokens, spaced_sign_cons, spaced_append_sign, spaced_word_sign_cons]
              exact ⟨by decide, ihleft l hleft, by decide, hword, by decide, ihright r hright,
                by decide, trivial⟩
  | negated _ ih =>
      intro shape hshape
      rw [shape?, Option.mem_def, Option.map_eq_some_iff] at hshape
      obtain ⟨inner, hinner, rfl⟩ := hshape
      simp only [Shape.tokens, spaced_sign_cons, spaced_append_sign]
      exact ⟨by decide, by decide, ih inner hinner, by decide, trivial⟩
  | range hfield =>
      rintro shape ⟨⟩
      simp only [Shape.tokens, spaced_sign_cons, spaced_append_sign, spaced_word_sign_cons]
      exact ⟨by decide, spaced_predicateTokens hfield _ _, by decide, by decide, by decide,
        spaced_predicateTokens hfield _ _, by decide, trivial⟩
  | @sameElement field conditions hfield _ ih =>
      have hrow : Spaced (Token.row (Shape.rows (shapes conditions))) := by
        apply Token.spaced_row
        intro item hitem
        rw [Shape.rows_eq_map, shapes_eq_filterMap, List.mem_map] at hitem
        obtain ⟨clause, hclause, rfl⟩ := hitem
        obtain ⟨condition, hmem, hcondition⟩ := List.mem_filterMap.mp hclause
        exact ih condition hmem clause hcondition
      intro shape hshape
      rw [shape?] at hshape
      cases hclauses : shapes conditions with
      | nil => simp [hclauses, sameElementShape] at hshape
      | cons clause rest =>
          rw [hclauses] at hshape hrow
          obtain rfl : Shape.sameElement field (clause :: rest) = shape := Option.some.inj hshape
          simp only [Shape.tokens, spaced_sign_cons, spaced_append_sign, spaced_word_sign_cons]
          exact ⟨by decide, hfield.legible, by decide, by decide, by decide, by decide, by decide,
            hrow, by decide, by decide, trivial⟩
  | nearest hfield hvector _ =>
      rintro shape ⟨⟩
      exact spaced_nearestTokens hfield hvector _ _ _ _
  | @userQuery index hindex =>
      rintro shape ⟨⟩
      cases hname : index.filter (· ≠ "") with
      | none => decide
      | some name =>
          -- an index that is kept is not empty, and so is a name
          obtain ⟨hmem, hne⟩ := Option.filter_eq_some_iff.mp hname
          have hlegible : IsName name := (hindex name hmem).resolve_left (by simpa using hne)
          simp only [Shape.tokens, spaced_sign_cons, spaced_word_sign_cons]
          exact ⟨by decide, by decide, by decide, by decide, hlegible.legible, by decide, by decide,
            by decide, by decide, by decide, trivial⟩

/-! ## The text -/

def written : Option Shape → List Char
  | none => []
  | some shape => spelling shape.tokens

theorem eq_empty_iff_of_toList {text : String} {shape : Option Shape}
    (hspaced : ∀ s ∈ shape, Spaced s.tokens) (h : text.toList = written shape) :
    text = "" ↔ shape = none := by
  rw [← String.toList_eq_nil_iff, h]
  cases shape with
  | none => simp [written]
  | some s => simpa [written] using spelling_ne_nil (hspaced s rfl) s.tokens_ne_nil

theorem toList_nonEmpty_yqls {conditions : List Condition}
    (hspaced : ∀ condition ∈ conditions, ∀ shape ∈ condition.shape?, Spaced shape.tokens)
    (h : ∀ condition ∈ conditions, condition.yql.toList = written condition.shape?) :
    (Text.nonEmpty (yqls conditions)).map String.toList
      = (Shape.rows (shapes conditions)).map spelling := by
  induction conditions with
  | nil => rfl
  | cons condition rest ih =>
      obtain ⟨hcondition, hrest⟩ := List.forall_mem_cons.mp h
      obtain ⟨hspaced, hspacedRest⟩ := List.forall_mem_cons.mp hspaced
      have hempty := eq_empty_iff_of_toList hspaced hcondition
      have ih := ih hspacedRest hrest
      cases hshape : condition.shape? with
      | none =>
          have : condition.yql = "" := hempty.mpr hshape
          simp [Text.nonEmpty_cons, yqls, shapes, hshape, this, ih]
      | some shape =>
          have : condition.yql ≠ "" := by simp [hempty, hshape]
          rw [hshape, written] at hcondition
          simp [Text.nonEmpty_cons, yqls, shapes, hshape, Shape.rows, this, hcondition, ih]

theorem Named.toList_yql {condition : Condition} (h : condition.Named) :
    condition.yql.toList = written condition.shape? := by
  induction h with
  | predicate _ => exact toList_predicateText _ _ _ _
  | @combined connective left right hleft hright ihleft ihright =>
      have hl := eq_empty_iff_of_toList hleft.spaced_tokens ihleft
      have hr := eq_empty_iff_of_toList hright.spaced_tokens ihright
      rw [yql, shape?, combinedText]
      cases hls : left.shape? with
      | none =>
          rw [if_pos (hl.mpr hls), combinedShape]
          exact ihright
      | some l =>
          rw [if_neg (by simp [hl, hls])]
          rw [hls, written] at ihleft
          cases hrs : right.shape? with
          | none =>
              rw [if_pos (hr.mpr hrs), combinedShape]
              exact ihleft
          | some r =>
              rw [if_neg (by simp [hr, hrs])]
              rw [hrs, written] at ihright
              simp [combinedShape, written, Shape.tokens, Token.chars, ihleft, ihright]
  | @negated inner hinner ih =>
      have hi := eq_empty_iff_of_toList hinner.spaced_tokens ih
      rw [yql, shape?, negatedText]
      cases his : inner.shape? with
      | none =>
          rw [if_pos (hi.mpr his)]
          rfl
      | some s =>
          rw [if_neg (by simp [hi, his])]
          rw [his, written] at ih
          simp [written, Shape.tokens, Token.chars, ih]
  | range _ => exact toList_rangeText _ _ _
  | @sameElement field conditions _ hconditions ih =>
      -- the clauses that are not empty are those that have a shape, one for one
      have hclauses := toList_nonEmpty_yqls
        (fun condition hmem => (hconditions condition hmem).spaced_tokens) ih
      have hrow := Token.toList_joined hclauses
      rw [yql, shape?, sameElementText]
      cases hshapes : shapes conditions with
      | nil =>
          rw [hshapes, Shape.rows, List.map_nil, List.map_eq_nil_iff] at hclauses
          rw [hclauses, sameElementShape]
          rfl
      | cons clause rest =>
          have hne : Text.nonEmpty (yqls conditions) ≠ [] := by
            intro hnil
            simp [hnil, hshapes, Shape.rows] at hclauses
          rw [hshapes] at hrow
          split
          · contradiction
          · simp [written, sameElementShape, Shape.tokens, Token.chars, hrow]
  | nearest _ _ hlabel => exact toList_nearestText _ _ _ _ hlabel
  | userQuery _ => exact toList_userQueryText _

theorem Named.yql_eq_empty_iff {condition : Condition} (h : condition.Named) :
    condition.yql = "" ↔ condition.shape? = none :=
  eq_empty_iff_of_toList h.spaced_tokens h.toList_yql

end Condition

end Yql
