import Yql.Condition.Render
import Yql.Proofs.Condition.Induction
import Yql.Proofs.Value.Shape

/-!
# What the text of a condition tells

Many conditions are written alike. A child that has nothing to say is left out;
how words are matched matters for `contains` alone; equality with a text is a
search for it as a term, a phrase that is made of no texts is matched exactly,
and a membership in one value is the membership in the list of it; a threshold
that is not finite and an index with an empty name are not written. The shape
of a condition is what is left after all of that, with values replaced by their
shapes and thresholds by their texts.
-/

namespace Yql

namespace Condition

/-- What a predicate looks for in its field. -/
inductive Operand where
  | value (shape : Value.Shape)
  | phrase (words : List String)
  | fuzzy (shape : Value.Shape)

/-- What the text of a condition tells. Inequality with a text has a shape of
its own: it is written as a negation, and so differs from inequality with a
number that is not finite, although both operands are written as texts. -/
inductive Shape where
  | predicate (field : String) (relation : Relation) (operand : Operand)
  | excluded (field text : String)
  | combined (connective : Connective) (left right : Shape)
  | negated (inner : Shape)
  | range (field : String) (low high : Value.Shape)
  | sameElement (field : String) (conditions : List Shape)
  | nearest (field vector : String) (targetHits : UInt32) (label : Option String)
      (threshold : Option Numeral) (approximate : Option Bool)
  | userQuery (index : Option String)

/-! ## The shape of a condition -/

/-- The operand of a `contains` predicate. A phrase of one text is the phrase
of the list of it; a phrase of anything but texts is an exact match. -/
def containsShape (operand : Value) : Matching → Operand
  | .exact => .value operand.shape
  | .phrase =>
      match operand with
      | .string text => .phrase [text]
      | other =>
          match other.texts? with
          | some words => .phrase words
          | none => .value other.shape
  | .fuzzy => .fuzzy operand.shape

/-- The operand of a membership test: a scalar is the only item of a list. -/
def membershipShape : Value → Value.Shape
  | .list items => (Value.list items).shape
  | scalar => .list [scalar.shape]

/-- The shape of a predicate. Equality with a text is the search for it. -/
def predicateShape (field : String) : Relation → Value → Matching → Shape
  | .equal, .string text, _ => .predicate field .contains (.value (.text text))
  | .notEqual, .string text, _ => .excluded field text
  | .contains, operand, matching =>
      .predicate field .contains (containsShape operand matching)
  | .among, operand, _ => .predicate field .among (.value (membershipShape operand))
  | .notAmong, operand, _ => .predicate field .notAmong (.value (membershipShape operand))
  | relation, operand, _ => .predicate field relation (.value operand.shape)

def thresholdShape (threshold : Double) : Option Numeral :=
  if threshold.isFinite then some (threshold.fixedNumeral 6) else none

/-- A combination of two sides, either of which may have nothing to say. -/
def combinedShape (connective : Connective) : Option Shape → Option Shape → Option Shape
  | none, right => right
  | some left, none => some left
  | some left, some right => some (.combined connective left right)

def sameElementShape (field : String) : List Shape → Option Shape
  | [] => none
  | clause :: rest => some (.sameElement field (clause :: rest))

mutual

/-- The shape of a condition, if it has something to say. A text written by
hand has no shape. -/
def shape? : Condition → Option Shape
  | predicate field relation operand matching =>
      some (predicateShape field relation operand matching)
  | combined connective left right =>
      combinedShape connective (shape? left) (shape? right)
  | negated inner => (shape? inner).map .negated
  | range field low high => some (.range field low.shape high.shape)
  | sameElement field conditions => sameElementShape field (shapes conditions)
  | nearest field vector targetHits settings =>
      some (.nearest field vector targetHits settings.label
        (settings.threshold.bind thresholdShape) settings.approximate)
  | userQuery index => some (.userQuery (index.filter (· ≠ "")))
  | verbatim _ => none

def shapes : List Condition → List Shape
  | [] => []
  | condition :: rest => (shape? condition).toList ++ shapes rest

end

/-! ## How shapes are written -/

end Condition

def Relation.tokens : Relation → List Token
  | .equal => [.sign '=']
  | .notEqual => [.sign '!', .sign '=']
  | .greater => [.sign '>']
  | .atLeast => [.sign '>', .sign '=']
  | .less => [.sign '<']
  | .atMost => [.sign '<', .sign '=']
  | .among => [.word "in"]
  | .notAmong => [.word "not", .sign ' ', .word "in"]
  | .contains => [.word "contains"]
  | .lacks => [.word "not", .sign ' ', .word "contains"]
  | .matching => [.word "matches"]

namespace Condition

def Operand.tokens : Operand → List Token
  | value shape => shape.tokens
  | phrase words =>
      .word "phrase" :: .sign '('
        :: (Token.row (words.map fun text => [.literal text]) ++ [.sign ')'])
  | fuzzy shape => .word "fuzzy" :: .sign '(' :: (shape.tokens ++ [.sign ')'])

def predicateTokens (field : String) (relation : Relation) (operand : Operand) : List Token :=
  .sign '(' :: .word field :: .sign ' '
    :: (relation.tokens ++ .sign ' ' :: (operand.tokens ++ [.sign ')']))

/-- How an annotation of a search for nearest neighbours is written, if there
is one. -/
def annotationTokens (name : String) : Option Token → List Token
  | none => []
  | some value => [.sign ',', .word name, .sign ':', value]

def truthWord (b : Bool) : Token :=
  .word (if b then "true" else "false")

namespace Shape

/-- Induction on shapes, over all conditions of a same-element clause at
once. -/
theorem induction {motive : Shape → Prop}
    (predicate : ∀ field relation operand, motive (predicate field relation operand))
    (excluded : ∀ field text, motive (excluded field text))
    (combined : ∀ connective left right, motive left → motive right →
      motive (combined connective left right))
    (negated : ∀ inner, motive inner → motive (negated inner))
    (range : ∀ field low high, motive (range field low high))
    (sameElement : ∀ field conditions, (∀ condition ∈ conditions, motive condition) →
      motive (sameElement field conditions))
    (nearest : ∀ field vector targetHits label threshold approximate,
      motive (nearest field vector targetHits label threshold approximate))
    (userQuery : ∀ index, motive (userQuery index)) (shape : Shape) : motive shape :=
  @Shape.rec motive (fun conditions => ∀ condition ∈ conditions, motive condition)
    predicate excluded combined negated range sameElement nearest userQuery (by simp)
    (fun _ _ hcondition hrest => List.forall_mem_cons.mpr ⟨hcondition, hrest⟩) shape

mutual

def tokens : Shape → List Token
  | predicate field relation operand => predicateTokens field relation operand
  | excluded field text =>
      .sign '!' :: predicateTokens field .contains (.value (.text text))
  | combined connective left right =>
      .sign '(' :: (tokens left ++ .sign ' ' :: .word connective.word :: .sign ' '
        :: (tokens right ++ [.sign ')']))
  | negated inner => .sign '!' :: .sign '(' :: (tokens inner ++ [.sign ')'])
  | range field low high =>
      .sign '(' :: (predicateTokens field .atLeast (.value low) ++ .sign ' ' :: .word "and"
        :: .sign ' ' :: (predicateTokens field .atMost (.value high) ++ [.sign ')']))
  | sameElement field conditions =>
      .sign '(' :: .word field :: .sign ' ' :: .word "contains" :: .sign ' '
        :: .word "sameElement" :: .sign '(' :: (Token.row (rows conditions)
        ++ .sign ')' :: [.sign ')'])
  | nearest field vector targetHits label threshold approximate =>
      .sign '(' :: .sign '\x7b' :: .word "targetHits" :: .sign ':'
        :: .word (Numeral.ofNat targetHits.toNat).text
        :: (annotationTokens "label" (label.map .literal)
        ++ (annotationTokens "distanceThreshold" (threshold.map fun n => .word n.text)
        ++ (annotationTokens "approximate" (approximate.map truthWord)
        ++ .sign '\x7d' :: .word "nearestNeighbor" :: .sign '(' :: .word field :: .sign ','
        :: .sign ' ' :: .word vector :: .sign ')' :: [.sign ')'])))
  | userQuery none => .word "userQuery" :: .sign '(' :: [.sign ')']
  | userQuery (some index) =>
      .sign '\x7b' :: .word "defaultIndex" :: .sign ':' :: .sign '"' :: .word index
        :: .sign '"' :: .sign '\x7d' :: .word "userQuery" :: .sign '(' :: [.sign ')']

def rows : List Shape → List (List Token)
  | [] => []
  | condition :: rest => tokens condition :: rows rest

end

theorem rows_eq_map (conditions : List Shape) : rows conditions = conditions.map tokens := by
  induction conditions with
  | nil => rfl
  | cons condition rest ih => simp [rows, ih]

/-- A condition begins with a bracket, with a negation, with the index of the
user's words, or with the user's words. -/
theorem tokens_begin (a : Shape) :
    (∃ t, a.tokens = .sign '(' :: t) ∨ (∃ t, a.tokens = .sign '!' :: t)
      ∨ (∃ t, a.tokens = .sign '\x7b' :: .word "defaultIndex" :: t)
      ∨ ∃ t, a.tokens = .word "userQuery" :: .sign '(' :: t := by
  cases a with
  | userQuery index => cases index <;> simp [tokens]
  | _ => simp [tokens, predicateTokens]

theorem tokens_ne_nil (a : Shape) : a.tokens ≠ [] := by
  rcases a.tokens_begin with ⟨u, hu⟩ | ⟨u, hu⟩ | ⟨u, hu⟩ | ⟨u, hu⟩ <;> simp [hu]

end Shape

end Condition

end Yql
