import Yql.Condition.Compose

/-!
# Conditions as query text

Each node is written in brackets of its own. A node that has nothing to say is
written as the empty text, and what stands above it leaves it out: a
combination with one empty side is its other side, and a negation or a
same-element condition of nothing is nothing.
-/

namespace Yql.Condition

/-- The operand of a `contains` predicate. Phrases are made of one text or of
a list of texts; any other value is matched exactly. -/
def containsOperand (operand : Value) : Matching → String
  | .exact => operand.literal
  | .phrase =>
      match operand.texts? with
      | some words => "phrase(" ++ Text.joined ", " (words.map Text.quoted) ++ ")"
      | none => if operand.isText then "phrase(" ++ operand.literal ++ ")" else operand.literal
  | .fuzzy => "fuzzy(" ++ operand.literal ++ ")"

/-- A predicate on a field. Equality with a text is a `contains` predicate,
and inequality with one its negation. -/
def predicateText (field : String) (relation : Relation) (operand : Value)
    (matching : Matching) : String :=
  match relation with
  | .among => "(" ++ field ++ " " ++ relation.sign ++ " " ++ operand.membership ++ ")"
  | .notAmong => "(" ++ field ++ " " ++ relation.sign ++ " " ++ operand.membership ++ ")"
  | .contains => "(" ++ field ++ " contains " ++ containsOperand operand matching ++ ")"
  | .equal =>
      if operand.isText then "(" ++ field ++ " contains " ++ operand.literal ++ ")"
      else "(" ++ field ++ " " ++ relation.sign ++ " " ++ operand.literal ++ ")"
  | .notEqual =>
      if operand.isText then "!(" ++ field ++ " contains " ++ operand.literal ++ ")"
      else "(" ++ field ++ " " ++ relation.sign ++ " " ++ operand.literal ++ ")"
  | _ => "(" ++ field ++ " " ++ relation.sign ++ " " ++ operand.literal ++ ")"

theorem predicateText_compared {relation : Relation} {operand : Value}
    (hrelation : relation ∉ [.among, .notAmong, .contains])
    (hoperand : relation ∈ [.equal, .notEqual] → operand.isText = false) (field : String)
    (matching : Matching) :
    predicateText field relation operand matching
      = "(" ++ field ++ " " ++ relation.sign ++ " " ++ operand.literal ++ ")" := by
  cases relation <;> simp_all [predicateText]

theorem predicateText_listed {relation : Relation} (hrelation : relation ∈ [.among, .notAmong])
    (field : String) (operand : Value) (matching : Matching) :
    predicateText field relation operand matching
      = "(" ++ field ++ " " ++ relation.sign ++ " " ++ operand.membership ++ ")" := by
  cases relation <;> simp_all [predicateText]

theorem predicateText_of_isText {operand : Value} (h : operand.isText = true) (field : String)
    (matching : Matching) :
    predicateText field .equal operand matching
        = "(" ++ field ++ " contains " ++ operand.literal ++ ")"
      ∧ predicateText field .notEqual operand matching
        = "!(" ++ field ++ " contains " ++ operand.literal ++ ")" := by
  simp [predicateText, h]

def rangeText (field : String) (low high : Value) : String :=
  "((" ++ field ++ " >= " ++ low.literal ++ ") and (" ++ field ++ " <= "
    ++ high.literal ++ "))"

/-- A range is written as two predicates with a small `and` between them. -/
theorem rangeText_eq (field : String) (low high : Value) (matching : Matching) :
    rangeText field low high
      = "(" ++ predicateText field .atLeast low matching ++ " and "
        ++ predicateText field .atMost high matching ++ ")" := by
  rw [predicateText_compared (by decide) (by simp), predicateText_compared (by decide) (by simp)]
  simp [rangeText, Relation.sign, ← String.toList_inj]

/-- The annotations of a search for nearest neighbours, always in the same
order. A threshold that is not finite bounds nothing and is left out. -/
def nearestParameters (targetHits : UInt32) (settings : NearestSettings) : List String :=
  ["targetHits:" ++ toString targetHits.toNat]
    ++ (match settings.label with
        | some label => ["label:'" ++ label ++ "'"]
        | none => [])
    ++ (match settings.threshold with
        | some threshold =>
            if threshold.isFinite then ["distanceThreshold:" ++ threshold.fixedText 6] else []
        | none => [])
    ++ (match settings.approximate with
        | some allowed => ["approximate:" ++ if allowed then "true" else "false"]
        | none => [])

def nearestText (field vector : String) (targetHits : UInt32)
    (settings : NearestSettings) : String :=
  "(\x7b" ++ Text.joined "," (nearestParameters targetHits settings)
    ++ "\x7dnearestNeighbor(" ++ field ++ ", " ++ vector ++ "))"

/-- The words of the user, with the index they are searched in if one is
named. -/
def userQueryText : Option String → String
  | some index =>
      if index = "" then "userQuery()"
      else "\x7bdefaultIndex:\"" ++ index ++ "\"\x7duserQuery()"
  | none => "userQuery()"

theorem userQueryText_eq (index : Option String) :
    userQueryText index
      = if index.getD "" = "" then "userQuery()"
        else "\x7bdefaultIndex:\"" ++ index.getD "" ++ "\"\x7duserQuery()" := by
  cases index <;> rfl

/-- Two texts combined; an empty one is left out, brackets included. -/
def combinedText (connective : Connective) (left right : String) : String :=
  if left = "" then right
  else if right = "" then left
  else "(" ++ left ++ " " ++ connective.word ++ " " ++ right ++ ")"

/-- A negated text; nothing stays nothing. -/
def negatedText (inner : String) : String :=
  if inner = "" then "" else "!(" ++ inner ++ ")"

/-- A same-element condition over the texts that say something. -/
def sameElementText (field : String) (conditions : List String) : String :=
  match Text.nonEmpty conditions with
  | [] => ""
  | clauses => "(" ++ field ++ " contains sameElement(" ++ Text.joined ", " clauses ++ "))"

mutual

def yql : Condition → String
  | predicate field relation operand matching =>
      predicateText field relation operand matching
  | combined connective left right => combinedText connective (yql left) (yql right)
  | negated inner => negatedText (yql inner)
  | range field low high => rangeText field low high
  | sameElement field conditions => sameElementText field (yqls conditions)
  | nearest field vector targetHits settings =>
      nearestText field vector targetHits settings
  | userQuery index => userQueryText index
  | verbatim text => text

def yqls : List Condition → List String
  | [] => []
  | condition :: rest => yql condition :: yqls rest

end

instance : ToString Condition := ⟨yql⟩

theorem yqls_eq_map (conditions : List Condition) : yqls conditions = conditions.map yql := by
  induction conditions with
  | nil => rfl
  | cons condition rest ih => simp [yqls, ih]

end Yql.Condition
