import Yql.Value.Literal

/-!
# Conditions

The conditions of a query are trees: predicates on fields, their
combinations, the search for nearest neighbours, the words of the user, and
texts written by hand. Trees compare node by node, their values as values.
-/

namespace Yql

/-- How a predicate relates a field to its operand. -/
inductive Relation
  | equal
  | notEqual
  | greater
  | atLeast
  | less
  | atMost
  | among
  | notAmong
  | contains
  | lacks
  | matching
  deriving DecidableEq, Inhabited

namespace Relation

def sign : Relation → String
  | equal => "="
  | notEqual => "!="
  | greater => ">"
  | atLeast => ">="
  | less => "<"
  | atMost => "<="
  | among => "in"
  | notAmong => "not in"
  | contains => "contains"
  | lacks => "not contains"
  | matching => "matches"

def all : List Relation :=
  [equal, notEqual, greater, atLeast, less, atMost, among, notAmong, contains,
    lacks, matching]

theorem map_sign_all :
    all.map sign = ["=", "!=", ">", ">=", "<", "<=", "in", "not in", "contains", "not contains",
      "matches"] := rfl

end Relation

/-- How the words of a `contains` predicate are matched. -/
inductive Matching
  | exact
  | phrase
  | fuzzy
  deriving DecidableEq, Inhabited

inductive Connective
  | and
  | or
  deriving DecidableEq, Inhabited

namespace Connective

def word : Connective → String
  | and => "AND"
  | or => "OR"

end Connective

/-- What may be said about a search for nearest neighbours; what is left out
is left to the engine. -/
structure NearestSettings where
  label : Option String := none
  threshold : Option Double := none
  approximate : Option Bool := none
  deriving DecidableEq

inductive Condition where
  | predicate (field : String) (relation : Relation) (operand : Value)
      (matching : Matching)
  | combined (connective : Connective) (left right : Condition)
  | negated (inner : Condition)
  | range (field : String) (low high : Value)
  | sameElement (field : String) (conditions : List Condition)
  | nearest (field vector : String) (targetHits : UInt32) (settings : NearestSettings)
  | userQuery (index : Option String)
  | verbatim (text : String)
  deriving Inhabited

namespace NearestSettings

/-- Equality of settings, the threshold compared as a number. -/
def equal (a b : NearestSettings) : Bool :=
  a.label = b.label && a.threshold == b.threshold && a.approximate = b.approximate

instance : BEq NearestSettings := ⟨equal⟩

end NearestSettings

namespace Condition

mutual

def equal : Condition → Condition → Bool
  | predicate field relation operand matching,
      predicate field' relation' operand' matching' =>
    field = field' && relation = relation' && Value.equal operand operand'
      && matching = matching'
  | combined connective left right, combined connective' left' right' =>
    connective = connective' && equal left left' && equal right right'
  | negated inner, negated inner' => equal inner inner'
  | range field low high, range field' low' high' =>
    field = field' && Value.equal low low' && Value.equal high high'
  | sameElement field conditions, sameElement field' conditions' =>
    field = field' && equalAll conditions conditions'
  | nearest field vector targetHits settings,
      nearest field' vector' targetHits' settings' =>
    field = field' && vector = vector' && targetHits = targetHits'
      && NearestSettings.equal settings settings'
  | userQuery index, userQuery index' => index = index'
  | verbatim text, verbatim text' => text = text'
  | _, _ => false

def equalAll : List Condition → List Condition → Bool
  | [], [] => true
  | a :: as, b :: bs => equal a b && equalAll as bs
  | _, _ => false

end

instance : BEq Condition := ⟨equal⟩

end Condition

end Yql
