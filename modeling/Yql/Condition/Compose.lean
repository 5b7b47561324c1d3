import Yql.Condition.Basic

/-!
# Building conditions

Predicates are built from the field they speak of, and combined in pairs or in
lists. A list of conditions is combined from the left; the empty list gives no
condition at all, and one condition alone stands for itself.
-/

namespace Yql

/-- One thing said about a search for nearest neighbours. -/
inductive NearestAnnotation where
  | label (text : String)
  | threshold (distance : Double)
  | approximate (allowed : Bool)

namespace NearestSettings

/-- The settings after one more annotation, which replaces an earlier one of its
kind. -/
def annotated (settings : NearestSettings) : NearestAnnotation → NearestSettings
  | .label text => { settings with label := some text }
  | .threshold distance => { settings with threshold := some distance }
  | .approximate allowed => { settings with approximate := some allowed }

def ofList (annotations : List NearestAnnotation) : NearestSettings :=
  annotations.foldl annotated {}

end NearestSettings

namespace Condition

def and (left right : Condition) : Condition :=
  combined .and left right

def or (left right : Condition) : Condition :=
  combined .or left right

/-- The conditions combined from the left, if there are any. -/
def combineAll (connective : Connective) : List Condition → Option Condition
  | [] => none
  | first :: rest => some (rest.foldl (combined connective) first)

def allOf (conditions : List Condition) : Option Condition :=
  combineAll .and conditions

def anyOf (conditions : List Condition) : Option Condition :=
  combineAll .or conditions

/-- The words of the user, searched in the given index; an empty name gives
none. -/
def userQueryIndexed (index : String) : Condition :=
  userQuery (if index = "" then none else some index)

end Condition

structure Field where
  name : String
  deriving DecidableEq

namespace Field

open Condition (predicate)

/-- The field equals the value; a text value is looked for as a term. -/
def equalTo (field : Field) (value : Value) : Condition :=
  predicate field.name .equal value .exact

def notEqualTo (field : Field) (value : Value) : Condition :=
  predicate field.name .notEqual value .exact

def greaterThan (field : Field) (value : Value) : Condition :=
  predicate field.name .greater value .exact

def atLeast (field : Field) (value : Value) : Condition :=
  predicate field.name .atLeast value .exact

def lessThan (field : Field) (value : Value) : Condition :=
  predicate field.name .less value .exact

def atMost (field : Field) (value : Value) : Condition :=
  predicate field.name .atMost value .exact

def among (field : Field) (values : List Value) : Condition :=
  predicate field.name .among (.list values) .exact

def notAmong (field : Field) (values : List Value) : Condition :=
  predicate field.name .notAmong (.list values) .exact

/-- The field contains the value, its words matched as asked for. -/
def contains (field : Field) (value : Value) (matching : Matching) : Condition :=
  predicate field.name .contains value matching

def lacks (field : Field) (text : String) : Condition :=
  predicate field.name .lacks (.string text) .exact

def matching (field : Field) (pattern : String) : Condition :=
  predicate field.name .matching (.string pattern) .exact

def inRange (field : Field) (low high : Value) : Condition :=
  .range field.name low high

/-- The field is among the nearest neighbours of the query vector of that
name. -/
def nearestTo (field : Field) (vector : String) (targetHits : UInt32)
    (annotations : List NearestAnnotation) : Condition :=
  .nearest field.name vector targetHits (.ofList annotations)

def sameElement (field : Field) (conditions : List Condition) : Condition :=
  .sameElement field.name conditions

end Field

end Yql
