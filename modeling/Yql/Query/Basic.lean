import Yql.Query.Rejection
import Yql.Rank
import Yql.Request.Basic

/-!
# Queries

A query is put together piece by piece and then turned into a request. Fields,
sources and conditions add up; everything else is replaced by the next of its
kind. A query needs a source, and the keys of its inputs must name query
inputs; the missing source is reported before a malformed key, and of several
malformed keys the first in their order.
-/

namespace Yql

structure Query where
  fields : List String := []
  sources : List String := []
  conditions : List Condition := []
  rank : Option Rank := none
  ranking : String := ""
  hits : UInt64 := 0
  offset : UInt64 := 0
  defaultIndex : String := ""
  inputs : KeyMap Json := {}
  text : String := ""

namespace Query

/-- What the key of an input begins with. -/
def inputKeyStart : String := "input.query("

/-! ## Putting a query together -/

def returning (query : Query) (fields : List String) : Query :=
  { query with fields := query.fields ++ fields }

def searching (query : Query) (sources : List String) : Query :=
  { query with sources := query.sources ++ sources }

def requiring (query : Query) (conditions : List Condition) : Query :=
  { query with conditions := query.conditions ++ conditions }

def rankedBy (query : Query) (rank : Rank) : Query :=
  { query with rank := some rank }

/-- The rank profile; an empty name asks for none. -/
def inProfile (query : Query) (profile : String) : Query :=
  { query with ranking := profile }

/-- The number of hits wanted; zero asks for none in particular. -/
def limitedTo (query : Query) (hits : UInt64) : Query :=
  { query with hits := hits }

/-- How many hits to pass over. -/
def startingAt (query : Query) (offset : UInt64) : Query :=
  { query with offset := offset }

def inIndex (query : Query) (index : String) : Query :=
  { query with defaultIndex := index }

/-- An input; another of the same key is replaced. -/
def binding (query : Query) (key : String) (value : Json) : Query :=
  { query with inputs := query.inputs.insert key value }

def asking (query : Query) (text : String) : Query :=
  { query with text := text }

/-! ## The text of a query -/

def isInputKey (key : String) : Bool :=
  inputKeyStart.toList.isPrefixOf key.toList

theorem isInputKey_iff {key : String} :
    isInputKey key = true ↔ ∃ rest, key = "input.query(" ++ rest := by
  rw [isInputKey, List.isPrefixOf_iff_prefix]
  constructor
  · rintro ⟨rest, hrest⟩
    refine ⟨String.ofList rest, ?_⟩
    rw [← String.toList_inj]
    simpa [inputKeyStart] using hrest.symm
  · rintro ⟨rest, rfl⟩
    rw [String.toList_append]
    exact List.prefix_append _ _

def rejection? (query : Query) : Option Rejection :=
  if query.sources = [] then some .missingSources
  else
    (query.inputs.keys.find? fun key => !isInputKey key).map fun key =>
      .malformedKey key inputKeyStart

/-- The clause that names the fields; all of them when none is named. -/
def selectClause (query : Query) : String :=
  "select " ++ if query.fields = [] then "*" else Text.joined ", " query.fields

def fromClause (query : Query) : String :=
  "from sources " ++ if query.sources = [] then "*" else Text.joined ", " query.sources

/-- The members of the condition: the conditions that say something, and the
rank clause last. -/
def whereMembers (query : Query) : List String :=
  Text.nonEmpty (query.conditions.map Condition.yql)
    ++ Text.nonEmpty (query.rank.toList.map Rank.yql)

/-- The condition, empty when nothing is asked for. -/
def whereClause (query : Query) : String :=
  Text.joined " and " query.whereMembers

/-- The query text of the clauses; without a condition every document
fits. -/
def assembled (query : Query) : String :=
  query.selectClause ++ " " ++ query.fromClause ++ " where "
    ++ if query.whereClause = "" then "true" else query.whereClause

def yql (query : Query) : Except Rejection String :=
  match query.rejection? with
  | some rejection => .error rejection
  | none => .ok query.assembled

/-! ## The request of a query -/

def textIfAny (text : String) : Option String :=
  if text = "" then none else some text

def countIfAny (count : UInt64) : Option UInt64 :=
  if count = 0 then none else some count

def inputsIfAny (inputs : KeyMap Json) : Option (KeyMap Json) :=
  if inputs.isEmpty then none else some inputs

/-- The request of the query, unless the query is refused. A parameter left at
its empty value is not part of it. -/
def request (query : Query) : Except Rejection Request :=
  query.yql.map fun yql =>
    { yql := yql
      ranking := textIfAny query.ranking
      hits := countIfAny query.hits
      offset := countIfAny query.offset
      defaultIndex := textIfAny query.defaultIndex
      input := inputsIfAny query.inputs
      query := textIfAny query.text }

end Query

end Yql
