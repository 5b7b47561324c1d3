import Yql.Json.Printer

/-!
# Requests

What is sent to the search endpoint: the query text and the parameters that
accompany it. On the wire a request is a JSON object with one member for each
parameter that is present, in a fixed order.
-/

namespace Yql

structure Request where
  yql : String
  ranking : Option String := none
  hits : Option UInt64 := none
  offset : Option UInt64 := none
  defaultIndex : Option String := none
  input : Option (KeyMap Json) := none
  query : Option String := none

namespace Request

inductive Parameter
  | yql
  | ranking
  | hits
  | offset
  | defaultIndex
  | input
  | query
  deriving DecidableEq

namespace Parameter

/-- The parameter's name on the wire. -/
def name : Parameter → String
  | yql => "yql"
  | ranking => "ranking"
  | hits => "hits"
  | offset => "offset"
  | defaultIndex => "defaultIndex"
  | input => "input"
  | query => "query"

/-- The parameters in the order of the wire. -/
def all : List Parameter :=
  [yql, ranking, hits, offset, defaultIndex, input, query]

/-- The names on the wire. -/
theorem map_name_all :
    all.map name = ["yql", "ranking", "hits", "offset", "defaultIndex", "input", "query"] := rfl

def ofName? (name : String) : Option Parameter :=
  all.find? (·.name = name)

end Parameter

def countJson (n : UInt64) : Json :=
  .number (.whole n.toNat)

def value? (request : Request) : Parameter → Option Json
  | .yql => some (.string request.yql)
  | .ranking => request.ranking.map .string
  | .hits => request.hits.map countJson
  | .offset => request.offset.map countJson
  | .defaultIndex => request.defaultIndex.map .string
  | .input => request.input.map fun map => .object map.entries
  | .query => request.query.map .string

def members (request : Request) : List (String × Json) :=
  Parameter.all.filterMap fun parameter =>
    (request.value? parameter).map (parameter.name, ·)

def toJson (request : Request) : Json :=
  .object request.members

/-- The body of a request, without blanks. -/
def compact (request : Request) : String :=
  request.toJson.compact

/-- The body of a request, a line for each member and item. -/
def pretty (request : Request) : String :=
  request.toJson.pretty

/-- Equality of requests, the numbers among the inputs compared as numbers. -/
def equal (a b : Request) : Bool :=
  a.yql = b.yql && a.ranking = b.ranking && a.hits = b.hits && a.offset = b.offset
    && a.defaultIndex = b.defaultIndex
    && (match a.input, b.input with
        | none, none => true
        | some a, some b => Json.equalMembers a.entries b.entries
        | _, _ => false)
    && a.query = b.query

instance : BEq Request := ⟨equal⟩

end Request

end Yql
