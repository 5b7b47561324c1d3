import Yql.Request.Basic
import Yql.Terminal.Table

/-!
# Requests as tables

A request is shown as a table of names and values, in the order of the wire.
Texts are shown as they are, counts as numbers, and each input has a row of
its own with its compact JSON text.
-/

namespace Yql.Request

/-- The rows of a parameter; none when the request does not have it. -/
def rowsOf (request : Request) : Parameter → List (String × String)
  | .yql => [(Parameter.yql.name, request.yql)]
  | .ranking => request.ranking.toList.map (Parameter.ranking.name, ·)
  | .hits => request.hits.toList.map fun n => (Parameter.hits.name, toString n.toNat)
  | .offset => request.offset.toList.map fun n => (Parameter.offset.name, toString n.toNat)
  | .defaultIndex => request.defaultIndex.toList.map (Parameter.defaultIndex.name, ·)
  | .input =>
      match request.input with
      | some inputs => inputs.entries.map fun (key, value) => (key, value.compact)
      | none => []
  | .query => request.query.toList.map (Parameter.query.name, ·)

def rows (request : Request) : List (String × String) :=
  Parameter.all.flatMap request.rowsOf

def table (request : Request) : Terminal.Table where
  header := ["Field", "Value"]
  rows := request.rows.map fun (name, value) => [name, value]
  styles := [{ bold := true }]

end Yql.Request
