/-!
# Commands and their options

What the program can be asked to do, and the options it can be given.
-/

namespace Yql.Command

/-- In which form a request is printed. -/
inductive Layout
  | table
  | json
  | compact
  deriving DecidableEq, Inhabited

namespace Layout

def word : Layout → String
  | table => "table"
  | json => "json"
  | compact => "compact"

def ofWord? (word : String) : Option Layout :=
  [table, json, compact].find? (·.word = word)

end Layout

structure Settings where
  layout : Layout := .table
  quiet : Bool := false
  verbose : Bool := false
  noColour : Bool := false
  config : Option String := none

structure BuildFlags where
  select : List String := []
  sources : List String := []
  filters : List String := []
  userQuery : Bool := false
  rank : List String := []
  ranking : Option String := none
  hits : Option UInt64 := none
  offset : Option UInt64 := none
  defaultIndex : Option String := none
  query : Option String := none
  inputs : List String := []

inductive Task where
  | build (flags : BuildFlags)
  | listSamples
  | showSample (name : String)

end Yql.Command
