import Yql.Command.Options
import Yql.Config.Basic
import Yql.Json.Reading
import Yql.Query.Basic
import Yql.Text.Blank

/-!
# Queries from the command line

The options of the build command are merged over the defaults into a query. A
list that is given replaces the list of the defaults, and so does a single
value. Filters are put in brackets before they are combined, so that an `or`
inside one cannot reach over into the next.

An input is written as a key, an equals sign and a JSON value; what is no JSON
is sent as a text. Inputs are taken in order, up to the first that has no
equals sign.
-/

namespace Yql.Command

structure Input where
  key : String
  value : Json
  isJson : Bool

namespace Input

def splitAtEquals : List Char → Option (List Char × List Char)
  | [] => none
  | c :: rest =>
      if c = '=' then some ([], rest)
      else (splitAtEquals rest).map fun (before, after) => (c :: before, after)

def read? (raw : String) : Option Input :=
  (splitAtEquals raw.toList).map fun (key, value) =>
    let key := Text.trimmed (String.ofList key)
    let text := String.ofList value
    match Json.read? text with
    | some value => ⟨key, value, true⟩
    | none => ⟨key, .string text, false⟩

/-- The inputs of the texts before the first that gives none, and that text. -/
def readAll : List String → List Input × Option String
  | [] => ([], none)
  | raw :: rest =>
      match read? raw with
      | none => ([], some raw)
      | some input =>
          let (inputs, malformed) := readAll rest
          (input :: inputs, malformed)

end Input

def malformedInputMessage (raw : String) : String :=
  "input '" ++ raw ++ "' must have the form key=<json>"

def orElse (given default : List String) : List String :=
  if given = [] then default else given

def BuildFlags.conditions (flags : BuildFlags) : List Condition :=
  flags.filters.map (fun filter => Condition.verbatim ("(" ++ filter ++ ")"))
    ++ if flags.userQuery then [Condition.userQuery none] else []

/-- Replaces part of a query if there is something to replace it with. -/
def applying {α : Type} (change : Query → α → Query) (value : Option α) (query : Query) :
    Query :=
  match value with
  | some value => change query value
  | none => query

/-- The query of the options over the defaults, the inputs apart. -/
def BuildFlags.base (flags : BuildFlags) (defaults : Defaults) : Query :=
  ({} : Query).returning (orElse flags.select defaults.select)
    |>.searching (orElse flags.sources defaults.sources)
    |>.requiring (Condition.allOf flags.conditions).toList
    |> applying Query.rankedBy
        (if flags.rank = [] then none else some (Rank.ofList (flags.rank.map Condition.verbatim)))
    |> applying Query.inProfile (flags.ranking.or defaults.ranking)
    |> applying Query.limitedTo (flags.hits.or defaults.hits)
    |> applying Query.startingAt flags.offset
    |> applying Query.inIndex (flags.defaultIndex.or defaults.defaultIndex)
    |> applying Query.asking flags.query

/-- What the options make of the defaults: the keys of the inputs that are no
JSON, and the query, or else the text of an input that is malformed. -/
structure Merged where
  notJson : List String
  query : Except String Query

def BuildFlags.merge (flags : BuildFlags) (defaults : Defaults) : Merged :=
  let (inputs, malformed) := Input.readAll flags.inputs
  { notJson := (inputs.filter fun input => !input.isJson).map (·.key)
    query :=
      match malformed with
      | some raw => .error raw
      | none =>
          .ok (inputs.foldl (fun query input => query.binding input.key input.value)
            (flags.base defaults)) }

end Yql.Command
