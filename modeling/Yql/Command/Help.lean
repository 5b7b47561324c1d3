import Yql.Command.Arguments
import Yql.Config.Basic
import Yql.Terminal.Accent

/-!
# Help

The full help of a command ends with examples of its use, and that of the
program with the variables of the environment that it knows. The brief help
ends with the options.
-/

namespace Yql.Command

open Terminal (painted)

structure UsageExamples where
  title : String
  commands : List String

namespace UsageExamples

def forBuild : List UsageExamples :=
  [{ title := "Filters"
     commands :=
      ["vespa-yql build --from products --where \"price > 10\"",
        "vespa-yql build --select id,title --from products "
          ++ "--where \"brand contains 'nike'\" --hits 20"] },
    { title := "Ranking"
      commands :=
        ["vespa-yql build --from products --user-query --query \"running shoes\" --ranking bm25",
          "vespa-yql build --from products "
            ++ "--rank \"(\x7btargetHits:100\x7dnearestNeighbor(embedding, q))\" "
            ++ "--input 'input.query(q)=[0.1,0.2]'"] },
    { title := "Output"
      commands :=
        ["vespa-yql --output json build --from products --offset 40 --hits 20",
          "vespa-yql --output compact build --from products --where \"in_stock = true\""] }]

def forSamples : List UsageExamples :=
  [{ title := "Browse"
     commands := ["vespa-yql demo list                   # Show every built-in query"] },
    { title := "Render"
      commands :=
        ["vespa-yql demo show xor               # Render the XOR query as a table",
          "vespa-yql --output json demo show hybrid   # Print the request body"] }]

def ofCommand? (name : String) : Option (List UsageExamples) :=
  if name = "build" then some forBuild
  else if name = "demo" then some forSamples
  else none

def text (group : UsageExamples) (coloured : Bool) : String :=
  "\n  " ++ painted group.title .heading false coloured ++ "\n"
    ++ String.join (group.commands.map fun command =>
        "    " ++ painted command .literal false coloured ++ "\n")

def allText (groups : List UsageExamples) (coloured : Bool) : String :=
  painted "Examples:" .heading true coloured ++ "\n"
    ++ String.join (groups.map (·.text coloured))

end UsageExamples

/-- The variables of the environment that the program knows. -/
def environmentText (coloured : Bool) : String :=
  painted "Environment:" .heading true coloured ++ "\n  "
    ++ painted Config.environmentVariable .literal true coloured
    ++ "  config file path (skips the " ++ Config.fileName ++ " search)\n  "
    ++ painted "RUST_LOG" .literal true coloured
    ++ "  log filter, e.g. vespa_yql=debug\n"

def Place.words : Place → String
  | .program => "vespa-yql"
  | .build => "vespa-yql build"
  | .samples => "vespa-yql demo"
  | .listSamples => "vespa-yql demo list"
  | .showSample => "vespa-yql demo show"

/-- The examples of the command of that name, if it has any. -/
def examplesAfter (command : String) (coloured : Bool) : String :=
  match UsageExamples.ofCommand? command with
  | some groups => "\n" ++ UsageExamples.allText groups coloured
  | none => ""

/-- What follows the options in the full help of a place. -/
def afterHelp (place : Place) (coloured : Bool) : String :=
  match place with
  | .program => "\n" ++ environmentText coloured
  | .build => examplesAfter "build" coloured
  | .samples => examplesAfter "demo" coloured
  | .listSamples => ""
  | .showSample => ""

def CommandOption.usage (option : CommandOption) : String :=
  (match option.letter? with
    | some letter => "  -" ++ String.singleton letter ++ ", --"
    | none => "      --") ++ option.name
    ++ (match option with
        | .setting _ => " <VALUE>"
        | _ => "") ++ "\n"

def helpText (place : Place) (extent : HelpExtent) (coloured : Bool) : String :=
  "Usage: " ++ place.words ++ " [OPTIONS]\n\nOptions:\n"
    ++ String.join ((CommandOption.allowedAt place).map CommandOption.usage)
    ++ if extent = .full then afterHelp place coloured else ""

def versionText : String := "vespa-yql 0.1.0\n"

end Yql.Command
