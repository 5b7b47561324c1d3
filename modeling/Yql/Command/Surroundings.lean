import Yql.Config.Search
import Yql.Terminal.Table

/-!
# What surrounds a run of the program

The environment, the files and the working directory, whether the output is a
terminal, and how text is shown there. Colour depends on three variables of the
environment: one that forces it, one that refuses it, and one that refuses it on
a terminal only.
-/

namespace Yql.Command

open Terminal (Screen Style)

/-- What a run of the program can see. -/
structure Surroundings where
  valueOf? : String → Option String
  files : Files
  /-- The working directory, or why there is none. -/
  directory : Except String Directory
  isTerminal : Bool
  /-- How many places a text takes. -/
  width : String → Nat
  /-- How a terminal is made to let a text stand out. -/
  styled : Style → String → String

namespace Surroundings

def isOn (surroundings : Surroundings) (name : String) : Option Bool :=
  (surroundings.valueOf? name).map (· ≠ "0")

def isFilled (surroundings : Surroundings) (name : String) : Bool :=
  ((surroundings.valueOf? name).getD "") ≠ ""

/-- Whether messages are coloured. What forces colour prevails over what
refuses it. -/
def wantsColour (surroundings : Surroundings) : Bool :=
  if surroundings.isOn "CLICOLOR_FORCE" = some true then true
  else if (surroundings.isOn "NO_COLOR").isSome then false
  else ((surroundings.isOn "CLICOLOR").getD true) && surroundings.isTerminal

/-- Whether the help keeps its colour when it is printed. Here what refuses
colour prevails. -/
def keepsColour (surroundings : Surroundings) : Bool :=
  if surroundings.isFilled "NO_COLOR" then false
  else if surroundings.isFilled "CLICOLOR_FORCE" then true
  else ((surroundings.isOn "CLICOLOR").getD true) && surroundings.isTerminal

/-- What tables are shown on. Only on a terminal something can stand out. -/
def screen (surroundings : Surroundings) : Screen where
  width := surroundings.width
  styled := if surroundings.isTerminal then surroundings.styled else fun _ text => text

def namedConfig (surroundings : Surroundings) : Option String :=
  surroundings.valueOf? Config.environmentVariable

end Surroundings

end Yql.Command
