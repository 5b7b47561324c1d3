import Yql.Command.Options
import Yql.Terminal.Accent

/-!
# Reports

A command leaves a report: the messages in the order they arose, and an exit
code. Data goes to the standard output, and messages about it to the standard
error, so that what is piped on is data only. Which messages are shown depends
on the settings: errors always, notes only when asked for, and nothing but
errors when the program is to be quiet.
-/

namespace Yql.Command

open Terminal (Accent painted)

/-- Something that a command has to say. -/
inductive Message where
  | status (accent : Accent) (text : String)
  | bullet (text : String)
  | heading (text : String)
  | data (text : String)

structure Report where
  messages : List Message
  code : Nat

structure Display where
  settings : Settings
  coloured : Bool

namespace Display

def shows (display : Display) : Accent → Bool
  | .error => true
  | .muted => display.settings.verbose && !display.settings.quiet
  | _ => !display.settings.quiet

/-- What a message adds to the standard output. -/
def output (display : Display) : Message → String
  | .heading text =>
      if display.settings.quiet || display.settings.layout ≠ .table then ""
      else "\n" ++ painted text .heading true display.coloured ++ "\n"
  | .data text => if display.settings.quiet then "" else text ++ "\n"
  | _ => ""

/-- What a message adds to the standard error. -/
def errors (display : Display) : Message → String
  | .status accent text =>
      if display.shows accent then
        painted accent.icon accent false display.coloured ++ " "
          ++ painted text accent false display.coloured ++ "\n"
      else ""
  | .bullet text =>
      if display.settings.quiet then ""
      else "  " ++ painted Accent.heading.icon .muted false display.coloured ++ " " ++ text ++ "\n"
  | _ => ""

end Display

def concatenated : List String → String
  | [] => ""
  | text :: rest => text ++ concatenated rest

/-- What a run of the program leaves: its two outputs and its exit code. -/
structure Outcome where
  output : String
  errors : String
  code : Nat
  deriving DecidableEq

def Report.outcome (report : Report) (display : Display) : Outcome where
  output := concatenated (report.messages.map display.output)
  errors := concatenated (report.messages.map display.errors)
  code := report.code

end Yql.Command
