import Yql.Command.Options
import Yql.Text.Joined

/-!
# Reading the command line

The arguments are read from left to right. Options may stand before and after
the name of a command; those of every command may be given again after it, and
what is given last holds. At one place an option is given once, lists apart. A
value follows its option as the next argument or after an equals sign; as the
next argument it must not look like an option. After two dashes nothing is an
option any more.

A value that stands as the next argument is judged when the next option of the
same place is met, or at the end. So a request for help that comes first
prevails, and one that comes later does not.
-/

namespace Yql.Command

/-- Options that are given without a value. -/
inductive Switch
  | quiet
  | verbose
  | noColour
  | userQuery
  deriving DecidableEq

/-- Options that are given with a value. -/
inductive Setting
  | output
  | config
  | select
  | sources
  | filter
  | rank
  | ranking
  | hits
  | offset
  | defaultIndex
  | query
  | input
  deriving DecidableEq

inductive CommandOption
  | switch (switch : Switch)
  | setting (setting : Setting)
  | help
  | version
  deriving DecidableEq

/-- The place on the command line: before any command, or after one. -/
inductive Place
  | program
  | build
  | samples
  | listSamples
  | showSample
  deriving DecidableEq

inductive UsageError where
  | unknownArgument (argument : String)
  | unexpectedValue (option : String)
  | missingValue (option : String)
  | repeated (option : String)
  | invalidValue (option value : String)
  | missingCommand
  | missingName

/-- How much help is asked for: the letter asks for the options alone, the word
for all there is to say. -/
inductive HelpExtent
  | brief
  | full
  deriving DecidableEq

inductive Invocation where
  | run (settings : Settings) (task : Task)
  | help (place : Place) (extent : HelpExtent)
  | version

namespace Setting

def name : Setting → String
  | output => "output"
  | config => "config"
  | select => "select"
  | sources => "from"
  | filter => "where"
  | rank => "rank"
  | ranking => "ranking"
  | hits => "hits"
  | offset => "offset"
  | defaultIndex => "default-index"
  | query => "query"
  | input => "input"

/-- Whether the setting may be given more than once. -/
def isList : Setting → Bool
  | select => true
  | sources => true
  | filter => true
  | rank => true
  | input => true
  | _ => false

def common : List Setting := [output, config]

def ofBuild : List Setting :=
  [select, sources, filter, rank, ranking, hits, offset, defaultIndex, query, input]

end Setting

namespace Switch

def name : Switch → String
  | quiet => "quiet"
  | verbose => "verbose"
  | noColour => "no-color"
  | userQuery => "user-query"

def letter? : Switch → Option Char
  | quiet => some 'q'
  | verbose => some 'v'
  | _ => none

def common : List Switch := [quiet, verbose, noColour]

end Switch

namespace CommandOption

def name : CommandOption → String
  | switch s => s.name
  | setting s => s.name
  | help => "help"
  | version => "version"

def letter? : CommandOption → Option Char
  | switch s => s.letter?
  | setting _ => none
  | help => some 'h'
  | version => some 'V'

def isList : CommandOption → Bool
  | setting s => s.isList
  | _ => false

def allowedAt (place : Place) : List CommandOption :=
  Setting.common.map setting ++ Switch.common.map switch ++ [help]
    ++ (if place = .program then [version] else [])
    ++ (if place = .build then Setting.ofBuild.map setting ++ [switch .userQuery] else [])

end CommandOption

/-- The count that a text stands for: digits, a plus sign allowed before them,
in the range of a 64-bit word. -/
def readCount? (text : String) : Option UInt64 :=
  let digits :=
    match text.toList with
    | '+' :: digits => digits
    | digits => digits
  if digits ≠ [] ∧ digits.all Char.isDigit then
    let n := Nat.ofDigitChars 10 digits 0
    if n < UInt64.size then some (UInt64.ofNat n) else none
  else none

/-- What has been read of the arguments. `waiting` is the setting whose value
is due; `failed` is what was wrong with a value that is still to be judged. -/
structure Arguments where
  place : Place := .program
  given : List CommandOption := []
  waiting : Option Setting := none
  failed : Option UsageError := none
  plain : Bool := false
  settings : Settings := {}
  flags : BuildFlags := {}
  name : Option String := none

inductive Stop where
  | wrong (error : UsageError)
  | found (invocation : Invocation)

namespace Arguments

def switchOn (arguments : Arguments) : Switch → Arguments
  | .quiet => { arguments with settings := { arguments.settings with quiet := true } }
  | .verbose => { arguments with settings := { arguments.settings with verbose := true } }
  | .noColour => { arguments with settings := { arguments.settings with noColour := true } }
  | .userQuery => { arguments with flags := { arguments.flags with userQuery := true } }

/-- What a setting does with its value; nothing when the value does not fit. -/
def set? (arguments : Arguments) (setting : Setting) (value : String) : Option Arguments :=
  let { settings, flags, .. } := arguments
  match setting with
  | .output =>
      (Layout.ofWord? value).map fun layout =>
        { arguments with settings := { settings with layout := layout } }
  | .config =>
      if value = "" then none
      else some { arguments with settings := { settings with config := some value } }
  | .select =>
      some { arguments with flags :=
        { flags with select := flags.select ++ Text.split ',' value } }
  | .sources =>
      some { arguments with flags :=
        { flags with sources := flags.sources ++ Text.split ',' value } }
  | .filter =>
      some { arguments with flags := { flags with filters := flags.filters ++ [value] } }
  | .rank => some { arguments with flags := { flags with rank := flags.rank ++ [value] } }
  | .ranking => some { arguments with flags := { flags with ranking := some value } }
  | .hits =>
      (readCount? value).map fun hits =>
        { arguments with flags := { flags with hits := some hits } }
  | .offset =>
      (readCount? value).map fun offset =>
        { arguments with flags := { flags with offset := some offset } }
  | .defaultIndex => some { arguments with flags := { flags with defaultIndex := some value } }
  | .query => some { arguments with flags := { flags with query := some value } }
  | .input => some { arguments with flags := { flags with inputs := flags.inputs ++ [value] } }

/-- The arguments with an option marked as given at this place, unless it has
been given there before. -/
def mark (arguments : Arguments) (option : CommandOption) : Except UsageError Arguments :=
  if option ∈ arguments.given ∧ !option.isList then .error (.repeated option.name)
  else .ok { arguments with given := option :: arguments.given }

def give (arguments : Arguments) (setting : Setting) (value : String) :
    Except UsageError Arguments := do
  let arguments ← arguments.mark (.setting setting)
  match arguments.set? setting value with
  | some arguments => .ok arguments
  | none => .error (.invalidValue setting.name value)

/-- What is known to be wrong when an option is met or the arguments end. -/
def pendingError? (arguments : Arguments) : Option UsageError :=
  match arguments.failed, arguments.waiting with
  | some error, _ => some error
  | none, some setting => some (.missingValue setting.name)
  | none, none => none

def orStop {α : Type} : Except UsageError α → Except Stop α
  | .ok result => .ok result
  | .error error => .error (.wrong error)

/-- The arguments after an option, with the value that is attached to it;
`extent` is how much help the option's form asks for. -/
def takeOption (arguments : Arguments) (option : CommandOption) (attached : Option String)
    (extent : HelpExtent) : Except Stop Arguments :=
  match arguments.pendingError? with
  | some error => .error (.wrong error)
  | none =>
      match option, attached with
      | .setting setting, some value => orStop (arguments.give setting value)
      | .setting setting, none => .ok { arguments with waiting := some setting }
      | option, some _ => .error (.wrong (.unexpectedValue option.name))
      | .help, none => .error (.found (.help arguments.place extent))
      | .version, none => .error (.found .version)
      | .switch switch, none =>
          (orStop (arguments.mark (.switch switch))).map (·.switchOn switch)

def takeLong (arguments : Arguments) (chars : List Char) : Except Stop Arguments :=
  let name := String.ofList (chars.takeWhile (· ≠ '='))
  let attached :=
    match chars.dropWhile (· ≠ '=') with
    | _ :: value => some (String.ofList value)
    | [] => none
  match (CommandOption.allowedAt arguments.place).find? (·.name = name) with
  | some option => arguments.takeOption option attached .full
  | none => .error (.wrong (.unknownArgument ("--" ++ name)))

def takeLetters (arguments : Arguments) : List Char → Except Stop Arguments
  | [] => .ok arguments
  | letter :: rest =>
      match (CommandOption.allowedAt arguments.place).find? (·.letter? = some letter) with
      | some option => do
          let arguments ← arguments.takeOption option none .brief
          takeLetters arguments rest
      | none => .error (.wrong (.unknownArgument ("-" ++ String.singleton letter)))

def enter (arguments : Arguments) (place : Place) : Except Stop Arguments :=
  .ok { arguments with place := place, given := [], failed := none }

def command? : Place → String → Option Place
  | .program, "build" => some .build
  | .program, "demo" => some .samples
  | .samples, "list" => some .listSamples
  | .samples, "show" => some .showSample
  | _, _ => none

/-- Whether the word that asks for help is a command at the place. -/
def hasHelp (place : Place) : Bool :=
  place = .program || place = .samples

/-- The help that the words after `help` ask for. About the word `help` itself
there is nothing to say but the options. -/
def helpFor (place : Place) : List String → Stop
  | [] => .found (.help place .full)
  | word :: rest =>
      match command? place word with
      | some place => helpFor place rest
      | none =>
          if hasHelp place ∧ word = "help" ∧ rest = [] then .found (.help place .brief)
          else .wrong (.unknownArgument word)

def takeWord (arguments : Arguments) (word : String) (rest : List String) :
    Except Stop Arguments :=
  match arguments.place with
  | .showSample =>
      match arguments.pendingError?, arguments.name with
      | some error, _ => .error (.wrong error)
      | none, none => .ok { arguments with name := some word }
      | none, some _ => .error (.wrong (.unknownArgument word))
  | place =>
      if arguments.plain then .error (.wrong (.unknownArgument word))
      else if hasHelp place ∧ word = "help" then .error (helpFor place rest)
      else
        match command? place word with
        | some place => arguments.enter place
        | none => .error (.wrong (.unknownArgument word))

/-- The arguments after one more. A value that is due is taken first, unless it
looks like an option; what is wrong with it is kept for later. -/
def take (arguments : Arguments) (argument : String) (rest : List String) :
    Except Stop Arguments :=
  if arguments.plain then arguments.takeWord argument rest
  else
    match argument.toList with
    | ['-', '-'] => .ok { arguments with plain := true }
    | '-' :: '-' :: chars => arguments.takeLong chars
    | '-' :: letter :: letters => arguments.takeLetters (letter :: letters)
    | _ =>
        match arguments.waiting with
        | some setting =>
            match arguments.give setting argument with
            | .ok arguments => .ok { arguments with waiting := none }
            | .error error => .ok { arguments with waiting := none, failed := some error }
        | none => arguments.takeWord argument rest

def finish (arguments : Arguments) : Except UsageError Invocation :=
  match arguments.pendingError? with
  | some error => .error error
  | none =>
      match arguments.place with
      | .program => .error .missingCommand
      | .samples => .error .missingCommand
      | .build => .ok (.run arguments.settings (.build arguments.flags))
      | .listSamples => .ok (.run arguments.settings .listSamples)
      | .showSample =>
          match arguments.name with
          | some name => .ok (.run arguments.settings (.showSample name))
          | none => .error .missingName

/-- What the rest of the arguments asks for. The error of a value at an outer
place is kept in `outer` until the arguments end. -/
def readFrom (arguments : Arguments) (outer : Option UsageError) :
    List String → Except UsageError Invocation
  | [] =>
      match arguments.finish, outer with
      | .ok _, some error => .error error
      | result, _ => result
  | argument :: rest =>
      match arguments.take argument rest with
      | .ok next =>
          readFrom next (if next.place = arguments.place then outer else outer.or arguments.failed)
            rest
      | .error (.wrong error) => .error error
      | .error (.found invocation) => .ok invocation

def read (arguments : List String) : Except UsageError Invocation :=
  readFrom {} none arguments

end Arguments

def UsageError.message : UsageError → String
  | unknownArgument argument => "unexpected argument '" ++ argument ++ "'"
  | unexpectedValue option => "option '--" ++ option ++ "' takes no value"
  | missingValue option => "option '--" ++ option ++ "' needs a value"
  | repeated option => "option '--" ++ option ++ "' cannot be used multiple times"
  | invalidValue option value => "invalid value '" ++ value ++ "' for '--" ++ option ++ "'"
  | missingCommand => "a command is needed"
  | missingName => "the name of a demo is needed"

end Yql.Command
