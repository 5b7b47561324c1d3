import Yql.Command.Build
import Yql.Command.Help
import Yql.Command.Report
import Yql.Command.Surroundings
import Yql.Sample
import Yql.Request.Rows

/-!
# Running the program

A run reads the arguments, loads the configuration if a query is to be built,
and leaves its outputs and an exit code. Arguments that ask for nothing are a
usage error. Everything that can fail does so before any data is printed.

The log that the program writes when the environment asks for one (`RUST_LOG`)
is left out, and so are the words in which the options are explained and usage
errors are told.
-/

namespace Yql.Command

open Terminal (Frame Screen Table)

def Settings.frame (settings : Settings) : Frame :=
  if settings.noColour then .plain else .boxed

/-- A request in the form that the settings ask for. -/
def Settings.present (settings : Settings) (screen : Screen) (request : Request) : String :=
  match settings.layout with
  | .json => request.pretty
  | .table => request.table.text screen settings.frame
  | .compact => request.yql

def failure (messages : List Message) (text : String) : Report :=
  ⟨messages ++ [.status .error text], 1⟩

/-- The error is told last. -/
theorem getLast?_failure (messages : List Message) (text : String) :
    (failure messages text).messages.getLast? = some (.status .error text)
      ∧ (failure messages text).code = 1 :=
  ⟨List.getLast?_concat, rfl⟩

/-! ## Building a query -/

def configNote (loaded : Config.Loaded) : Message :=
  .status .muted
    (match loaded.path with
      | some path => "Using config " ++ path
      | none => "No " ++ Config.fileName ++ " found, using built-in defaults")

def notJsonWarning (key : String) : Message :=
  .status .warning ("Value for '" ++ key ++ "' is not valid JSON, sending it as a string")

/-- What follows the data of a query that was built. -/
def confirmation (settings : Settings) : List Message :=
  if settings.layout = .table then [.status .success "Query is valid"] else []

def reportOver (settings : Settings) (screen : Screen) (flags : BuildFlags)
    (loaded : Config.Loaded) : Report :=
  let merged := flags.merge loaded.defaults
  let before := configNote loaded :: merged.notJson.map notJsonWarning
  match merged.query with
  | .error raw => failure before (malformedInputMessage raw)
  | .ok query =>
      match query.request with
      | .error rejection => failure before rejection.message
      | .ok request =>
          ⟨before ++ .data (settings.present screen request) :: confirmation settings, 0⟩

def buildReport (settings : Settings) (screen : Screen) (flags : BuildFlags)
    (config : Except Config.LoadError Config.Loaded) : Report :=
  match config with
  | .error error => failure [] error.message
  | .ok loaded => reportOver settings screen flags loaded

/-! ## Sample queries -/

def sampleJson (sample : Sample) : Json :=
  .ofMembers [("name", .string sample.name), ("group", .string sample.group),
    ("description", .string sample.description)]

def sampleTable : Table where
  header := ["Name", "Group", "Description"]
  rows := Sample.all.map fun sample => [sample.name, sample.group, sample.description]

def listReport (settings : Settings) (screen : Screen) : Report :=
  match settings.layout with
  | .table =>
      ⟨[.heading "Demo Queries", .data (sampleTable.text screen settings.frame),
        .status .info "Run 'vespa-yql demo show <name>' to render one."], 0⟩
  | .json => ⟨[.data (Json.array (Sample.all.map sampleJson)).pretty], 0⟩
  | .compact => ⟨Sample.all.map fun sample => .data sample.name, 0⟩

def showReport (settings : Settings) (screen : Screen) (name : String) : Report :=
  match Sample.find? name with
  | none =>
      failure (.status .info "Available demos:" :: Sample.all.map fun sample => .bullet sample.name)
        ("unknown demo '" ++ name ++ "'")
  | some sample =>
      match sample.query.request with
      | .error rejection => failure [] rejection.message
      | .ok request => ⟨[.heading sample.description, .data (settings.present screen request)], 0⟩

/-! ## Runs -/

def Task.report (task : Task) (settings : Settings) (surroundings : Surroundings) : Report :=
  match task with
  | .build flags =>
      buildReport settings surroundings.screen flags
        (Config.resolve surroundings.files surroundings.directory settings.config
          surroundings.namedConfig)
  | .listSamples => listReport settings surroundings.screen
  | .showSample name => showReport settings surroundings.screen name

def Task.outcome (task : Task) (settings : Settings) (surroundings : Surroundings) : Outcome :=
  (task.report settings surroundings).outcome
    ⟨settings, surroundings.wantsColour && !settings.noColour⟩

def Invocation.outcome (invocation : Invocation) (surroundings : Surroundings) : Outcome :=
  match invocation with
  | .run settings task => task.outcome settings surroundings
  | .help place extent =>
      ⟨helpText place extent (surroundings.wantsColour && surroundings.keepsColour), "", 0⟩
  | .version => ⟨versionText, "", 0⟩

/-- The outcome of a run with those arguments, or what is wrong with them. -/
def run (arguments : List String) (surroundings : Surroundings) :
    Except UsageError Outcome :=
  (Arguments.read arguments).map (·.outcome surroundings)

end Yql.Command
