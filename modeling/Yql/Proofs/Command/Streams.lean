import Yql.Command.Run
import Yql.Proofs.Command.Merge

/-!
# What goes where

Building a query has notes, one outcome, and notes again. The outcome is what
was built, printed once, or an error, and with an error nothing is printed at
all (`buildReport_cases`). Notes go to the standard error whatever they are about
and are silent when the program is to be quiet, so what goes to the standard
output can be told from the outcome alone (`output_is_payload`).
-/

namespace Yql.Command

open Terminal (Accent Screen painted painted_coloured painted_plain)

/-! ## Notes -/

/-- A message about the work that is no error. -/
inductive Message.IsNote : Message → Prop
  | status {accent : Accent} (h : accent ≠ .error) (text : String) : IsNote (.status accent text)

theorem isNote_of_mem_confirmation {settings : Settings} {message : Message}
    (h : message ∈ confirmation settings) : message.IsNote := by
  unfold confirmation at h
  split at h
  · obtain rfl := List.mem_singleton.mp h
    exact .status (by decide) _
  · exact absurd h List.not_mem_nil

section

variable {display : Display}

theorem output_of_isNote {message : Message} (h : message.IsNote) :
    display.output message = "" := by
  cases h with
  | status _ text => rfl

theorem errors_of_isNote (hquiet : display.settings.quiet = true) {message : Message}
    (h : message.IsNote) : display.errors message = "" := by
  cases h with
  | @status accent hne text =>
      have hhidden : display.shows accent = false := by
        unfold Display.shows
        rw [hquiet]
        cases accent with
        | error => exact absurd rfl hne
        | muted => exact Bool.and_false _
        | _ => rfl
      show (if display.shows accent then _ else "") = ""
      rw [hhidden]
      rfl

theorem concatenated_append (texts more : List String) :
    concatenated (texts ++ more) = concatenated texts ++ concatenated more := by
  induction texts with
  | nil => exact String.empty_append.symm
  | cons text rest ih => rw [List.cons_append, concatenated, concatenated, ih, String.append_assoc]

theorem concatenated_eq_empty {texts : List String} (h : ∀ text ∈ texts, text = "") :
    concatenated texts = "" := by
  induction texts with
  | nil => rfl
  | cons text rest ih =>
      obtain ⟨htext, hrest⟩ := List.forall_mem_cons.mp h
      rw [concatenated, htext, ih hrest]
      rfl

variable {notes : List Message} (h : ∀ note ∈ notes, note.IsNote)

include h

theorem output_notes : concatenated (notes.map display.output) = "" := by
  apply concatenated_eq_empty
  intro text htext
  obtain ⟨note, hnote, rfl⟩ := List.mem_map.mp htext
  exact output_of_isNote (h note hnote)

theorem errors_notes (hquiet : display.settings.quiet = true) :
    concatenated (notes.map display.errors) = "" := by
  apply concatenated_eq_empty
  intro text htext
  obtain ⟨note, hnote, rfl⟩ := List.mem_map.mp htext
  exact errors_of_isNote hquiet (h note hnote)

end

/-! ## The outcome of a build -/

/-- What building comes to: a request, or else what is wrong, in words. The
configuration is loaded first, then the options are merged over it, and then the
query has to stand. -/
def BuildFlags.result (flags : BuildFlags) (config : Except Config.LoadError Config.Loaded) :
    Except String Request :=
  match config with
  | .error error => .error error.message
  | .ok loaded =>
      match flags.built loaded.defaults with
      | .error raw => .error (malformedInputMessage raw)
      | .ok (.error rejection) => .error rejection.message
      | .ok (.ok request) => .ok request

def beforeOutcome (flags : BuildFlags) (loaded : Config.Loaded) : List Message :=
  configNote loaded :: (flags.merge loaded.defaults).notJson.map notJsonWarning

theorem isNote_of_mem_beforeOutcome {flags : BuildFlags} {loaded : Config.Loaded}
    {message : Message} (h : message ∈ beforeOutcome flags loaded) : message.IsNote := by
  rcases List.mem_cons.mp h with rfl | h
  · exact .status (by decide) _
  · obtain ⟨key, -, rfl⟩ := List.mem_map.mp h
    exact .status (by decide) _

theorem reportOver_eq (settings : Settings) (screen : Screen) (flags : BuildFlags)
    (loaded : Config.Loaded) :
    reportOver settings screen flags loaded =
      match flags.result (.ok loaded) with
      | .error text => failure (beforeOutcome flags loaded) text
      | .ok request =>
          ⟨beforeOutcome flags loaded ++ .data (settings.present screen request)
            :: confirmation settings, 0⟩ := by
  unfold reportOver BuildFlags.result BuildFlags.built beforeOutcome
  dsimp only
  cases (flags.merge loaded.defaults).query with
  | error raw => rfl
  | ok query =>
      dsimp only [Except.map]
      cases query.request with
      | error rejection => rfl
      | ok request => rfl

/-- The report of a build: notes, then either an error and nothing after it, or
the request and notes after it. -/
theorem buildReport_cases (settings : Settings) (screen : Screen) (flags : BuildFlags)
    (config : Except Config.LoadError Config.Loaded) :
    ∃ notes more : List Message, (∀ note ∈ notes, note.IsNote) ∧ (∀ note ∈ more, note.IsNote)
      ∧ buildReport settings screen flags config =
        match flags.result config with
        | .error text => failure notes text
        | .ok request => ⟨notes ++ .data (settings.present screen request) :: more, 0⟩ := by
  cases config with
  | error error => exact ⟨[], [], nofun, nofun, rfl⟩
  | ok loaded =>
      refine ⟨beforeOutcome flags loaded, confirmation settings, ?_, ?_, ?_⟩
      · intro message h
        exact isNote_of_mem_beforeOutcome h
      · intro message h
        exact isNote_of_mem_confirmation h
      · exact reportOver_eq settings screen flags loaded

/-! ## The streams -/

def errorLine (coloured : Bool) (text : String) : String :=
  painted Accent.error.icon .error false coloured ++ " " ++ painted text .error false coloured
    ++ "\n"

theorem errorLine_plain (text : String) : errorLine false text = "✗ " ++ text ++ "\n" := by
  rw [errorLine, painted_plain, painted_plain]
  rfl

theorem errorLine_coloured {text : String} (h : '\x1b' ∉ text.toList) :
    errorLine true text = "\x1b[31m✗\x1b[0m \x1b[31m" ++ text ++ "\x1b[0m\n" := by
  have hicon : '\x1b' ∉ Accent.error.icon.toList := by decide
  have hopening : Accent.opening .error false = "\x1b[31m" := rfl
  have hmark : "\x1b[31m" ++ Accent.error.icon ++ Terminal.closing ++ " " ++ "\x1b[31m"
      = "\x1b[31m✗\x1b[0m \x1b[31m" := rfl
  have hend : Terminal.closing ++ "\n" = "\x1b[0m\n" := rfl
  rw [errorLine, painted_coloured hicon, painted_coloured h, hopening, ← hmark, ← hend]
  simp only [String.append_assoc]

section

variable {display : Display} {notes more : List Message} (hnotes : ∀ note ∈ notes, note.IsNote)

include hnotes

theorem outcome_failure (text : String) :
    (failure notes text).outcome display
      = ⟨"", concatenated (notes.map display.errors) ++ errorLine display.coloured text, 1⟩ := by
  unfold failure Report.outcome
  rw [List.map_append, List.map_append, concatenated_append, concatenated_append,
    output_notes hnotes]
  simp only [List.map_cons, List.map_nil, concatenated, String.append_empty]
  rfl

theorem outcome_data (hmore : ∀ note ∈ more, note.IsNote) (text : String) :
    (Report.mk (notes ++ .data text :: more) 0).outcome display
      = ⟨if display.settings.quiet then "" else text ++ "\n",
          concatenated (notes.map display.errors) ++ concatenated (more.map display.errors),
          0⟩ := by
  unfold Report.outcome
  rw [List.map_append, List.map_append, concatenated_append, concatenated_append,
    output_notes hnotes, List.map_cons, List.map_cons, concatenated, concatenated,
    output_notes hmore, String.empty_append, String.append_empty]
  congr 2

end

/-- The outcomes are the same but for what is said about the work. -/
structure SamePayload (a b : Outcome) : Prop where
  output : a.output = b.output
  code : a.code = b.code

def buildOutcome (settings : Settings) (flags : BuildFlags)
    (config : Except Config.LoadError Config.Loaded) (screen : Screen) (coloured : Bool) :
    Outcome :=
  (buildReport settings screen flags config).outcome ⟨settings, coloured⟩

section

variable (settings : Settings) {flags : BuildFlags}
  {config : Except Config.LoadError Config.Loaded} (screen : Screen) (coloured : Bool)

theorem buildOutcome_of_error {text : String} (h : flags.result config = .error text) :
    ∃ notes, buildOutcome settings flags config screen coloured
        = ⟨"", notes ++ errorLine coloured text, 1⟩
      ∧ (settings.quiet = true → notes = "") := by
  obtain ⟨notes, more, hnotes, -, hreport⟩ := buildReport_cases settings screen flags config
  rw [h] at hreport
  refine ⟨concatenated (notes.map (Display.errors ⟨settings, coloured⟩)), ?_, ?_⟩
  · rw [buildOutcome, hreport]
    exact outcome_failure hnotes text
  · intro hquiet
    exact errors_notes hnotes hquiet

theorem buildOutcome_of_ok {request : Request} (h : flags.result config = .ok request) :
    ∃ notes, buildOutcome settings flags config screen coloured
        = ⟨if settings.quiet then "" else settings.present screen request ++ "\n", notes, 0⟩
      ∧ (settings.quiet = true → notes = "") := by
  obtain ⟨notes, more, hnotes, hmore, hreport⟩ := buildReport_cases settings screen flags config
  rw [h] at hreport
  refine ⟨concatenated (notes.map (Display.errors ⟨settings, coloured⟩))
    ++ concatenated (more.map (Display.errors ⟨settings, coloured⟩)), ?_, ?_⟩
  · rw [buildOutcome, hreport]
    exact outcome_data hnotes hmore _
  · intro hquiet
    rw [errors_notes hnotes hquiet, errors_notes hmore hquiet]
    rfl

/-- The payload of a build comes of its result, of whether the program is to be
quiet, and of how a request is presented. -/
theorem samePayload_buildOutcome (others : Settings) (coloured' : Bool)
    (hquiet : others.quiet = settings.quiet)
    (hpresent : ∀ request, others.present screen request = settings.present screen request) :
    SamePayload (buildOutcome others flags config screen coloured')
      (buildOutcome settings flags config screen coloured) := by
  cases h : flags.result config with
  | error text =>
      obtain ⟨notes, houtcome, -⟩ := buildOutcome_of_error settings screen coloured h
      obtain ⟨notes', houtcome', -⟩ := buildOutcome_of_error others screen coloured' h
      rw [houtcome, houtcome']
      exact ⟨rfl, rfl⟩
  | ok request =>
      obtain ⟨notes, houtcome, -⟩ := buildOutcome_of_ok settings screen coloured h
      obtain ⟨notes', houtcome', -⟩ := buildOutcome_of_ok others screen coloured' h
      rw [houtcome, houtcome', hquiet, hpresent]
      exact ⟨rfl, rfl⟩

end

theorem present_withoutColour {settings : Settings} (h : settings.layout ≠ .table)
    (noColour : Bool) (screen : Screen) (request : Request) :
    ({ settings with noColour := noColour } : Settings).present screen request
      = settings.present screen request := by
  unfold Settings.present
  cases hlayout : settings.layout with
  | table => exact absurd hlayout h
  | json => rfl
  | compact => rfl

/-- **The standard output carries the payload and nothing else.** When the
configuration cannot be loaded, an input is malformed or the query is refused,
nothing is printed, the exit code is one, and the error is told on the standard
error, in the end and even when the program is to be quiet. Otherwise the exit
code is zero and what is printed is the request in the form that was asked for
and the end of its line, or nothing when the program is to be quiet. A quiet
program says nothing else. So asking for notes changes neither what is printed
nor the exit code, and neither does refusing colour unless a table is printed. -/
theorem output_is_payload (settings : Settings) (flags : BuildFlags) :
    (∀ config screen coloured,
      (∀ text, flags.result config = .error text →
        ∃ notes, buildOutcome settings flags config screen coloured
            = ⟨"", notes ++ errorLine coloured text, 1⟩
          ∧ (settings.quiet = true → notes = ""))
      ∧ ∀ request, flags.result config = .ok request →
        ∃ notes, buildOutcome settings flags config screen coloured
            = ⟨if settings.quiet then "" else
                (match settings.layout with
                  | .json => request.pretty
                  | .compact => request.yql
                  | .table => request.table.text screen settings.frame) ++ "\n", notes, 0⟩
          ∧ (settings.quiet = true → notes = ""))
      ∧ ∀ surroundings,
        (Task.build flags).outcome settings surroundings
            = buildOutcome settings flags
              (Config.resolve surroundings.files surroundings.directory settings.config
                surroundings.namedConfig)
              surroundings.screen (surroundings.wantsColour && !settings.noColour)
          ∧ (∀ verbose,
            SamePayload
              ((Task.build flags).outcome { settings with verbose := verbose } surroundings)
              ((Task.build flags).outcome settings surroundings))
          ∧ (settings.layout ≠ .table → ∀ noColour,
            SamePayload
              ((Task.build flags).outcome { settings with noColour := noColour } surroundings)
              ((Task.build flags).outcome settings surroundings)) := by
  constructor
  · intro config screen coloured
    constructor
    · intro text h
      exact buildOutcome_of_error settings screen coloured h
    · intro request h
      obtain ⟨notes, houtcome, hquiet⟩ := buildOutcome_of_ok settings screen coloured h
      refine ⟨notes, ?_, hquiet⟩
      rw [houtcome]
      unfold Settings.present
      cases settings.layout <;> rfl
  · intro surroundings
    refine ⟨rfl, ?_, ?_⟩
    · intro verbose
      apply samePayload_buildOutcome
      · rfl
      · intro request
        rfl
    · intro hlayout noColour
      apply samePayload_buildOutcome
      · rfl
      · intro request
        exact present_withoutColour hlayout noColour surroundings.screen request

def careless : BuildFlags where
  sources := ["docs"]
  inputs := ["input.query(a)=plain"]

/-- Options with an input that is no JSON and one that is no input. -/
def mistaken : BuildFlags where
  sources := ["docs"]
  inputs := ["input.query(a)=plain", "b"]

/-- A directory without files, and an environment without variables. -/
def nowhere : Surroundings where
  valueOf? _ := none
  files :=
    { isFile _ := false
      read _ := .error "No such file or directory (os error 2)"
      complaint _ := "TOML parse error" }
  directory := .ok (.sub .root "home")
  isTerminal := false
  width := String.length
  styled _ text := text

theorem result_mistaken :
    mistaken.result (.ok {}) = .error "input 'b' must have the form key=<json>" := by
  have hmessage : malformedInputMessage "b" = "input 'b' must have the form key=<json>" := by
    decide +kernel
  rw [← hmessage]
  rfl

theorem result_careless : ∃ request, careless.result (.ok {}) = .ok request
    ∧ request.yql = "select * from sources docs where true" := by
  have hyql : (careless.result (.ok {})).toOption.map Request.yql
      = some "select * from sources docs where true" := by decide +kernel
  cases hresult : careless.result (.ok {}) with
  | error text =>
      rw [hresult] at hyql
      exact nomatch hyql
  | ok request =>
      rw [hresult] at hyql
      exact ⟨request, rfl, Option.some.inj hyql⟩

theorem output_is_payload_careless :
    (∃ notes, buildOutcome { verbose := true } mistaken (.ok {}) nowhere.screen false
        = ⟨"", notes ++ errorLine false "input 'b' must have the form key=<json>", 1⟩)
      ∧ buildOutcome { quiet := true } mistaken (.ok {}) nowhere.screen false
        = ⟨"", "✗ input 'b' must have the form key=<json>\n", 1⟩
      ∧ (∃ notes, buildOutcome { layout := .compact, verbose := true } careless (.ok {})
          nowhere.screen true
        = ⟨"select * from sources docs where true" ++ "\n", notes, 0⟩)
      ∧ buildOutcome { quiet := true } careless (.ok {}) nowhere.screen true = ⟨"", "", 0⟩
      ∧ SamePayload ((Task.build careless).outcome { layout := .json, noColour := true } nowhere)
        ((Task.build careless).outcome { layout := .json } nowhere) := by
  obtain ⟨request, hresult, hyql⟩ := result_careless
  obtain ⟨hloud, -⟩ := output_is_payload { verbose := true } mistaken
  obtain ⟨hhushed, -⟩ := output_is_payload { quiet := true } mistaken
  obtain ⟨hcompact, -⟩ := output_is_payload { layout := .compact, verbose := true } careless
  obtain ⟨hquiet, -⟩ := output_is_payload { quiet := true } careless
  obtain ⟨-, hjson⟩ := output_is_payload { layout := .json } careless
  refine ⟨?_, ?_, ?_, ?_, ?_⟩
  · obtain ⟨notes, houtcome, -⟩ := (hloud (.ok {}) nowhere.screen false).1 _ result_mistaken
    exact ⟨notes, houtcome⟩
  · obtain ⟨notes, houtcome, hnotes⟩ := (hhushed (.ok {}) nowhere.screen false).1 _ result_mistaken
    rw [houtcome, hnotes rfl, String.empty_append, errorLine_plain]
    rfl
  · obtain ⟨notes, houtcome, -⟩ := (hcompact (.ok {}) nowhere.screen true).2 request hresult
    rw [hyql] at houtcome
    exact ⟨notes, houtcome⟩
  · obtain ⟨notes, houtcome, hnotes⟩ := (hquiet (.ok {}) nowhere.screen true).2 request hresult
    rw [hnotes rfl] at houtcome
    exact houtcome
  · exact (hjson nowhere).2.2 (by decide) true

end Yql.Command
