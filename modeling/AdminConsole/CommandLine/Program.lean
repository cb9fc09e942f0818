import AdminConsole.CommandLine.Usage
import AdminConsole.Console.Start
import AdminConsole.Logging.Setup
import AdminConsole.Route.Shown
import AdminConsole.Settings.Environment
import AdminConsole.Settings.File

/-!
# The command line program

The program lists the console's routes, resolves a URL to the route that the console would show, and links
to a route. Settings come from a file, if one is named, and from the environment. Each run is a function
of the arguments and of what the program finds around it.
-/

set_option autoImplicit false

namespace AdminConsole.CommandLine

/-- What the program finds around it. -/
structure World where
  environment : Environment
  /-- The log filter of the environment. -/
  logFilter : Option String
  /-- What is found under a path. -/
  file : String → FileContent

/-- What a run leaves behind. -/
structure Outcome where
  exitCode : Nat
  output : String
  errors : String
  deriving DecidableEq, Repr

/-- Why a run fails. -/
inductive RunError where
  | configuration (path : String) (error : SettingsError)
  | settings (error : SettingsError)
  | logging (error : LoggingError)
  | start (error : StartError)
  | router (error : RouterError)
  /-- A parameter is not written as `name=value`. -/
  | badPair (text : String)
  | superseded (url : String)
  deriving DecidableEq, Repr

namespace RunError

/-- The error as it is shown. -/
def message : RunError → String
  | .configuration path error =>
      let text := error.message
      s!"Failed to load settings from {path}: {text}"
  | .settings error => error.message
  | .logging error => error.message
  | .start error => error.message
  | .router error => error.message
  | .badPair text => s!"Expected key=value, got '{text}'"
  | .superseded url => s!"Navigation to {url} was superseded"

end RunError

/-- The settings of a run. -/
def loadSettings (world : World) (options : Options) : Except RunError Settings := do
  let base ← match options.config with
    | some path => (Settings.ofFile path (world.file path)).mapError (.configuration path)
    | none => .ok Settings.standard
  let settings ← (base.applyEnvironment world.environment).mapError .settings
  match options.verbosity with
  | 0 => return settings
  | 1 => return { settings with logging := { settings.logging with level := "debug" } }
  | _ => return { settings with logging := { settings.logging with level := "trace" } }

/-- What the program gives to its console: nothing is fetched really, and the time is kept. -/
def surroundings (signedIn : Bool) (session : Dictionary String) : Surroundings :=
  { services := {
      signedIn, session, serverPath := "",
      diagnostics := Diagnostics.silent Diagnostics.defaultLevel, opened := [], notes := [] }
    plan := FetchPlan.ofRules Dictionary.empty
    hasRuntime := true }

/-- A console for a user who is signed in or not, in this session, on the diagnostics channel of the process. -/
def startConsole (settings : Settings) (signedIn : Bool) (session : Dictionary String) :
    Except RunError Console :=
  let around := surroundings signedIn session
  (Console.startWith settings around ⟨none, around.services.diagnostics⟩).1.mapError .start

/-- The line of a route in the list of routes. -/
def routeLine (t : RouteTable) (d : RouteDefinition) : String :=
  let pattern := ((t.patternOf? d.name).map (·.source)).getD "-"
  let kind := if d.isLayout then "layout" else "page"
  let columns := [padded 40 d.name, padded 6 kind, padded 60 pattern, Text.join "," d.dependencies]
  Text.join " " columns ++ "\n"

/-- Lists the routes. -/
def listRoutes (settings : Settings) : Except RunError String := do
  let console ← startConsole settings true Dictionary.empty
  let table := console.session.navigator.table
  return String.join (table.definitions.map (routeLine table))

/-- Shows the route to which a URL leads. -/
def resolveUrl (settings : Settings) (url : String) (asLocation anonymous : Bool)
    (release : Option String) : Except RunError String := do
  let session := Dictionary.ofList (release.map fun text => (Site.releaseKey, text)).toList
  let console ← startConsole settings (!anonymous) session
  let target : NavigationTarget := if asLocation then .location url else .url url
  match (console.session.go (.navigate target)).1 with
  | some (_, .navigated (.ok (.activated route))) => return route.toJson.indented ++ "\n"
  | some (_, .navigated (.error e)) => throw (.router e)
  | _ => throw (.superseded url)

/-- The name and value of a parameter. -/
def readPair (text : String) : Except RunError (String × String) :=
  match Text.cutFirst '=' text.toList with
  | some (name, value) => .ok (String.ofList name, String.ofList value)
  | none => .error (.badPair text)

/-- Shows the location of a route. -/
def linkTo (settings : Settings) (name : String) (params : List String) : Except RunError String := do
  let pairs ← params.mapM readPair
  let console ← startConsole settings true Dictionary.empty
  let location ← (console.session.navigator.href name (Dictionary.ofList pairs)).mapError .router
  return location ++ "\n"

/-- Runs a command. -/
def runCommand (world : World) (options : Options) (command : Command) : Except RunError String := do
  let settings ← loadSettings world options
  (settings.logging.setUp world.logFilter false).mapError .logging
  match command with
  | .routes => listRoutes settings
  | .resolve url asLocation anonymous release => resolveUrl settings url asLocation anonymous release
  | .href name params => linkTo settings name params

/-- The version of the program. -/
def version : String := "beheer-console 0.1.0-alpha.1\n"

/-- Runs the program. -/
def run (world : World) (arguments : List String) : Outcome :=
  match read arguments with
  | .help topic => ⟨0, helpOn topic, ""⟩
  | .version => ⟨0, version, ""⟩
  | .misuse => ⟨2, "", misuse⟩
  | .run options command =>
      match runCommand world options command with
      | .ok output => ⟨0, output, ""⟩
      | .error e => ⟨1, "", "Error: " ++ e.message ++ "\n"⟩

end AdminConsole.CommandLine
