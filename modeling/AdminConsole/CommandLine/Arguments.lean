import AdminConsole.Text.Cut

/-!
# Arguments of the command line

Options of the whole program come before the command, those of a command after it. Arguments are looked at
from left to right, and the first that asks for help or cannot be understood decides. After `--` everything
is taken as it is.
-/

set_option autoImplicit false

namespace AdminConsole.CommandLine

/-- What the program is asked to do. -/
inductive Command where
  | routes
  | resolve (url : String) (asLocation anonymous : Bool) (release : Option String)
  | href (name : String) (params : List String)
  deriving DecidableEq, Repr

/-- The names of the commands. -/
inductive CommandName where
  | routes
  | resolve
  | href
  | help
  deriving DecidableEq, Repr

namespace CommandName

/-- All names, in the order in which help lists them. -/
def all : List CommandName := [.routes, .resolve, .href, .help]

/-- The name as it is written. -/
def label : CommandName → String
  | .routes => "routes"
  | .resolve => "resolve"
  | .href => "href"
  | .help => "help"

/-- The name that a text writes. -/
def ofText? (text : String) : Option CommandName :=
  all.find? fun name => name.label == text

end CommandName

/-- The options of the whole program. -/
structure Options where
  config : Option String
  verbosity : Nat
  deriving DecidableEq, Repr

/-- What a list of arguments comes to. -/
inductive Request where
  | run (options : Options) (command : Command)
  /-- Help on a command, or on the whole program. -/
  | help (topic : Option CommandName)
  | version
  | misuse
  deriving DecidableEq, Repr

/-- Whether an argument is an option rather than a value. -/
def isOption (argument : String) : Bool :=
  match argument.toList with
  | ['-'] => false
  | '-' :: _ => true
  | _ => false

/-- The value after the equals sign of a long option with this name. -/
def valueOf? (name argument : String) : Option String :=
  (Text.after? (name.toList ++ ['=']) argument.toList).map String.ofList

/-! ## Commands -/

/-- Whether an argument asks for help on its command. -/
def asksForHelp (argument : String) : Bool :=
  argument = "--help" || argument.startsWith "-h"

/-- The command that lists the routes takes no arguments. -/
def readRoutes : List String → Except Request Command
  | [] => .ok .routes
  | ["--"] => .ok .routes
  | argument :: _ => .error (if asksForHelp argument then .help (some .routes) else .misuse)

/-- What was read of the command that resolves a URL. -/
structure ResolveArguments where
  url : Option String
  asLocation : Bool
  anonymous : Bool
  release : Option String
  /-- Whether everything is taken as it is from here on. -/
  literally : Bool

/-- Takes the URL, which can be given once. -/
def ResolveArguments.take (a : ResolveArguments) (url : String) : Except Request ResolveArguments :=
  if a.url.isSome then .error .misuse else .ok { a with url := some url }

/-- Takes the release, which can be given once. -/
def ResolveArguments.takeRelease (a : ResolveArguments) (release : String) :
    Except Request ResolveArguments :=
  if a.release.isSome then .error .misuse else .ok { a with release := some release }

/-- Takes an option without a value. -/
def ResolveArguments.takeOption (a : ResolveArguments) (argument : String) :
    Except Request ResolveArguments :=
  if argument = "--" then .ok { a with literally := true }
  else if argument = "--location" then
    if a.asLocation then .error .misuse else .ok { a with asLocation := true }
  else if argument = "--anonymous" then
    if a.anonymous then .error .misuse else .ok { a with anonymous := true }
  else if asksForHelp argument then .error (.help (some .resolve))
  else
    match valueOf? "--release" argument with
    | some release => a.takeRelease release
    | none => .error .misuse

/-- Reads the arguments of the command that resolves a URL. -/
def readResolveFrom (a : ResolveArguments) : List String → Except Request ResolveArguments
  | [] => .ok a
  | [argument] =>
      if a.literally || !isOption argument then a.take argument
      else if argument = "--release" then .error .misuse
      else a.takeOption argument
  | argument :: next :: rest =>
      if a.literally || !isOption argument then do
        let a ← a.take argument
        readResolveFrom a (next :: rest)
      else if argument = "--release" then
        if isOption next then .error .misuse
        else do
          let a ← a.takeRelease next
          readResolveFrom a rest
      else do
        let a ← a.takeOption argument
        readResolveFrom a (next :: rest)

/-- The command that resolves a URL. -/
def readResolve (arguments : List String) : Except Request Command := do
  let a ← readResolveFrom ⟨none, false, false, none, false⟩ arguments
  match a.url with
  | some url => return .resolve url a.asLocation a.anonymous a.release
  | none => throw .misuse

/-- The values among the arguments of the command that links to a route. -/
def readValues (literally : Bool) : List String → Except Request (List String)
  | [] => .ok []
  | argument :: rest =>
      if literally || !isOption argument then (readValues literally rest).map (argument :: ·)
      else if argument = "--" then readValues true rest
      else if asksForHelp argument then .error (.help (some .href))
      else .error .misuse

/-- The command that links to a route. -/
def readHref (arguments : List String) : Except Request Command := do
  match ← readValues false arguments with
  | name :: params => return .href name params
  | [] => throw .misuse

/-- The command that asks for help takes the name of one command at most, and nothing else. -/
def readHelp : List String → Request
  | [] => .help none
  | [name] => ((CommandName.ofText? name).map fun topic => .help (some topic)).getD .misuse
  | _ => .misuse

/-- A command by its name, with its arguments. -/
def readCommand (name : String) (arguments : List String) : Except Request Command :=
  match CommandName.ofText? name with
  | some .routes => readRoutes arguments
  | some .resolve => readResolve arguments
  | some .href => readHref arguments
  | some .help => .error (readHelp arguments)
  | none => .error .misuse

/-! ## The whole program -/

/-- Takes the path of a settings file, which can be given once and not be empty. -/
def Options.takeConfig (o : Options) (path : String) : Except Request Options :=
  if o.config.isSome || path.isEmpty then .error .misuse else .ok { o with config := some path }

/-- Options of one letter in one argument. The answer tells whether the last of them still waits for a
path. -/
def readLetters (o : Options) : List Char → Except Request (Options × Bool)
  | [] => .ok (o, false)
  | letter :: rest =>
      if letter = 'v' then readLetters { o with verbosity := o.verbosity + 1 } rest
      else if letter = 'h' then .error (.help none)
      else if letter = 'V' then .error .version
      else if letter = 'c' then
        match rest with
        | [] => .ok (o, true)
        | '=' :: path => (o.takeConfig (String.ofList path)).map (·, false)
        | path => (o.takeConfig (String.ofList path)).map (·, false)
      else .error .misuse

/-- Reads one option of the whole program. The answer tells whether it still waits for a path. -/
def readOption (o : Options) (argument : String) : Except Request (Options × Bool) :=
  if argument = "--config" then .ok (o, true)
  else if argument = "--verbosity" then .ok ({ o with verbosity := o.verbosity + 1 }, false)
  else if argument = "--help" then .error (.help none)
  else if argument = "--version" then .error .version
  else
    match valueOf? "--config" argument with
    | some path => (o.takeConfig path).map (·, false)
    | none =>
        if argument.startsWith "--" then .error .misuse else readLetters o (argument.toList.drop 1)

/-- Reads options up to the command, then the command. -/
def readFrom (o : Options) (waits : Bool) : List String → Except Request (Options × Command)
  | [] => .error .misuse
  | argument :: rest =>
      if waits then
        if isOption argument then .error .misuse
        else do
          let o ← o.takeConfig argument
          readFrom o false rest
      else if isOption argument then do
        let (o, waits) ← readOption o argument
        readFrom o waits rest
      else do
        let command ← readCommand argument rest
        return (o, command)

/-- Reads all arguments. -/
def read (arguments : List String) : Request :=
  match readFrom ⟨none, 0⟩ false arguments with
  | .ok (options, command) => .run options command
  | .error request => request

end AdminConsole.CommandLine
