import AdminConsole.CommandLine.Arguments
import AdminConsole.Text.Cut

/-!
# Help texts

What the program tells about itself and its commands: what it is for, how it is called, and one line for
each command, argument and option, the names in a column as wide as the widest.
-/

set_option autoImplicit false

namespace AdminConsole.CommandLine

/-- A heading with named lines below it. -/
structure HelpSection where
  heading : String
  /-- The names and what they stand for. -/
  lines : List (String × String)

/-- What the help tells about the program or a command. -/
structure HelpText where
  purpose : String
  /-- How it is called. -/
  usage : String
  sections : List HelpSection

/-- A text filled up with blanks to a width. -/
def padded (width : Nat) (text : String) : String :=
  text ++ String.ofList (List.replicate (width - text.length) ' ')

/-- A section as it is shown. -/
def HelpSection.shown (s : HelpSection) : String :=
  let width := (s.lines.map fun line => line.1.length).foldl max 0
  let lines := s.lines.map fun (name, meaning) => "  " ++ padded width name ++ "  " ++ meaning ++ "\n"
  "\n" ++ s.heading ++ ":\n" ++ String.join lines

/-- The help as it is shown. -/
def HelpText.shown (h : HelpText) : String :=
  h.purpose ++ "\n\nUsage: " ++ h.usage ++ "\n" ++ String.join (h.sections.map (·.shown))

/-- What a command is for. -/
def CommandName.purpose : CommandName → String
  | .routes => "List all registered routes"
  | .resolve => "Resolve a URL to the route the console would show"
  | .href => "Generate the location of a named route"
  | .help => "Print this message or the help of the given subcommand(s)"

/-- How the program is called. -/
def programUsage : String := "beheer-console [OPTIONS] <COMMAND>"

/-- The help on the whole program. -/
def programHelp : HelpText :=
  { purpose := "Beheer console route table utility"
    usage := programUsage
    sections := [
      ⟨"Commands", CommandName.all.map fun name => (name.label, name.purpose)⟩,
      ⟨"Options", [
        ("-c, --config <PATH>", "Settings file (TOML or JSON); environment variables apply on top"),
        ("-v, --verbosity...", "Verbosity level (can be repeated)"),
        ("-h, --help", "Print help"),
        ("-V, --version", "Print version")]⟩] }

/-- The help on a command. -/
def CommandName.helpText (name : CommandName) : HelpText :=
  match name with
  | .routes =>
      ⟨name.purpose, "beheer-console routes", [⟨"Options", [("-h, --help", "Print help")]⟩]⟩
  | .resolve =>
      ⟨name.purpose, "beheer-console resolve [OPTIONS] <URL>", [
        ⟨"Arguments", [
          ("<URL>", "Route URL (`/path?query`), or a browser location with --location")]⟩,
        ⟨"Options", [
          ("    --location", "Interpret URL as a browser location in the configured location mode"),
          ("    --anonymous", "Resolve as a user who is not signed in"),
          ("    --release <RELEASE>", "Release reported by the server"),
          ("-h, --help", "Print help")]⟩]⟩
  | .href =>
      ⟨name.purpose, "beheer-console href <NAME> [PARAMS]...", [
        ⟨"Arguments", [
          ("<NAME>", "Route name (e.g., pages.status)"),
          ("[PARAMS]...", "Parameters as key=value pairs")]⟩,
        ⟨"Options", [("-h, --help", "Print help")]⟩]⟩
  | .help =>
      ⟨name.purpose, "beheer-console help [COMMAND]...", [
        ⟨"Arguments", [("[COMMAND]...", "Print help for the subcommand(s)")]⟩]⟩

/-- The help that was asked for, on a command or on the whole program. -/
def helpOn (topic : Option CommandName) : String :=
  match topic with
  | some name => name.helpText.shown
  | none => programHelp.shown

/-- What is said when the arguments cannot be understood. -/
def misuse : String :=
  "Usage: " ++ programUsage ++ "\n\nFor more information, try '--help'.\n"

end AdminConsole.CommandLine
