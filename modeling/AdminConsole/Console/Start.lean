import AdminConsole.Cookie
import AdminConsole.Diagnostics.Injection
import AdminConsole.Session.Clock
import AdminConsole.Settings.Basic
import AdminConsole.Site.Routes

/-!
# Starting the console

The console is put together from its settings: checked first, then diagnostics, cookies, routes and bundles,
and last the watchdog, which needs somebody who keeps the time. On the developer's own machine
diagnostics are at their highest level.
-/

set_option autoImplicit false

namespace AdminConsole

/-- Why the console did not start. -/
inductive StartError where
  | settings (error : SettingsError)
  | router (error : RouterError)
  | badOrigin (origin : String) (reason : OriginError)
  /-- A watchdog is wanted and nobody keeps the time. -/
  | noRuntime
  deriving DecidableEq, Repr

/-- What the console is given to work with. -/
structure Surroundings where
  /-- What guards work with; the base path of the server comes from the settings. -/
  services : GuardServices
  plan : FetchPlan
  /-- Whether somebody keeps the time. -/
  hasRuntime : Bool

/-- A console that was started. -/
structure Console where
  settings : Settings
  cookies : CookieDefaults
  session : Session

/-- How a start ended, with the diagnostics channel as it was left. -/
structure StartResult where
  console : Except StartError Console
  diagnostics : Diagnostics

/-- The diagnostics channels at a start: one may be given to the console, and the process has one of its own. -/
structure Channels where
  given : Option Diagnostics
  shared : Diagnostics
  deriving DecidableEq, Repr

namespace Channels

/-- The channel that the console uses: the given one, or else that of the process. -/
def used (c : Channels) : Diagnostics := c.given.getD c.shared

/-- The channels with another state of the one that is used. -/
def withUsed (c : Channels) (diagnostics : Diagnostics) : Channels :=
  match c.given with
  | some _ => { c with given := some diagnostics }
  | none => { c with shared := diagnostics }

end Channels

namespace StartError

/-- The error as it is shown. -/
def message : StartError → String
  | .settings error => error.message
  | .router error => error.message
  | .badOrigin origin reason =>
      let text := reason.message
      s!"Invalid console origin '{origin}': {text}"
  | .noRuntime => "The idle watchdog needs a running tokio runtime"

end StartError

namespace Console

/-- The watchdog of the settings, if they want one. -/
def watchdog (settings : Settings) (hasRuntime : Bool) : Except StartError (Option Watchdog) :=
  match settings.idleConfig with
  | none => .ok none
  | some config => if hasRuntime then .ok (some (Watchdog.start config 0)) else .error .noRuntime

/-- Puts a console together from settings that were checked. -/
def assemble (settings : Settings) (around : Surroundings) (diagnostics : Diagnostics) :
    Except StartError Console := do
  let cookies ← (CookieDefaults.ofOrigin? settings.origin).mapError
    (.badOrigin (settings.origin.getD ""))
  let table ← Site.table.mapError .router
  let loader := Loader.start Site.bundles settings.debug around.plan
  let services := { around.services with diagnostics, serverPath := settings.serverPath }
  let navigator := Navigator.start table settings.locationMode services
  let watchdog ← watchdog settings around.hasRuntime
  return { settings, cookies, session := Session.start navigator loader watchdog }

/-- Starts the console. -/
def start (settings : Settings) (around : Surroundings) : StartResult :=
  let diagnostics := around.services.diagnostics
  match settings.validate with
  | .error e => ⟨.error (.settings e), diagnostics⟩
  | .ok () =>
      let raised :=
        if settings.isLocalhost then diagnostics.setLevel Diagnostics.maxLevel else diagnostics
      ⟨assemble settings around raised, raised⟩

/-- Starts the console on one of the channels, and gives back the channels as they were left. -/
def startWith (settings : Settings) (around : Surroundings) (channels : Channels) :
    Except StartError Console × Channels :=
  let services := { around.services with diagnostics := channels.used }
  let result := start settings { around with services }
  (result.console, channels.withUsed result.diagnostics)

/-- The diagnostics channel. -/
def diagnostics (c : Console) : Diagnostics :=
  c.session.navigator.services.diagnostics

/-- The console with another diagnostics channel. -/
def withDiagnostics (c : Console) (diagnostics : Diagnostics) : Console :=
  let navigator := c.session.navigator
  let services := { navigator.services with diagnostics }
  { c with session := { c.session with navigator := { navigator with services } } }

/-- The console at another level of diagnostics. -/
def setLevel (c : Console) (level : Nat) : Console :=
  c.withDiagnostics (c.diagnostics.setLevel level)

/-- Where the user's session stands, if a watchdog looks after it. -/
def idleState? (c : Console) : Option IdleState :=
  c.session.watchdog.map (·.published)

/-- The console after an interaction of the user. -/
def interact (c : Console) : Console :=
  { c with session := c.session.interact }

/-- Runs injected code on a state, with the console's diagnostics. -/
def inject {σ : Type} (c : Console) (name : String) (synchronize : σ → σ)
    (code : List (InjectedAction σ)) (state : σ) : Injection σ × Console :=
  let result := Injection.run c.diagnostics name synchronize code state
  (result, c.withDiagnostics result.diagnostics)

end Console

end AdminConsole
