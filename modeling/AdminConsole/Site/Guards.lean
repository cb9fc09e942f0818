import AdminConsole.Route.Guard
import AdminConsole.Text.Cut

/-!
# The console's guards

All pages but the login and logout pages require a signed-in user. Some pages name what they show in
their title or breadcrumbs, some embed another document or open it, and some cannot be shown without
certain parameters or before the server has reported its release.
-/

set_option autoImplicit false

namespace AdminConsole.Site

/-- The session's key of the release that the server reported. -/
def releaseKey : String := "IAF-Release"

/-- The extra that holds the address of an embedded document. -/
def embeddedUrl : String := "url"

/-- The extra that holds the address of a document opened outside. -/
def openedUrl : String := "redirectURL"

/-- The value of a parameter, or the empty text. -/
def paramText (context : GuardContext) (name : String) : String :=
  (context.params.get? name).getD ""

/-- A destination that is a route without parameters. -/
def toRoute (name : String) : Destination :=
  .route name Dictionary.empty

/-- Sends users who are not signed in to the login page. -/
def requireLogin : Guard := fun context services =>
  if services.signedIn then Guard.proceed context.metadata services
  else Guard.redirectTo (toRoute "login") context.metadata services

/-- The breadcrumbs of the messages in a storage: the pipe it belongs to, if it belongs to one, and the
state of the messages. -/
def storageTrail (context : GuardContext) : String :=
  let pipes :=
    if context.params.get? "storageSource" = some "pipes" then
      "Pipes > " ++ paramText context "storageSourceName" ++ " > "
    else ""
  "Adapter > " ++ pipes ++ paramText context "processState" ++ " List"

/-- Titles a storage page after the state of the messages it lists. -/
def storageTitle : Guard := fun context services =>
  Guard.proceed
    { context.metadata with
      title := some (paramText context "processState" ++ " List")
      breadcrumbs := some (storageTrail context) }
    services

/-- Adds the message that is shown to the breadcrumbs of its storage. -/
def storageMessageTrail : Guard := fun context services =>
  let trail := storageTrail context ++ " > View Message " ++ paramText context "messageId"
  Guard.proceed { context.metadata with breadcrumbs := some trail } services

/-- Names the configuration in the breadcrumbs. Without a name the overview is shown. -/
def configurationDetails : Guard := fun context services =>
  let name := paramText context "name"
  if name.isEmpty then
    Guard.redirectTo (toRoute "pages.manage_configurations") context.metadata services
  else
    Guard.proceed
      { context.metadata with breadcrumbs := some ("Configurations > Manage > " ++ name) }
      services

/-- Shows the document that the URL parameter names. One with `http` in its address is opened in a window
named after the view, any other is embedded from the server. Without an address the status page is
shown. -/
def customView : Guard := fun context services =>
  let url := paramText context "url"
  if url.isEmpty then
    Guard.redirectTo (toRoute "pages.status") context.metadata services
  else if Text.occursIn "http".toList url.toList then
    Guard.proceed (context.metadata.setExtra openedUrl url)
      (services.openPage url (paramText context "name"))
  else
    Guard.proceed (context.metadata.setExtra embeddedUrl (services.serverPath ++ url)) services

/-- Embeds a document from the server. -/
def embed (page : String) : Guard := fun context services =>
  Guard.proceed (context.metadata.setExtra embeddedUrl (services.serverPath ++ page)) services

/-- Lets the update page be shown once the release is known. -/
def releaseKnown : Guard := fun context services =>
  match services.session.get? releaseKey with
  | some release => Guard.proceed (context.metadata.setExtra "release" release) services
  | none => Guard.redirectTo (.path "/status" Dictionary.empty) context.metadata services

/-- The guards under the names by which other route tables may use them. -/
def guards : List (String × Guard) :=
  [("require_login", requireLogin), ("storage_title", storageTitle),
    ("storage_message_trail", storageMessageTrail), ("configuration_details", configurationDetails),
    ("custom_view", customView), ("release_known", releaseKnown), ("embed:larva", embed "larva")]

end AdminConsole.Site
