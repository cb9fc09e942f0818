import AdminConsole.Route.Guard

/-!
# Scripted guards

A guard can be written as a list of actions, each with an optional condition. The actions run in order,
and a redirect ends the guard.
-/

set_option autoImplicit false

namespace AdminConsole

/-- A condition on what a guard sees. A value that is asked for as missing has to be absent. -/
inductive GuardCondition where
  | param (name : String) (value : Option String)
  | title (value : Option String)
  | session (key : String) (value : Option String)
  | signedIn (value : Bool)
  deriving DecidableEq, Repr

/-- An action of a guard. -/
inductive GuardAction where
  | note (label : String)
  | setTitle (value : Option String)
  | setTitleToParam (name : String)
  | setBreadcrumbs (value : Option String)
  | setIframe (value : Bool)
  | setExtra (key value : String)
  | noteExtra (key : String)
  | openPage (url target : String)
  | warn (message detail : String)
  | redirect (destination : Destination)
  deriving DecidableEq, Repr

/-- An action that is skipped where its condition does not hold. -/
structure GuardStep where
  condition : Option GuardCondition
  action : GuardAction
  deriving DecidableEq, Repr

namespace GuardCondition

/-- Whether the condition holds. -/
def holds (c : GuardCondition) (context : GuardContext) (services : GuardServices) : Bool :=
  match c with
  | .param name value => context.params.get? name == value
  | .title value => context.metadata.title == value
  | .session key value => services.session.get? key == value
  | .signedIn value => services.signedIn == value

end GuardCondition

namespace GuardAction

/-- Runs one action. -/
def run (action : GuardAction) (context : GuardContext) (services : GuardServices) : GuardResult :=
  let metadata := context.metadata
  match action with
  | .note label =>
      Guard.proceed metadata (services.note (.visit label context.routeName context.params))
  | .setTitle value => Guard.proceed { metadata with title := value } services
  | .setTitleToParam name =>
      Guard.proceed { metadata with title := some ((context.params.get? name).getD "") } services
  | .setBreadcrumbs value => Guard.proceed { metadata with breadcrumbs := value } services
  | .setIframe value => Guard.proceed { metadata with iframe := value } services
  | .setExtra key value => Guard.proceed (metadata.setExtra key value) services
  | .noteExtra key => Guard.proceed metadata (services.note (.extra (metadata.extra? key)))
  | .openPage url target => Guard.proceed metadata (services.openPage url target)
  | .warn message detail => Guard.proceed metadata (services.report .warn message detail)
  | .redirect destination => Guard.redirectTo destination metadata services

end GuardAction

namespace Guard

/-- The guard that runs these steps. -/
def ofSteps : List GuardStep → Guard
  | [], context, services => proceed context.metadata services
  | step :: more, context, services =>
      if step.condition.all fun condition => condition.holds context services then
        let result := step.action.run context services
        match result.redirect with
        | some _ => result
        | none => ofSteps more { context with metadata := result.metadata } result.services
      else ofSteps more context services

end Guard

end AdminConsole
