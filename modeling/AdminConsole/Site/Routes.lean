import AdminConsole.Route.Table
import AdminConsole.Site.Bundles
import AdminConsole.Site.Guards

/-!
# The console's routes

The pages below `pages` are shown inside the console's layout and require a signed-in user. The storage
pages are nested once more, below a layout that has the adapter's part of their URL.
-/

set_option autoImplicit false

namespace AdminConsole.Site

/-- Metadata of a page with a title and breadcrumbs. -/
def titled (title breadcrumbs : String) : RouteMetadata :=
  (RouteMetadata.titled title).withBreadcrumbs breadcrumbs

/-- A page of the console's layout. -/
def page (name url view : String) : RouteDefinition :=
  ((RouteDefinition.named ("pages." ++ name)).withUrl url).withView ("views/" ++ view)

/-- A parameter with a default that is left out of URLs. -/
def hidden (text : String) : ParamDescriptor :=
  (ParamDescriptor.value text).squashed

/-- A parameter without a default that is left out of URLs when it is absent. -/
def optional : ParamDescriptor :=
  ParamDescriptor.absent.squashed

/-- The pages outside the layout, and the layout itself. -/
def entryRoutes : List RouteDefinition := [
  (RouteDefinition.named "login").withUrl "/login"
    |>.withView "views/login.html"
    |>.withMetadata (RouteMetadata.titled "Login"),
  (RouteDefinition.named "logout").withUrl "/logout"
    |>.withMetadata (RouteMetadata.titled "Logout"),
  (RouteDefinition.named "pages").asLayout
    |>.withView "views/common/content.html"
    |>.withGuard requireLogin]

/-- The pages about adapters and their message storages. -/
def adapterRoutes : List RouteDefinition := [
  page "status" "/status?configuration&filter&search" "ShowConfigurationStatus.html"
    |>.withMetadata (titled "Adapter Status" "Adapter > Status")
    |>.withParam "configuration" (hidden "All")
    |>.withParam "filter" (hidden "started+stopped+warning")
    |>.withParam "search" (hidden "")
    |>.withParam "adapter" (hidden ""),
  page "adapter" "/adapter" "ShowConfigurationStatus.html",
  page "adapterstatistics" "/adapter/:name/statistics" "adapter_statistics.html"
    |>.withMetadata (titled "Adapter" "Adapter > Statistics")
    |>.withParam "id" (.value "0")
    |>.withDependency charts.name,
  (RouteDefinition.named "pages.storage").asLayout
    |>.withUrl "/adapters/:adapter/:storageSource/:storageSourceName/"
    |>.withParam "adapter" (hidden "")
    |>.withParam "storageSourceName" (hidden "")
    |>.withParam "processState" (hidden "")
    |>.withParam "storageSource" (hidden "")
    |>.withMetadata (titled "" "")
    |>.withGuard storageTitle,
  (RouteDefinition.named "pages.storage.list").withUrl "stores/:processState"
    |>.withView "views/txstorage/adapter_storage_list.html"
    |>.withDependency datatables.name,
  (RouteDefinition.named "pages.storage.view").withUrl "stores/:processState/messages/:messageId"
    |>.withView "views/txstorage/adapter_storage_view.html"
    |>.withParam "messageId" (hidden "")
    |>.withGuard storageMessageTrail,
  page "notifications" "/notifications" "notifications.html"
    |>.withMetadata (titled "Notifications" "Notifications")
    |>.withParam "id" (.value "0")]

/-- The pages about configurations and logging. -/
def configurationRoutes : List RouteDefinition := [
  page "configuration" "/configurations?name&loaded" "ShowConfiguration.html"
    |>.withMetadata (titled "Configurations" "Configurations > Show")
    |>.withParam "name" (hidden "All")
    |>.withParam "loaded" (hidden ""),
  page "upload_configuration" "/configurations/upload" "ManageConfigurationsUpload.html"
    |>.withMetadata (titled "Manage Configurations" "Configurations > Upload"),
  page "manage_configurations" "/configurations/manage" "ManageConfigurations.html"
    |>.withMetadata (titled "Manage Configurations" "Configurations > Manage"),
  page "manage_configuration_details" "/configurations/manage/:name"
      "ManageConfigurationDetails.html"
    |>.withMetadata (titled "Manage Configurations" "Configurations > Manage")
    |>.withParam "name" (.value "")
    |>.withGuard configurationDetails,
  page "logging_show" "/logging?directory&file" "ShowLogging.html"
    |>.withMetadata (titled "Logging" "Logging > Log Files")
    |>.withParam "directory" .absent
    |>.withParam "file" .absent,
  page "logging_manage" "/logging/settings" "ManageLogging.html"
    |>.withMetadata (titled "Logging" "Logging > Log Settings")]

/-- The pages that send and browse messages, test pipelines and schedule jobs. -/
def toolRoutes : List RouteDefinition := [
  page "send_message" "/jms/send-message" "SendJmsMessage.html"
    |>.withMetadata (titled "Send JMS Message" "JMS > Send Message"),
  page "browse_queue" "/jms/browse-queue" "BrowseJmsQueue.html"
    |>.withMetadata (titled "Browse JMS Queue" "JMS > Browse Queue"),
  page "test_pipeline" "/test-pipeline" "TestPipeline.html"
    |>.withMetadata (titled "Test a PipeLine" "Testing > Test a PipeLine"),
  page "test_servicelistener" "/test-serviceListener" "TestServiceListener.html"
    |>.withMetadata (titled "Test a ServiceListener" "Testing > Test a ServiceListener"),
  page "webservices" "/webservices" "Webservices.html"
    |>.withMetadata (titled "Webservices" "Webservices"),
  page "scheduler" "/scheduler" "ShowScheduler.html"
    |>.withMetadata (titled "Scheduler" "Scheduler"),
  page "add_schedule" "/scheduler/new" "AddEditSchedule.html"
    |>.withMetadata (titled "Add Schedule" "Scheduler > Add Schedule"),
  page "edit_schedule" "/scheduler/edit/:group/:name" "AddEditSchedule.html"
    |>.withMetadata (titled "Edit Schedule" "Scheduler > Edit Schedule")
    |>.withParam "name" (.value "")
    |>.withParam "group" (.value ""),
  page "environment_variables" "/environment-variables" "ShowEnvironmentVariables.html"
    |>.withMetadata (titled "Environment Variables" "Environment Variables"),
  page "execute_query" "/jdbc/execute-query" "ExecuteJdbcQuery.html"
    |>.withMetadata (titled "Execute JDBC Query" "JDBC > Execute Query"),
  page "browse_tables" "/jdbc/browse-tables" "BrowseJdbcTable.html"
    |>.withMetadata (titled "Browse JDBC Tables" "JDBC > Browse Tables"),
  page "security_items" "/security-items" "ShowSecurityItems.html"
    |>.withMetadata (titled "Security Items" "Security Items"),
  page "connection_overview" "/connections" "ShowConnectionOverview.html"
    |>.withMetadata (titled "Connection Overview" "Connection Overview")
    |>.withDependency datatables.name,
  page "inlinestore_overview" "/inlinestores/overview" "ShowInlineMessageStoreOverview.html"
    |>.withMetadata (titled "InlineStore Overview" "InlineStore Overview")]

/-- The pages about monitors and the database. -/
def monitorRoutes : List RouteDefinition := [
  page "monitors" "/monitors?configuration" "ShowMonitors.html"
    |>.withMetadata (titled "Monitors" "Monitors")
    |>.withParam "configuration" optional,
  page "monitors_editTrigger" "/monitors/:monitor/triggers/:trigger?configuration"
      "EditMonitorTrigger.html"
    |>.withMetadata (titled "Edit Trigger" "Monitors > Triggers > Edit")
    |>.withParam "configuration" optional
    |>.withParam "monitor" (.value "")
    |>.withParam "trigger" (.value ""),
  page "monitors_addTrigger" "/monitors/:monitor/triggers/new?configuration"
      "EditMonitorTrigger.html"
    |>.withMetadata (titled "Add Trigger" "Monitors > Triggers > Add")
    |>.withParam "configuration" optional
    |>.withParam "monitor" (.value ""),
  page "ibisstore_summary" "/ibisstore-summary" "ShowIbisstoreSummary.html"
    |>.withMetadata (titled "Ibisstore Summary" "JDBC > Ibisstore Summary"),
  page "liquibase" "/liquibase" "ShowLiquibaseScript.html"
    |>.withMetadata (titled "Liquibase Script" "JDBC > Liquibase Script")]

/-- The pages that embed other documents, and the pages the console shows by itself. -/
def embeddingRoutes : List RouteDefinition := [
  page "customView" "/customView/:name" "iFrame.html"
    |>.withMetadata (titled "Custom View" "Custom View").embedding
    |>.withParam "name" (hidden "")
    |>.withParam "url" (hidden "")
    |>.withGuard customView,
  page "larva" "/testing/larva" "iFrame.html"
    |>.withMetadata (titled "Larva" "Testing > Larva").embedding
    |>.withGuard (embed "larva"),
  page "ladybug" "/testing/ladybug" "iFrame.html"
    |>.withMetadata (titled "Ladybug" "Testing > Ladybug").embedding
    |>.withGuard (embed "iaf/testtool"),
  page "ladybug_beta" "/testing/ladybug-beta" "iFrame.html"
    |>.withMetadata (titled "Ladybug (beta)" "Testing > Ladybug (beta)").embedding
    |>.withGuard (embed "iaf/ladybug"),
  page "empty_page" "/empty_page" "empty_page.html"
    |>.withMetadata (RouteMetadata.titled "Empty Page"),
  page "iaf_update" "/iaf-update" "iaf-update.html"
    |>.withMetadata (RouteMetadata.titled "IAF Update")
    |>.withGuard releaseKnown,
  page "loading" "/" "common/loading.html",
  page "errorpage" "/error" "common/errorpage.html"]

/-- All routes of the console, in the order of their registration. -/
def routes : List RouteDefinition :=
  entryRoutes ++ adapterRoutes ++ configurationRoutes ++ toolRoutes ++ monitorRoutes
    ++ embeddingRoutes

/-- The console's table. A URL that no route answers shows the loading page. -/
def table : Except RouterError RouteTable :=
  RouteTable.build routes RouteTable.rootPath

end AdminConsole.Site
