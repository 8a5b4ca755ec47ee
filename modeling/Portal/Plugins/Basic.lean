import Portal.Json.Basic
/-! Plugins and the modules they live in. A plugin is an object carrying attributes: the
module it lives in (`name`), its own name, version, description, author, dependencies, the
capabilities it provides and requires, and its settings; an attribute it was not given is
absent, not empty. The task plugin is registered when the application starts. Modules are
known by their dotted paths; a package may hold further modules. -/
namespace Portal

structure Plugin where
  className : String
  attributes : List (String × Json)
  deriving Inhabited

namespace Plugin

def attr? (p : Plugin) (k : String) : Option Json := (p.attributes.find? (·.1 == k)).map (·.2)

def tasks : Plugin :=
  { className := "TodoConfig",
    attributes := [("name", .str "plugins.todo"), ("plugin_name", .str "todo"),
      ("plugin_version", .str "1.0.0"),
      ("plugin_description", .str "Task management plugin with collaboration features"),
      ("plugin_author", .str "Django Blog Application"),
      ("plugin_dependencies", .arr []), ("provides", .arr [.str "tasks", .str "todo", .str "task_management"]),
      ("requires", .arr []),
      ("plugin_settings", .obj [("default_priority", .str "medium"), ("allow_task_sharing", .bool true),
        ("max_title_length", .int 200), ("enable_comments", .bool true)])] }

def startup : List (Json × Plugin) := [(.str "todo", tasks)]

end Plugin

structure ModuleInfo where
  path : String
  package : Bool := false
  patterns : Bool := false
  deriving Inhabited

def knownModules : List ModuleInfo :=
  let pkgs := ["apps", "apps.accounts", "apps.auditlog", "apps.auditlog.management",
    "apps.auditlog.management.commands", "apps.auditlog.migrations", "apps.blog", "apps.blog.migrations",
    "apps.dashboard", "apps.dashboard.migrations", "apps.landing", "apps.notifications",
    "apps.notifications.management", "apps.notifications.management.commands", "apps.plugins",
    "apps.plugins.management", "apps.plugins.management.commands", "apps.subscriptions",
    "apps.subscriptions.migrations", "apps.todo_tasks", "apps.todo_tasks.migrations", "core", "plugins",
    "plugins.todo", "plugins.todo.migrations", "utils", "utils.management", "utils.management.commands",
    "allauth", "django"]
  let mods := ["apps.accounts.admin", "apps.auditlog.admin", "apps.auditlog.apps",
    "apps.auditlog.exceptions", "apps.auditlog.handlers",
    "apps.auditlog.management.commands.cleanuplogs", "apps.auditlog.management.commands.viewlogs",
    "apps.auditlog.middleware", "apps.auditlog.models", "apps.auditlog.signals", "apps.auditlog.tests",
    "apps.auditlog.utils", "apps.auditlog.views", "apps.blog.admin", "apps.blog.apps", "apps.blog.forms",
    "apps.blog.models", "apps.blog.signals", "apps.blog.tests", "apps.blog.views", "apps.dashboard.admin",
    "apps.dashboard.consumers", "apps.dashboard.models", "apps.dashboard.tests", "apps.dashboard.views",
    "apps.landing.admin", "apps.landing.views", "apps.notifications.apps", "apps.notifications.consumers",
    "apps.notifications.management.commands.test_websocket", "apps.notifications.models",
    "apps.notifications.tests", "apps.notifications.utils", "apps.plugins.apps", "apps.plugins.base",
    "apps.plugins.management.commands.list_plugins", "apps.plugins.management.commands.validate_plugins",
    "apps.subscriptions.admin", "apps.subscriptions.consumers", "apps.subscriptions.models",
    "apps.subscriptions.tests", "apps.subscriptions.views", "apps.todo_tasks.admin", "apps.todo_tasks.apps",
    "apps.todo_tasks.forms", "apps.todo_tasks.models", "apps.todo_tasks.tests", "apps.todo_tasks.views",
    "core.asgi", "core.db_router", "core.routing", "core.settings", "core.wsgi", "create_sample_data",
    "init_database", "manage", "plugins.todo.admin", "plugins.todo.apps", "plugins.todo.forms",
    "plugins.todo.models", "plugins.todo.tests", "plugins.todo.views", "utils.database",
    "utils.management.commands.db_ops", "django.urls"]
  let urls := ["apps.blog.urls", "apps.dashboard.urls", "apps.landing.urls", "apps.subscriptions.urls",
    "apps.todo_tasks.urls", "plugins.todo.urls", "core.urls", "allauth.urls"]
  pkgs.map (fun p => { path := p, package := true }) ++ mods.map (fun m => { path := m }) ++
    urls.map fun u => { path := u, patterns := true }

def moduleNamed? (path : String) : Option ModuleInfo := knownModules.find? (·.path == path)

def dotParts (path : String) : List String := (path.toList.splitOn '.').map String.ofList

def importFailure (path : String) : Option String :=
  let parts := dotParts path
  let prefixes := (List.range parts.length).map fun i => ".".intercalate (parts.take (i + 1))
  let rec go (pre : List String) (parent : Option ModuleInfo) : Option String :=
    match pre with
    | [] => none
    | p :: rest =>
      match parent with
      | some par =>
        if !par.package then
          some ("No module named " ++ "'" ++ p ++ "'; '" ++ par.path ++ "' is not a package")
        else match moduleNamed? p with
          | some m => go rest (some m)
          | none => some ("No module named '" ++ p ++ "'")
      | none =>
        match moduleNamed? p with
        | some m => go rest (some m)
        | none => some ("No module named '" ++ p ++ "'")
  go prefixes none

end Portal
