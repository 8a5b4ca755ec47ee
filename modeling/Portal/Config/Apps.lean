/-! The installed applications, each with its label and its module, and the management
commands each one provides. Looking up an application is by label; a module name given
instead is answered with the label to use. -/
namespace Portal
namespace Config

def appRegistry : List (String × String) :=
  [("admin", "django.contrib.admin"), ("auth", "django.contrib.auth"),
    ("contenttypes", "django.contrib.contenttypes"), ("sessions", "django.contrib.sessions"),
    ("messages", "django.contrib.messages"), ("staticfiles", "django.contrib.staticfiles"),
    ("sites", "django.contrib.sites"), ("allauth", "allauth"), ("account", "allauth.account"),
    ("socialaccount", "allauth.socialaccount"), ("channels", "channels"), ("plugins", "apps.plugins"),
    ("accounts", "apps.accounts"), ("landing", "apps.landing"), ("dashboard", "apps.dashboard"),
    ("subscriptions", "apps.subscriptions"), ("notifications", "apps.notifications"),
    ("blog", "apps.blog"), ("auditlog", "apps.auditlog"), ("todo", "plugins.todo"),
    ("todo_tasks", "apps.todo_tasks")]

def appLabel (label : String) : Except String String :=
  if appRegistry.any (·.1 == label) then .ok label
  else
    let hint := match appRegistry.find? (·.2 == label) with
      | some (l, _) => " Did you mean '" ++ l ++ "'?"
      | none => ""
    .error ("No installed app with label '" ++ label ++ "'." ++ hint)

def appDirectory (label : String) : String :=
  match appRegistry.find? (·.1 == label) with
  | some (_, m) => "/".intercalate (m.splitOn ".")
  | none => label

def commandsByApp : List (String × List String) :=
  [("account", ["account_unsetmultipleprimaryemails"]), ("auditlog", ["cleanuplogs", "viewlogs"]),
    ("auth", ["changepassword", "createsuperuser"]), ("channels", ["runworker"]),
    ("contenttypes", ["remove_stale_contenttypes"]),
    ("django", ["check", "compilemessages", "createcachetable", "dbshell", "diffsettings", "dumpdata",
      "flush", "inspectdb", "loaddata", "makemessages", "makemigrations", "migrate",
      "optimizemigration", "sendtestemail", "shell", "showmigrations", "sqlflush", "sqlmigrate",
      "sqlsequencereset", "squashmigrations", "startapp", "startproject", "test", "testserver"]),
    ("notifications", ["test_websocket"]), ("plugins", ["list_plugins", "validate_plugins"]),
    ("sessions", ["clearsessions"]), ("staticfiles", ["collectstatic", "findstatic", "runserver"])]

def commandNames : List String :=
  (commandsByApp.flatMap (·.2)).mergeSort fun a b => decide (a ≤ b)

end Config
end Portal
