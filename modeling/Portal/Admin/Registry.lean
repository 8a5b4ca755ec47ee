import Portal.Records.Query
/-! The kinds of record the administration site manages, and who may do what with them.
Each registration names its application and model as the site's addresses spell them, the
name its pages use for one record, the fields its search looks through (a `__` steps along
a reference), its order, and the actions its list offers. A few registrations belong to
installed libraries whose tables nothing here writes to: they are listed, and always empty.

Only an active superuser holds permissions; staff without them may sign in but see nothing.
The log's registration forbids adding and changing, and lets only superusers delete; the
payment customers' registration forbids adding. -/
namespace Portal
namespace Admin

inductive Perm where
  | view | add | change | delete
  deriving DecidableEq, Repr

structure Registration where
  app : String
  model : String
  verbose : String
  source : Option Entity
  search : List String := []
  ordering : List (String × Bool) := []
  addable : Bool := true
  changeable : Bool := true
  deleteBySuperuser : Bool := false
  actions : List String := []
  addTemplate : Option String := none
  readonly : List String := []
  plainForm : Bool := true
  ownerOnAdd : Option String := none

def taskAdmin (b : Board) : Registration :=
  { app := b.label, model := "task", verbose := "Task", source := some (.task b), search := ["title", "description"],
    readonly := ["created_at", "updated_at", "completed_at"] }

def taskRegistrations (b : Board) : List Registration :=
  let app := b.label
  [taskAdmin b,
   { app, model := "usertask", verbose := "User Task", source := some (.userTask b),
     search := ["task__title", "user__username"] },
   { app, model := "taskshare", verbose := "Task Share", source := some (.taskShare b),
     search := ["task__title", "shared_by__username", "shared_with__username"] },
   { app, model := "taskcomment", verbose := "Task Comment", source := some (.taskComment b),
     search := ["task__title", "author__username", "content"], readonly := ["created_at", "updated_at"] },
   { app, model := "tasklist", verbose := "Task List", source := some (.taskList b),
     search := ["name", "description"] }]

def registrations : List Registration :=
  [{ app := "auth", model := "group", verbose := "group", source := none, search := ["name"] },
   { app := "auth", model := "user", verbose := "user", source := some .user,
     search := ["email", "first_name", "last_name"], ordering := [("date_joined", true)],
     addTemplate := some "admin/auth/user/add_form.html", plainForm := false },
   { app := "sites", model := "site", verbose := "site", source := some .site, search := ["domain", "name"],
     ordering := [("domain", false)] },
   { app := "account", model := "emailaddress", verbose := "email address", source := none,
     search := ["email", "user__username"] },
   { app := "account", model := "emailconfirmation", verbose := "email confirmation", source := none,
     search := ["email_address__email"] },
   { app := "socialaccount", model := "socialapp", verbose := "social application", source := none },
   { app := "socialaccount", model := "socialtoken", verbose := "social application token", source := none },
   { app := "socialaccount", model := "socialaccount", verbose := "social account", source := none,
     search := ["user__username"] },
   { app := "blog", model := "category", verbose := "category", source := some .category,
     search := ["name", "description"], readonly := ["created_at"] },
   { app := "blog", model := "tag", verbose := "tag", source := some .tag, search := ["name"],
     readonly := ["created_at"] },
   { app := "blog", model := "article", verbose := "article", source := some .article,
     search := ["title", "content", "excerpt"], readonly := ["views_count", "created_at", "updated_at"],
     ownerOnAdd := some "author" },
   { app := "blog", model := "comment", verbose := "comment", source := some .comment,
     search := ["content", "author__username", "article__title"], readonly := ["created_at", "updated_at"] },
   { app := "subscriptions", model := "stripecustomer", verbose := "stripe customer",
     source := some .stripeCustomer,
     search := ["user__email", "stripe_customer_id", "stripe_subscription_id"], addable := false,
     readonly := ["created_at", "updated_at"] }] ++
  taskRegistrations .todo ++ taskRegistrations .todoTasks ++
  [{ app := "auditlog", model := "systemlog", verbose := "System Log", source := some .systemLog,
     search := ["message", "metadata", "user_agent", "request_id"], ordering := [("timestamp", true)],
     addable := false, changeable := false, deleteBySuperuser := true,
     actions := ["cleanup_old_logs_action", "mark_as_reviewed"] }]

def find? (app model : String) : Option Registration :=
  registrations.find? fun g => g.app == app && g.model == model

def appLabels : List String := (registrations.map (·.app)).eraseDups

def appName : String → String
  | "auth" => "Authentication and Authorization"
  | "sites" => "Sites"
  | "account" => "Accounts"
  | "socialaccount" => "Social Accounts"
  | "blog" => "Blog"
  | "subscriptions" => "Subscriptions"
  | "todo" => "Todo Plugin"
  | "todo_tasks" => "Todo Tasks"
  | "auditlog" => "Auditlog"
  | other => other

def admits (u : Obj) : Bool := u.getBool "is_active" && u.getBool "is_staff"

def superuser (u : Obj) : Bool := u.getBool "is_active" && u.getBool "is_superuser"

def allows (g : Registration) (u : Obj) : Perm → Bool
  | .view => superuser u
  | .add => g.addable && superuser u
  | .change => g.changeable && superuser u
  | .delete => if g.deleteBySuperuser then u.getBool "is_superuser" else superuser u

def seesList (g : Registration) (u : Obj) : Bool := allows g u .view || allows g u .change

def actionsFor (g : Registration) (u : Obj) : List String :=
  (if allows g u .delete then ["delete_selected"] else []) ++ g.actions

end Admin
end Portal
