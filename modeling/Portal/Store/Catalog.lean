import Portal.Store.Schema
/-! The record kinds of the application, with their fields in declaration order. -/
namespace Portal
namespace Catalog

def idField : Field := { name := "id", kind := .serial, typeName := "BigAutoField" }

def smallIdField : Field := { idField with typeName := "AutoField" }

def textField (name : String) (dflt : String := "") : Field :=
  { name, kind := .text, dflt := .value (.text dflt), typeName := "TextField" }

def charField (name : String) (len : Nat) (dflt : String := "") : Field :=
  { name, kind := .text, dflt := .value (.text dflt), typeName := "CharField", maxLength := some len }

def slugField (len : Nat) : Field :=
  { name := "slug", kind := .text, unique := true, dflt := .value (.text ""), typeName := "SlugField",
    maxLength := some len }

def createdAt : Field := { name := "created_at", kind := .moment, autoNowAdd := true }
def updatedAt : Field := { name := "updated_at", kind := .moment, autoNow := true }

def flag (name : String) (dflt : Bool) : Field := { name, kind := .bool, dflt := .value (.bool dflt) }

def optMoment (name : String) : Field := { name, kind := .moment, null := true, blank := true }

def userRef (name : String) : Field := { name, kind := .ref .user .cascade }

def userOwner : Field := { userRef "user" with unique := true, typeName := "OneToOneField" }

def user : Model :=
  { entity := .user, app := "auth", name := "User", table := "auth_user"
    fields := [smallIdField, charField "password" 128,
      { name := "last_login", kind := .moment, null := true },
      flag "is_superuser" false,
      { charField "username" 150 with unique := true },
      charField "first_name" 150, charField "last_name" 150,
      { charField "email" 254 with typeName := "EmailField" },
      flag "is_staff" false, flag "is_active" true,
      { name := "date_joined", kind := .moment, dflt := .now }]
    links := [⟨"groups", "auth_user_groups", "user_id", "group_id", .user⟩,
      ⟨"user_permissions", "auth_user_user_permissions", "user_id", "permission_id", .user⟩] }

def site : Model :=
  { entity := .site, app := "sites", name := "Site", table := "django_site"
    fields := [smallIdField, { charField "domain" 100 with unique := true }, charField "name" 50] }

def category : Model :=
  { entity := .category, app := "blog", name := "Category", table := "blog_category"
    fields := [idField, { charField "name" 100 with unique := true },
      { slugField 100 with blank := true },
      { textField "description" with blank := true }, createdAt]
    ordering := [("name", false)] }

def article : Model :=
  { entity := .article, app := "blog", name := "Article", table := "blog_article"
    fields := [idField,
      charField "title" 200,
      { slugField 200 with blank := true },
      userRef "author",
      { name := "category", kind := .ref .category .setNull, null := true, blank := true },
      textField "content",
      { textField "excerpt" with maxLength := some 300 },
      { name := "featured_image", kind := .file, null := true, blank := true, typeName := "ImageField",
        maxLength := some 100 },
      { charField "status" 10 "draft" with
        choices := [("draft", "Draft"), ("published", "Published"), ("archived", "Archived")] },
      flag "is_featured" false,
      { name := "views_count", kind := .posInt, dflt := .value (.int 0) },
      { name := "read_time_minutes", kind := .posInt, dflt := .value (.int 5) },
      createdAt, updatedAt, optMoment "published_at"]
    ordering := [("published_at", true), ("created_at", true)] }

def comment : Model :=
  { entity := .comment, app := "blog", name := "Comment", table := "blog_comment"
    fields := [idField,
      { name := "article", kind := .ref .article .cascade },
      userRef "author",
      { name := "parent", kind := .ref .comment .cascade, null := true, blank := true },
      textField "content", flag "is_approved" true, createdAt, updatedAt]
    ordering := [("created_at", false)] }

def tagArticles : LinkSpec := ⟨"articles", "blog_tag_articles", "tag_id", "article_id", .article⟩

def tag : Model :=
  { entity := .tag, app := "blog", name := "Tag", table := "blog_tag"
    fields := [idField, { charField "name" 50 with unique := true },
      { slugField 50 with blank := true },
      createdAt]
    links := [tagArticles]
    ordering := [("name", false)] }

def priorityChoices : List (String × String) :=
  [("low", "Low"), ("medium", "Medium"), ("high", "High"), ("urgent", "Urgent")]

def statusChoices : List (String × String) :=
  [("pending", "Pending"), ("in_progress", "In Progress"), ("completed", "Completed"),
    ("cancelled", "Cancelled")]

def roleChoices : List (String × String) :=
  [("owner", "Owner"), ("assignee", "Assignee"), ("collaborator", "Collaborator"), ("viewer", "Viewer")]

def permissionChoices : List (String × String) :=
  [("view", "Can View"), ("edit", "Can Edit"), ("assign", "Can Assign"), ("delete", "Can Delete")]

def task (b : Board) : Model :=
  { entity := .task b, app := b.label, name := "Task", table := b.label ++ "_task"
    fields := [idField, charField "title" 200,
      { textField "description" with blank := true },
      { charField "priority" 10 "medium" with choices := priorityChoices },
      { charField "status" 15 "pending" with choices := statusChoices },
      optMoment "due_date", createdAt, updatedAt, optMoment "completed_at",
      userRef "created_by"]
    ordering := [("created_at", true)] }

def userTask (b : Board) : Model :=
  { entity := .userTask b, app := b.label, name := "UserTask", table := b.label ++ "_usertask"
    fields := [idField, userRef "user", { name := "task", kind := .ref (.task b) .cascade },
      { charField "role" 15 "assignee" with choices := roleChoices },
      { name := "assigned_at", kind := .moment, autoNowAdd := true },
      flag "is_active" true]
    together := [["user", "task"]] }

def taskShare (b : Board) : Model :=
  { entity := .taskShare b, app := b.label, name := "TaskShare", table := b.label ++ "_taskshare"
    fields := [idField, { name := "task", kind := .ref (.task b) .cascade },
      userRef "shared_by", userRef "shared_with",
      { charField "permission" 10 "view" with choices := permissionChoices },
      { name := "shared_at", kind := .moment, autoNowAdd := true },
      { textField "message" with blank := true }]
    together := [["task", "shared_with"]] }

def taskComment (b : Board) : Model :=
  { entity := .taskComment b, app := b.label, name := "TaskComment", table := b.label ++ "_taskcomment"
    fields := [idField, { name := "task", kind := .ref (.task b) .cascade }, userRef "author",
      textField "content", createdAt, updatedAt]
    ordering := [("created_at", false)] }

def listTasks (b : Board) : LinkSpec := ⟨"tasks", b.label ++ "_tasklist_tasks", "tasklist_id", "task_id", .task b⟩

def taskList (b : Board) : Model :=
  { entity := .taskList b, app := b.label, name := "TaskList", table := b.label ++ "_tasklist"
    fields := [idField, charField "name" 100,
      { textField "description" with blank := true }, userRef "created_by",
      createdAt, updatedAt, flag "is_public" false]
    links := [listTasks b]
    ordering := [("name", false)] }

def plan : Model :=
  { entity := .plan, app := "dashboard", name := "SubscriptionPlan", table := "dashboard_subscriptionplan"
    fields := [idField, charField "name" 100, slugField 50,
      textField "description",
      { name := "price", kind := .dec 10 2 },
      { charField "interval" 20 "monthly" with choices := [("monthly", "Monthly"), ("yearly", "Yearly")] },
      { name := "features", kind := .json, dflt := .value (.json (.arr [])) },
      flag "is_active" true, createdAt, updatedAt] }

def userSettings : Model :=
  { entity := .userSettings, app := "dashboard", name := "UserSettings", table := "dashboard_usersettings"
    fields := [idField, userOwner,
      flag "notify_comments" false, flag "notify_updates" false, flag "notify_marketing" false,
      { charField "api_key" 64 with dflt := .none, null := true, blank := true },
      optMoment "api_key_created_at",
      { name := "subscription_plan", kind := .ref .plan .setNull, null := true, blank := true },
      { charField "subscription_status" 20 "inactive" with
        choices := [("active", "Active"), ("inactive", "Inactive"), ("cancelled", "Cancelled"),
          ("trial", "Trial")] },
      optMoment "subscription_start_date", optMoment "subscription_end_date",
      optMoment "trial_end_date", createdAt, updatedAt] }

def stripeCustomer : Model :=
  { entity := .stripeCustomer, app := "subscriptions", name := "StripeCustomer"
    table := "subscriptions_stripecustomer"
    fields := [idField, userOwner, charField "stripe_customer_id" 255,
      { charField "stripe_subscription_id" 255 with dflt := .none, null := true, blank := true },
      { charField "subscription_status" 50 with dflt := .none, null := true, blank := true },
      createdAt, updatedAt] }

def notification : Model :=
  { entity := .notification, app := "notifications", name := "Notification"
    table := "notifications_notification"
    fields := [idField, userRef "user", charField "title" 200, textField "message",
      { charField "level" 10 "info" with
        choices := [("info", "Info"), ("success", "Success"), ("warning", "Warning"), ("error", "Error")] },
      flag "is_read" false, createdAt, updatedAt,
      { name := "data", kind := .json, dflt := .value (.json (.obj [])), blank := true }]
    ordering := [("created_at", true)] }

def presence : Model :=
  { entity := .presence, app := "notifications", name := "UserPresence"
    table := "notifications_userpresence"
    fields := [idField, userOwner, flag "is_online" false,
      { name := "last_seen", kind := .moment, autoNow := true },
      { name := "last_activity", kind := .moment, autoNow := true }] }

def levelChoices : List (String × String) :=
  [("DEBUG", "Debug"), ("INFO", "Info"), ("WARN", "Warning"), ("ERROR", "Error"), ("CRITICAL", "Critical")]

def categoryChoices : List (String × String) :=
  [("api", "API Request"), ("error", "Error"), ("migration", "Migration"), ("audit", "Audit"),
    ("auth", "Authentication"), ("system", "System")]

def systemLog : Model :=
  { entity := .systemLog, app := "auditlog", name := "SystemLog", table := "system_logs"
    fields := [idField, { charField "level" 10 "INFO" with choices := levelChoices, indexed := true },
      { charField "category" 50 with choices := categoryChoices, indexed := true }, textField "message",
      { name := "timestamp", kind := .moment, dflt := .now, indexed := true },
      { name := "user_id", kind := .posInt, null := true, indexed := true },
      { name := "object_id", kind := .posInt, null := true, indexed := true },
      { name := "metadata", kind := .json, dflt := .value (.json (.obj [])) },
      { charField "request_id" 36 with dflt := .none, null := true, indexed := true },
      { name := "ip_address", kind := .ip, null := true },
      { name := "user_agent", kind := .text, null := true }]
    ordering := [("timestamp", true)]
    database := .logs }

end Catalog

namespace Entity

def model : Entity → Model
  | .user => Catalog.user
  | .site => Catalog.site
  | .category => Catalog.category
  | .article => Catalog.article
  | .comment => Catalog.comment
  | .tag => Catalog.tag
  | .task b => Catalog.task b
  | .userTask b => Catalog.userTask b
  | .taskShare b => Catalog.taskShare b
  | .taskComment b => Catalog.taskComment b
  | .taskList b => Catalog.taskList b
  | .plan => Catalog.plan
  | .userSettings => Catalog.userSettings
  | .stripeCustomer => Catalog.stripeCustomer
  | .notification => Catalog.notification
  | .presence => Catalog.presence
  | .systemLog => Catalog.systemLog

def all : List Entity :=
  [.user, .site, .plan, .userSettings, .stripeCustomer, .notification, .presence,
    .category, .article, .comment, .tag,
    .task .todoTasks, .userTask .todoTasks, .taskShare .todoTasks, .taskComment .todoTasks,
    .taskList .todoTasks,
    .task .todo, .userTask .todo, .taskShare .todo, .taskComment .todo, .taskList .todo,
    .systemLog]

def label (e : Entity) : String := e.model.label

def ofLabel? (s : String) : Option Entity := all.find? (·.label == s)

end Entity
end Portal
