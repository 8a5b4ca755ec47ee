import Portal.Migrations.Basic
/-! Every migration of the installed applications: the framework's own (content types,
users and permissions, the administration log, sessions, sites), the account library's,
and the project's six initial migrations. The project's migrations create the tables the
application uses; the two task boards have the same migration under their own labels. -/
namespace Portal
namespace Migrations

def userTarget : Target := { model := "user", table := "auth_user", keyType := "integer" }

def contentTypeTarget : Target :=
  { model := "contenttype", table := "django_content_type", keyType := "integer" }

def sibling (app model : String) (keyType : String := "bigint") : Target :=
  { model, table := app ++ "_" ++ model, keyType }

def create (name table : String) (fields : List Field) (uniqueTogether : List (List String) := [])
    (indexes : List Index := []) : Operation :=
  .createModel { name, table, fields, uniqueTogether, indexes }

def stamp (name : String) : Field := Field.plain name .moment

def optionalStamp (name : String) : Field := Field.plain name .moment true

def blogInitial : Migration :=
  { app := "blog", name := "0001_initial", parents := [("auth", "0001_initial")],
    operations := [
      create "Category" "blog_category" [Field.key,
        Field.chars "name" 100 false true, Field.slug "slug" 100 true, Field.plain "description" .text,
        stamp "created_at"],
      create "Article" "blog_article" [Field.key,
        Field.chars "title" 200, Field.slug "slug" 200 true, Field.plain "content" .text,
        Field.plain "excerpt" .text, Field.chars "featured_image" 100 true, Field.chars "status" 10,
        Field.plain "is_featured" .flag, Field.plain "views_count" .positive,
        Field.plain "read_time_minutes" .positive, stamp "created_at", stamp "updated_at",
        optionalStamp "published_at", Field.ref "author" userTarget,
        Field.ref "category" (sibling "blog" "category") true],
      create "Comment" "blog_comment" [Field.key,
        Field.plain "content" .text, Field.plain "is_approved" .flag, stamp "created_at",
        stamp "updated_at", Field.ref "article" (sibling "blog" "article"), Field.ref "author" userTarget,
        Field.ref "parent" (sibling "blog" "comment") true],
      create "Tag" "blog_tag" [Field.key,
        Field.chars "name" 50 false true, Field.slug "slug" 50 true, stamp "created_at",
        Field.many "articles" (sibling "blog" "article")]] }

def dashboardInitial : Migration :=
  { app := "dashboard", name := "0001_initial", parents := [("auth", "0001_initial")],
    operations := [
      create "SubscriptionPlan" "dashboard_subscriptionplan" [Field.key,
        Field.chars "name" 100, Field.slug "slug" 50 true, Field.plain "description" .text,
        Field.plain "price" .decimal, Field.chars "interval" 20, Field.plain "features" .document,
        Field.plain "is_active" .flag, stamp "created_at", stamp "updated_at"],
      create "UserSettings" "dashboard_usersettings" [Field.key,
        Field.plain "notify_comments" .flag, Field.plain "notify_updates" .flag,
        Field.plain "notify_marketing" .flag, Field.chars "api_key" 64 true,
        optionalStamp "api_key_created_at", Field.chars "subscription_status" 20,
        optionalStamp "subscription_start_date", optionalStamp "subscription_end_date",
        optionalStamp "trial_end_date", stamp "created_at", stamp "updated_at",
        Field.ref "subscription_plan" (sibling "dashboard" "subscriptionplan") true,
        Field.oneToOne "user" userTarget]] }

def subscriptionsInitial : Migration :=
  { app := "subscriptions", name := "0001_initial", parents := [("auth", "0001_initial")],
    operations := [
      create "StripeCustomer" "subscriptions_stripecustomer" [Field.key,
        Field.chars "stripe_customer_id" 255, Field.chars "stripe_subscription_id" 255 true,
        Field.chars "subscription_status" 50 true, stamp "created_at", stamp "updated_at",
        Field.oneToOne "user" userTarget]] }

def auditlogInitial : Migration :=
  { app := "auditlog", name := "0001_initial",
    operations := [
      create "SystemLog" "system_logs" [Field.key,
        Field.chars "level" 10 false false true, Field.chars "category" 50 false false true,
        Field.plain "message" .text, Field.plain "timestamp" .moment false true,
        Field.plain "user_id" .positive true true, Field.plain "object_id" .positive true true,
        Field.plain "metadata" .document, Field.chars "request_id" 36 true false true,
        Field.plain "ip_address" .address true, Field.plain "user_agent" .text true]
        [] [⟨"system_logs_level_36b166_idx", ["level", "timestamp"]⟩,
          ⟨"system_logs_categor_322359_idx", ["category", "timestamp"]⟩,
          ⟨"system_logs_user_id_942324_idx", ["user_id", "timestamp"]⟩,
          ⟨"system_logs_request_abf88a_idx", ["request_id"]⟩]] }

def boardInitial (app : String) : Migration :=
  let task := sibling app "task"
  { app, name := "0001_initial", parents := [("auth", "0001_initial")],
    operations := [
      create "Task" (app ++ "_task") [Field.key,
        Field.chars "title" 200, Field.plain "description" .text, Field.chars "priority" 10,
        Field.chars "status" 15, optionalStamp "due_date", stamp "created_at", stamp "updated_at",
        optionalStamp "completed_at", Field.ref "created_by" userTarget],
      create "TaskComment" (app ++ "_taskcomment") [Field.key,
        Field.plain "content" .text, stamp "created_at", stamp "updated_at",
        Field.ref "author" userTarget, Field.ref "task" task],
      create "TaskList" (app ++ "_tasklist") [Field.key,
        Field.chars "name" 100, Field.plain "description" .text, stamp "created_at",
        stamp "updated_at", Field.plain "is_public" .flag, Field.ref "created_by" userTarget,
        Field.many "tasks" task],
      create "TaskShare" (app ++ "_taskshare") [Field.key,
        Field.chars "permission" 10, stamp "shared_at", Field.plain "message" .text,
        Field.ref "shared_by" userTarget, Field.ref "shared_with" userTarget, Field.ref "task" task]
        [["task", "shared_with"]],
      create "UserTask" (app ++ "_usertask") [Field.key,
        Field.chars "role" 15, stamp "assigned_at", Field.plain "is_active" .flag,
        Field.ref "task" task, Field.ref "user" userTarget]
        [["user", "task"]]] }

def contentTypeMigrations : List Migration :=
  [{ app := "contenttypes", name := "0001_initial",
     operations := [
       create "ContentType" "django_content_type" [Field.smallKey,
         Field.chars "name" 100, Field.chars "app_label" 100, Field.chars "model" 100],
       .alterUniqueTogether "contenttype" [["app_label", "model"]]] },
   { app := "contenttypes", name := "0002_remove_content_type_name",
     parents := [("contenttypes", "0001_initial")],
     operations := [.alterOptions "contenttype", .alterField "contenttype" (Field.chars "name" 100 true), .runCode "",
       .removeField "contenttype" "name"] }]

def proxyPermissionsDoc : String :=
  "\n    Update the content_type of proxy model permissions to use the ContentType\n" ++
  "    of the proxy model.\n    "

def authMigrations : List Migration :=
  let permission := sibling "auth" "permission" "integer"
  let step (n : Nat) (name : String) (ops : List Operation) (more : List Key) (previous : String) : Migration :=
    { app := "auth", name := (if n < 10 then "000" else "00") ++ toString n ++ "_" ++ name,
      parents := [("auth", previous)] ++ more, operations := ops }
  [{ app := "auth", name := "0001_initial", parents := [("contenttypes", "0001_initial")],
     operations := [
       create "Permission" "auth_permission" [Field.smallKey,
         Field.chars "name" 50, Field.ref "content_type" contentTypeTarget, Field.chars "codename" 100]
         [["content_type", "codename"]],
       create "Group" "auth_group" [Field.smallKey,
         Field.chars "name" 80 false true, Field.many "permissions" permission],
       create "User" "auth_user" [Field.smallKey,
         Field.chars "password" 128, { stamp "last_login" with initial := some .now }, Field.plain "is_superuser" .flag,
         Field.chars "username" 30 false true, Field.chars "first_name" 30, Field.chars "last_name" 30,
         Field.chars "email" 75, Field.plain "is_staff" .flag, Field.plain "is_active" .flag,
         { stamp "date_joined" with initial := some .now }, Field.many "groups" (sibling "auth" "group" "integer"),
         Field.many "user_permissions" permission]] },
   step 2 "alter_permission_name_max_length" [.alterField "permission" (Field.chars "name" 255)] [] "0001_initial",
   step 3 "alter_user_email_max_length" [.alterField "user" (Field.chars "email" 254)] [] "0002_alter_permission_name_max_length",
   step 4 "alter_user_username_opts" [.alterField "user" (Field.chars "username" 30 false true)] [] "0003_alter_user_email_max_length",
   step 5 "alter_user_last_login_null" [.alterField "user" (optionalStamp "last_login")] [] "0004_alter_user_username_opts",
   step 6 "require_contenttypes_0002" [] [("contenttypes", "0002_remove_content_type_name")]
     "0005_alter_user_last_login_null",
   step 7 "alter_validators_add_error_messages" [.alterField "user" (Field.chars "username" 30 false true)] []
     "0006_require_contenttypes_0002",
   step 8 "alter_user_username_max_length" [.alterField "user" (Field.chars "username" 150 false true)] []
     "0007_alter_validators_add_error_messages",
   step 9 "alter_user_last_name_max_length" [.alterField "user" (Field.chars "last_name" 150)] []
     "0008_alter_user_username_max_length",
   step 10 "alter_group_name_max_length" [.alterField "group" (Field.chars "name" 150 false true)] [] "0009_alter_user_last_name_max_length",
   step 11 "update_proxy_permissions" [.runCode proxyPermissionsDoc]
     [("contenttypes", "0002_remove_content_type_name")] "0010_alter_group_name_max_length",
   step 12 "alter_user_first_name_max_length" [.alterField "user" (Field.chars "first_name" 150)] []
     "0011_update_proxy_permissions"]

def adminMigrations : List Migration :=
  [{ app := "admin", name := "0001_initial",
     parents := [("auth", "0001_initial"), ("contenttypes", "0001_initial")],
     operations := [
       create "LogEntry" "django_admin_log" [Field.smallKey,
         { stamp "action_time" with initial := some (.stamped true) }, Field.plain "object_id" .text true, Field.chars "object_repr" 200,
         Field.plain "action_flag" .positiveSmall, Field.plain "change_message" .text,
         Field.ref "content_type" contentTypeTarget true, Field.ref "user" userTarget]] },
   { app := "admin", name := "0002_logentry_remove_auto_add", parents := [("admin", "0001_initial")],
     operations := [.alterField "logentry" { stamp "action_time" with initial := some .now }] },
   { app := "admin", name := "0003_logentry_add_action_flag_choices",
     parents := [("admin", "0002_logentry_remove_auto_add")],
     operations := [.alterField "logentry" (Field.plain "action_flag" .positiveSmall)] }]

def sessionMigrations : List Migration :=
  [{ app := "sessions", name := "0001_initial",
     operations := [
       create "Session" "django_session" [
         { name := "session_key", kind := .chars 40, primary := true },
         Field.plain "session_data" .text, Field.plain "expire_date" .moment false true]] }]

def siteMigrations : List Migration :=
  [{ app := "sites", name := "0001_initial",
     operations := [
       create "Site" "django_site" [Field.smallKey,
         Field.chars "domain" 100, Field.chars "name" 50]] },
   { app := "sites", name := "0002_alter_domain_unique", parents := [("sites", "0001_initial")],
     operations := [.alterField "site" (Field.chars "domain" 100 false true)] }]

def accountMigrations : List Migration :=
  [{ app := "account", name := "0001_initial", parents := [("auth", "0001_initial")],
     operations := [
       create "EmailAddress" "account_emailaddress" [Field.smallKey,
         Field.chars "email" 75 false true, Field.plain "verified" .flag, Field.plain "primary" .flag,
         Field.ref "user" userTarget],
       create "EmailConfirmation" "account_emailconfirmation"
         [Field.smallKey, stamp "created", optionalStamp "sent", Field.chars "key" 64 false true,
           Field.ref "email_address" (sibling "account" "emailaddress" "integer")]] },
   { app := "account", name := "0002_email_max_length", parents := [("account", "0001_initial")],
     operations := [.alterField "emailaddress" (Field.chars "email" 254 false true)] },
   { app := "socialaccount", name := "0001_initial",
     parents := [("auth", "0001_initial"), ("sites", "0001_initial")],
     operations := [
       create "SocialAccount" "socialaccount_socialaccount"
         [Field.smallKey, Field.chars "provider" 30, Field.chars "uid" 255,
           { stamp "last_login" with initial := some (.stamped true) },
           { stamp "date_joined" with initial := some (.stamped false) },
           { Field.plain "extra_data" .text with initial := some (.constant "'\"\x7b\x7d\"'") },
           Field.ref "user" userTarget],
       create "SocialApp" "socialaccount_socialapp" [Field.smallKey,
         Field.chars "provider" 30, Field.chars "name" 40, Field.chars "client_id" 100,
         Field.chars "secret" 100, Field.chars "key" 100,
         Field.many "sites" { model := "site", table := "django_site", keyType := "integer" }],
       create "SocialToken" "socialaccount_socialtoken" [Field.smallKey,
         Field.plain "token" .text, Field.plain "token_secret" .text, optionalStamp "expires_at",
         Field.ref "account" (sibling "socialaccount" "socialaccount" "integer"),
         Field.ref "app" (sibling "socialaccount" "socialapp" "integer")],
       .alterUniqueTogether "socialtoken" [["app", "account"]],
       .alterUniqueTogether "socialaccount" [["provider", "uid"]]] },
   { app := "socialaccount", name := "0002_token_max_lengths", parents := [("socialaccount", "0001_initial")],
     operations := [.alterField "socialaccount" (Field.chars "uid" 191),
       .alterField "socialapp" (Field.chars "client_id" 191), .alterField "socialapp" (Field.chars "key" 191),
       .alterField "socialapp" (Field.chars "secret" 191)] },
   { app := "socialaccount", name := "0003_extra_data_default_dict",
     parents := [("socialaccount", "0002_token_max_lengths")],
     operations := [.alterField "socialaccount" { Field.plain "extra_data" .text with initial := some .emptyObject }] }]

def catalog : List Migration :=
  contentTypeMigrations ++ authMigrations ++ adminMigrations ++ sessionMigrations ++ siteMigrations ++
  accountMigrations ++ [blogInitial, dashboardInitial, subscriptionsInitial, auditlogInitial,
    boardInitial "todo", boardInitial "todo_tasks"]

def find? (k : Key) : Option Migration := catalog.find? (·.key == k)

def migratedApps : List String := (catalog.map (·.app)).eraseDups

end Migrations
end Portal
