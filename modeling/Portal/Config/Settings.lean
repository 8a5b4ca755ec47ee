import Portal.Command.Arguments
import Portal.World
/-! The project's settings as they come out of the environment. Most settings are fixed; the
secret key, the debug switch, the allowed hosts, the database, the site, the mail server, the
account options, the channel layer and the payment keys are read from environment variables,
with defaults for the ones not set. A switch is on exactly when its text, lower-cased, is
`true`; a number is read as an integer, and a text that is not one stops the evaluation.
Paths under the project directory are written from its placeholder. -/
namespace Portal
namespace Config

def baseDir : String := "<BASE_DIR>"

def joinPath (dir part : String) : String :=
  if part.startsWith "/" then part else dir ++ "/" ++ part

abbrev Env := List (String × String)

def Env.get (env : Env) (name dflt : String) : String :=
  ((env.find? (·.1 == name)).map (·.2)).getD dflt

def Env.flag (env : Env) (name dflt : String) : Bool := (env.get name dflt).toLower == "true"

def Env.int (env : Env) (name : String) (dflt : Int) : Except Fault Int :=
  match env.find? (·.1 == name) with
  | none => pure dflt
  | some (_, s) => match Command.readInt s with
    | some n => pure n
    | none => throw ⟨"ValueError", "invalid literal for int() with base 10: " ++ Text.quoteLiteral s⟩

def strs (xs : List String) : Json := .arr (xs.map .str)

def installedApps : List String :=
  ["django.contrib.admin", "django.contrib.auth", "django.contrib.contenttypes", "django.contrib.sessions",
    "django.contrib.messages", "django.contrib.staticfiles", "django.contrib.sites", "allauth",
    "allauth.account", "allauth.socialaccount", "tailwind", "django_htmx", "crispy_forms", "crispy_tailwind",
    "channels", "apps.plugins", "apps.accounts", "apps.landing", "apps.dashboard", "apps.subscriptions",
    "apps.notifications", "apps.blog", "apps.auditlog", "plugins.todo.apps.TodoConfig"]

def middleware : List String :=
  ["django.middleware.security.SecurityMiddleware", "whitenoise.middleware.WhiteNoiseMiddleware",
    "django.contrib.sessions.middleware.SessionMiddleware", "django.middleware.common.CommonMiddleware",
    "django.middleware.csrf.CsrfViewMiddleware", "django.contrib.auth.middleware.AuthenticationMiddleware",
    "django.contrib.messages.middleware.MessageMiddleware",
    "django.middleware.clickjacking.XFrameOptionsMiddleware", "django_htmx.middleware.HtmxMiddleware",
    "allauth.account.middleware.AccountMiddleware", "apps.auditlog.middleware.RequestLoggingMiddleware",
    "apps.auditlog.middleware.ErrorLoggingMiddleware", "apps.auditlog.middleware.PerformanceLoggingMiddleware"]

def templates : Json :=
  .arr [.obj [("BACKEND", .str "django.template.backends.django.DjangoTemplates"),
    ("DIRS", strs [joinPath baseDir "templates"]), ("APP_DIRS", .bool true),
    ("OPTIONS", .obj [("context_processors", strs ["django.template.context_processors.debug",
      "django.template.context_processors.request", "django.contrib.auth.context_processors.auth",
      "django.contrib.messages.context_processors.messages"])])]]

def passwordValidators : Json :=
  .arr (["UserAttributeSimilarityValidator", "MinimumLengthValidator", "CommonPasswordValidator",
    "NumericPasswordValidator"].map fun v => .obj [("NAME", .str ("django.contrib.auth.password_validation." ++ v))])

def logsDatabase : Json :=
  .obj [("ENGINE", .str "django.db.backends.sqlite3"), ("NAME", .str (joinPath (joinPath baseDir "logs") "logs.sqlite3"))]

def databases (env : Env) : Json :=
  let engine := env.get "DB_ENGINE" "django.db.backends.sqlite3"
  let main : Json := if engine == "django.db.backends.sqlite3" then
      .obj [("ENGINE", .str "django.db.backends.sqlite3"), ("NAME", .str (joinPath baseDir (env.get "DB_NAME" "db.sqlite3")))]
    else
      .obj [("ENGINE", .str engine), ("NAME", .str (env.get "DB_NAME" "djangobase")),
        ("USER", .str (env.get "DB_USER" "postgres")), ("PASSWORD", .str (env.get "DB_PASSWORD" "postgres")),
        ("HOST", .str (env.get "DB_HOST" "localhost")), ("PORT", .str (env.get "DB_PORT" "5432")),
        ("CONN_MAX_AGE", .int 60)]
  .obj [("default", main), ("logs", logsDatabase)]

def logging : Json :=
  let fmt (f : String) : Json := .obj [("format", .str f), ("style", .str "\x7b")]
  let handler (level cls fmtName : String) : Json :=
    .obj [("level", .str level), ("class", .str cls), ("formatter", .str fmtName)]
  let logger (handlers : List String) (level : String) : Json :=
    .obj [("handlers", strs handlers), ("level", .str level), ("propagate", .bool false)]
  .obj [("version", .int 1), ("disable_existing_loggers", .bool false),
    ("formatters", .obj [
      ("verbose", fmt "\x7blevelname\x7d \x7basctime\x7d \x7bmodule\x7d \x7bprocess:d\x7d \x7bthread:d\x7d \x7bmessage\x7d"),
      ("simple", fmt "\x7blevelname\x7d \x7bmessage\x7d"),
      ("database", fmt "\x7blevelname\x7d \x7basctime\x7d \x7bmodule\x7d \x7bmessage\x7d")]),
    ("filters", .obj [("require_debug_false", .obj [("()", .str "django.utils.log.RequireDebugFalse")])]),
    ("handlers", .obj [
      ("console", handler "INFO" "logging.StreamHandler" "simple"),
      ("database", handler "INFO" "apps.auditlog.handlers.DatabaseLogHandler" "database"),
      ("database_errors", handler "ERROR" "apps.auditlog.handlers.DatabaseLogHandler" "database")]),
    ("loggers", .obj [
      ("django", logger ["console", "database"] "INFO"),
      ("django.request", logger ["console", "database_errors"] "ERROR"),
      ("django.server", logger ["console", "database"] "INFO"),
      ("apps", logger ["console", "database"] "DEBUG"),
      ("auditlog", logger ["console", "database"] "DEBUG")]),
    ("root", .obj [("handlers", strs ["console", "database"]), ("level", .str "INFO")])]

def evaluate (env : Env) : Except Fault (List (String × Json)) := do
  let debug := env.flag "DEBUG" "True"
  let siteId ← env.int "SITE_ID" 1
  let emailPort ← env.int "EMAIL_PORT" 587
  let redisHost := env.get "REDIS_HOST" "localhost"
  let channels ← if redisHost == "localhost" && debug then
      pure (Json.obj [("default", .obj [("BACKEND", .str "channels.layers.InMemoryChannelLayer")])])
    else do
      let port ← env.int "REDIS_PORT" 6379
      pure (Json.obj [("default", .obj [("BACKEND", .str "channels_redis.core.RedisChannelLayer"),
        ("CONFIG", .obj [("hosts", .arr [.arr [.str redisHost, .int port]])])])])
  return [("BASE_DIR", .str baseDir),
    ("SECRET_KEY", .str (env.get "SECRET_KEY" "django-insecure-default-key-change-me")),
    ("DEBUG", .bool debug),
    ("ALLOWED_HOSTS", strs ((env.get "ALLOWED_HOSTS" "localhost,127.0.0.1").splitOn ",")),
    ("INSTALLED_APPS", strs installedApps), ("MIDDLEWARE", strs middleware),
    ("ROOT_URLCONF", .str "core.urls"), ("TEMPLATES", templates),
    ("WSGI_APPLICATION", .str "core.wsgi.application"), ("ASGI_APPLICATION", .str "core.asgi.application"),
    ("db_engine", .str (env.get "DB_ENGINE" "django.db.backends.sqlite3")),
    ("DATABASES", databases env), ("AUTH_PASSWORD_VALIDATORS", passwordValidators),
    ("LANGUAGE_CODE", .str "en-us"), ("TIME_ZONE", .str "UTC"), ("USE_I18N", .bool true), ("USE_TZ", .bool true),
    ("STATIC_URL", .str "static/"), ("STATIC_ROOT", .str (joinPath baseDir "staticfiles")),
    ("STATICFILES_DIRS", strs [joinPath baseDir "static"]),
    ("DEFAULT_AUTO_FIELD", .str "django.db.models.BigAutoField"), ("TAILWIND_APP_NAME", .str "theme"),
    ("CRISPY_ALLOWED_TEMPLATE_PACKS", .str "tailwind"), ("CRISPY_TEMPLATE_PACK", .str "tailwind"),
    ("AUTHENTICATION_BACKENDS", strs ["django.contrib.auth.backends.ModelBackend",
      "allauth.account.auth_backends.AuthenticationBackend"]),
    ("SITE_ID", .int siteId),
    ("ACCOUNT_LOGIN_METHODS", strs ["email"]),
    ("ACCOUNT_SIGNUP_FIELDS", strs ["email*", "password1*", "password2*"]),
    ("ACCOUNT_EMAIL_VERIFICATION", .str (env.get "ACCOUNT_EMAIL_VERIFICATION" "none")),
    ("ACCOUNT_UNIQUE_EMAIL", .bool (env.flag "ACCOUNT_UNIQUE_EMAIL" "True")),
    ("EMAIL_BACKEND", .str (env.get "EMAIL_BACKEND" "django.core.mail.backends.console.EmailBackend")),
    ("EMAIL_HOST", .str (env.get "EMAIL_HOST" "smtp.gmail.com")),
    ("EMAIL_PORT", .int emailPort),
    ("EMAIL_USE_TLS", .bool (env.flag "EMAIL_USE_TLS" "True")),
    ("EMAIL_HOST_USER", .str (env.get "EMAIL_HOST_USER" "")),
    ("EMAIL_HOST_PASSWORD", .str (env.get "EMAIL_HOST_PASSWORD" "")),
    ("LOGIN_REDIRECT_URL", .str "/dashboard"), ("LOGOUT_REDIRECT_URL", .str "/"),
    ("LOGIN_URL", .str "account_login"), ("CHANNEL_LAYERS", channels),
    ("STRIPE_PUBLIC_KEY", .str (env.get "STRIPE_PUBLIC_KEY" "")),
    ("STRIPE_SECRET_KEY", .str (env.get "STRIPE_SECRET_KEY" "")),
    ("STRIPE_WEBHOOK_SECRET", .str (env.get "STRIPE_WEBHOOK_SECRET" "")),
    ("STRIPE_PRICE_ID", .str (env.get "STRIPE_PRICE_ID" "")),
    ("DATABASE_ROUTERS", strs ["core.db_router.LoggingDatabaseRouter"]),
    ("LOGGING", logging)]

def isSettingName (name : String) : Bool :=
  name.toList.any Char.isUpper && !name.toList.any Char.isLower

def lookup (env : Env) (names : Option (List String)) : Except Fault (List (String × Json)) := do
  let all : List (String × Json) ← evaluate env
  let wanted := match names with
    | some ns => ns
    | none => ((all.map Prod.fst).filter isSettingName).mergeSort (fun a b => decide (a ≤ b))
  return wanted.map fun n =>
    (n, ((all.find? fun (k, _) => k == n).map Prod.snd).getD (.obj [("missing", .bool true)]))

end Config
end Portal
