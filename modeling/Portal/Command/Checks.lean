import Portal.Command.Output
import Portal.Config.Apps
/-! The system check command. Checks are grouped by tags; the model checks look at the
applications asked for, or at all of them, and the deployment checks only run when asked
for. What the model checks find here is all of kinds the settings silence: the image field
that has no imaging library to use, and the reverse accessors that the two task boards
both put on users. Silenced findings are only counted. The deployment checks warn about
the settings a production site would change.

The report lists the findings that are not silenced by level, then counts them; it goes to
the error output when there is something to show. A finding at or above the failing level
makes the report an error. -/
namespace Portal
namespace Command

def checkLevels : List String := ["DEBUG", "INFO", "WARNING", "ERROR", "CRITICAL"]

def checkSpec : Spec :=
  { name := "check", help := "Checks the entire Django project for potential problems.", checks := false,
    arguments := [
      { dest := "args", metavar := some "app_label", arity := .any, dflt := .arr [] },
      { flags := ["--tag", "-t"], dest := "tags", act := .append, help := "Run only checks labeled with given tag." },
      Argument.flag ["--list-tags"] "list_tags" "List available tags.",
      Argument.flag ["--deploy"] "deploy" "Check deployment settings.",
      Argument.option ["--fail-level"] "fail_level"
        "Message level that will cause the command to exit with a non-zero status. Default is ERROR."
        .text (.str "ERROR") (checkLevels.reverse.map Json.str),
      { flags := ["--database"], dest := "databases", act := .append, choices := [.str "default", .str "logs"],
        help := "Run database related checks against these aliases." }] }

def checkTags : List String :=
  ["admin", "caches", "compatibility", "database", "files", "models", "security", "sites", "staticfiles",
    "templates", "translation", "urls"]

def tagsAvailable (deploy : Bool) : List String :=
  (checkTags ++ (if deploy then ["async_support"] else [])).mergeSort fun a b => decide (a ≤ b)

def silencedFindings : String → Nat
  | "blog" => 1
  | "todo" => 11
  | "todo_tasks" => 11
  | _ => 0

def deploymentWarnings : List String :=
  ["?: (security.W004) You have not set a value for the SECURE_HSTS_SECONDS setting. If your entire " ++
      "site is served only over SSL, you may want to consider setting a value and enabling HTTP Strict " ++
      "Transport Security. Be sure to read the documentation first; enabling HSTS carelessly can cause " ++
      "serious, irreversible problems.",
    "?: (security.W008) Your SECURE_SSL_REDIRECT setting is not set to True. Unless your site should be " ++
      "available over both SSL and non-SSL connections, you may want to either set this setting True or " ++
      "configure a load balancer or reverse-proxy server to redirect all connections to HTTPS.",
    "?: (security.W009) Your SECRET_KEY has less than 50 characters, less than 5 unique characters, or " ++
      "it's prefixed with 'django-insecure-' indicating that it was generated automatically by Django. " ++
      "Please generate a long and random value, otherwise many of Django's security-critical features " ++
      "will be vulnerable to attack.",
    "?: (security.W012) SESSION_COOKIE_SECURE is not set to True. Using a secure-only session cookie " ++
      "makes it more difficult for network traffic sniffers to hijack user sessions.",
    "?: (security.W016) You have 'django.middleware.csrf.CsrfViewMiddleware' in your MIDDLEWARE, but you " ++
      "have not set CSRF_COOKIE_SECURE to True. Using a secure-only CSRF cookie makes it more difficult " ++
      "for network traffic sniffers to steal the CSRF token.",
    "?: (security.W018) You should not have DEBUG set to True in deployment."]

def issueCount (n : Nat) : String :=
  if n == 0 then "no issues" else if n == 1 then "1 issue" else toString n ++ " issues"

def runChecks (labels : Option (List String)) (tags : Option (List String)) (deploy : Bool)
    (failLevel : String) : App Unit := do
  let tagged (t : String) : Bool := (tags.map (·.contains t)).getD true
  let silenced := if tagged "models" then
      match labels with
      | some ls => (ls.map silencedFindings).foldl (· + ·) 0
      | none => (Config.appRegistry.map fun (l, _) => silencedFindings l).foldl (· + ·) 0
    else 0
  let warnings := if deploy && tagged "security" then deploymentWarnings else []
  let shown := warnings.length
  let header := if shown > 0 then "System check identified some issues:\n" else ""
  let body := if warnings.isEmpty then "" else
    "\nWARNINGS:\n" ++ "\n".intercalate (warnings.mergeSort fun a b => decide (a ≤ b)) ++ "\n"
  let footer := (if shown > 0 then "\n" else "") ++ "System check identified " ++ issueCount shown ++
    " (" ++ toString silenced ++ " silenced)."
  let failing := checkLevels.idxOf failLevel ≤ checkLevels.idxOf "WARNING"
  if shown > 0 && failing then App.raise "SystemCheckError" ("SystemCheckError: " ++ header ++ body ++ footer)
  if shown > 0 then App.complain (header ++ body ++ footer) else App.say (header ++ body ++ footer)

def check (vs : Values) : App Unit := do
  let deploy := (vs.find "deploy").truthy
  if (vs.find "list_tags").truthy then
    App.say ("\n".intercalate (tagsAvailable deploy))
    return
  let labels := (vs.find "args").items.map Json.toText
  for l in labels do
    match Config.appLabel l with
    | .ok _ => pure ()
    | .error m => App.raise "LookupError" m
  let tags := (vs.find "tags").items.map Json.toText
  if let some bad := tags.find? (!(tagsAvailable deploy).contains ·) then
    App.raise "CommandError" ("There is no system check with the \"" ++ bad ++ "\" tag.")
  runChecks (if labels.isEmpty then none else some labels) (if tags.isEmpty then none else some tags) deploy
    (vs.find "fail_level").toText

end Command
end Portal
