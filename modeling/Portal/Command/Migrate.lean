import Portal.Command.Output
import Portal.Command.Plugins
import Portal.Config.Apps
import Portal.Migrations.Statements
import Portal.Migrations.Plan
/-! The migration commands. None of the migrations is recorded as applied, so every
listing shows them all unapplied and every plan applies everything the targets need.
Listing shows each application's migrations in the order they apply; the plan shows the
migrations of all the targets together. Printing a migration's statements writes them
for the database chosen, inside a transaction. Migrating only shows its plan, operation
by operation. Making migrations only reports: the models match their migrations, and an
application without migrations gets an initial one only when asked for by name. -/
namespace Portal
namespace Command
open Migrations

def databaseOption (what : String) : Argument :=
  Argument.option ["--database"] "database" ("Nominates a database to " ++ what ++
    ". Defaults to the \"default\" database.") .text (.str "default") [.str "default", .str "logs"]

def showMigrationsSpec : Spec :=
  { name := "showmigrations", help := "Shows all available migrations for the current project",
    arguments := [
      { dest := "app_label", arity := .any, dflt := .arr [],
        help := "App labels of applications to limit the output to." },
      databaseOption "show migrations for",
      { flags := ["--list", "-l"], dest := "format", act := .storeConst, arity := .none, const := .str "list",
        dflt := .str "list", group := some 0,
        help := "Shows a list of all migrations and which are applied. With a verbosity level of 2 or " ++
          "above, the applied datetimes will be included." },
      { flags := ["--plan", "-p"], dest := "format", act := .storeConst, arity := .none, const := .str "plan",
        dflt := .str "list", group := some 0,
        help := "Shows all migrations in the order they will be applied. With a verbosity level of 2 or " ++
          "above all direct migration dependencies and reverse dependencies (run_before) will be included." }] }

def sqlMigrateSpec : Spec :=
  { name := "sqlmigrate", help := "Prints the SQL statements for the named migration.",
    arguments := [
      Argument.positional "app_label" "App label of the application containing the migration.",
      Argument.positional "migration_name" "Migration name to print the SQL for.",
      databaseOption "create SQL for",
      Argument.flag ["--backwards"] "backwards" "Creates SQL to unapply the migration, rather than to apply it"] }

def migrateSpec : Spec :=
  { name := "migrate", help := "Updates database schema. Manages both apps with migrations and those without.",
    arguments := [
      Argument.positional "app_label" "App label of an application to synchronize the state." .optional,
      Argument.positional "migration_name" ("Database state will be brought to the state after that " ++
        "migration. Use the name \"zero\" to unapply all migrations.") .optional,
      Argument.unflag ["--noinput", "--no-input"] "interactive" "Tells Django to NOT prompt the user for input of any kind.",
      databaseOption "synchronize",
      Argument.flag ["--fake"] "fake" "Mark migrations as run without actually running them.",
      Argument.flag ["--fake-initial"] "fake_initial" ("Detect if tables already exist and fake-apply " ++
        "initial migrations if so. Make sure that the current database schema matches your initial " ++
        "migration before using this flag. Django will only check for an existing table name."),
      Argument.flag ["--plan"] "plan" "Shows a list of the migration actions that will be performed.",
      Argument.flag ["--run-syncdb"] "run_syncdb" "Creates tables for apps without migrations.",
      Argument.flag ["--check"] "check_unapplied" ("Exits with a non-zero status if unapplied migrations " ++
        "exist and does not actually apply migrations."),
      Argument.flag ["--prune"] "prune" "Delete nonexistent migrations from the django_migrations table."] }

def makeMigrationsSpec : Spec :=
  { name := "makemigrations", help := "Creates new migration(s) for apps.",
    arguments := [
      { dest := "args", metavar := some "app_label", arity := .any, dflt := .arr [],
        help := "Specify the app label(s) to create migrations for." },
      Argument.flag ["--dry-run"] "dry_run" "Just show what migrations would be made; don't actually write them.",
      Argument.flag ["--merge"] "merge" "Enable fixing of migration conflicts.",
      Argument.flag ["--empty"] "empty" "Create an empty migration.",
      Argument.unflag ["--noinput", "--no-input"] "interactive" "Tells Django to NOT prompt the user for input of any kind.",
      Argument.option ["-n", "--name"] "name" "Use this name for migration file(s).",
      Argument.unflag ["--no-header"] "include_header" "Do not add header comments to new migration file(s).",
      Argument.flag ["--check"] "check_changes" ("Exit with a non-zero status if model changes are missing " ++
        "migrations and don't actually write them. Implies --dry-run."),
      Argument.flag ["--scriptable"] "scriptable" ("Divert log output and input prompts to stderr, writing " ++
        "only paths of generated migration files to stdout."),
      Argument.flag ["--update"] "update" ("Merge model changes into the latest migration and optimize the " ++
        "resulting operations.")] }

def verbosityOf (vs : Values) : Int := vs.intOr "verbosity" 1

def requireApps (labels : List String) : App Unit := do
  let bad ← labels.filterM fun l => do
    match Config.appLabel l with
    | .ok _ => return false
    | .error m => App.complain m; return true
  if !bad.isEmpty then App.raise "SystemExit" "2"

def appOrError (label : String) : App Unit :=
  match Config.appLabel label with
  | .ok _ => pure ()
  | .error m => App.raise "CommandError" m

def keyText (k : Key) : String := k.1 ++ "." ++ k.2

def showList (labels : List String) : App Unit := do
  let apps := if labels.isEmpty then migratedApps.mergeSort (fun a b => decide (a ≤ b)) else labels
  for app in apps do
    App.say app
    let shown := (planFor (leaves (some app))).filter (·.1 == app)
    for k in shown do App.say (" [ ] " ++ k.2)
    if shown.isEmpty then App.say " (no migrations)"

def showPlan (labels : List String) (verbosity : Int) : App Unit := do
  let targets := if labels.isEmpty then leaves none else (leaves none).filter (labels.contains ·.1)
  let plan := planFor targets
  for k in plan do
    let deps := if verbosity ≥ 2 && !(parentsOf k).isEmpty then
        " ... (" ++ ", ".intercalate ((parentsOf k).map keyText) ++ ")" else ""
    App.say ("[ ]  " ++ keyText k ++ deps)
  if plan.isEmpty then App.say "(no migrations)"

def showMigrations (vs : Values) : App Unit := do
  let labels := (vs.find "app_label").items.map Json.toText
  if !labels.isEmpty then requireApps labels
  if (vs.find "format").toText == "plan" then showPlan labels (verbosityOf vs) else showList labels

def migrationByStart (app pre : String) (missing : String) : App Migration := do
  match byStart app pre with
  | [m] => return m
  | [] => App.raise "CommandError" missing
  | _ => App.raise "CommandError" ("More than one migration matches '" ++ pre ++ "' in app '" ++ app ++
    "'. Please be more specific.")

def sqlMigrate (vs : Values) : App Unit := do
  if (vs.find "force_color").truthy then
    App.raise "CommandError" "The --no-color and --force-color options can't be used together."
  let app := (vs.find "app_label").toText
  let pre := (vs.find "migration_name").toText
  appOrError app
  if !migratedApps.contains app then App.raise "CommandError" ("App '" ++ app ++ "' does not have migrations")
  let m ← migrationByStart app pre
    ("Cannot find a migration matching '" ++ pre ++ "' from app '" ++ app ++ "'. Is it in INSTALLED_APPS?")
  let before := Schema.ofMigrations (((forwardsPlan m.key).filter (· != m.key)).filterMap find?)
  let time := (Moment.utc (← App.now)).stored
  let lines := listing (vs.find "database").toText time before m (vs.find "backwards").truthy
  if lines.isEmpty then
    if verbosityOf vs ≥ 1 then App.complain "No operations found."
  else App.say ("BEGIN;\n" ++ "\n".intercalate lines ++ "\nCOMMIT;")

def planLine (op : Operation) : String :=
  let action := match op with
    | .runCode doc => doc.replace "\n" ""
    | _ => ""
  op.describe ++ (if action.isEmpty then "" else truncateChars 40 (" -> " ++ action))

def migrate (vs : Values) : App Unit := do
  let app := vs.find "app_label"
  let name := vs.find "migration_name"
  let verbosity := verbosityOf vs
  if let .str a := app then
    appOrError a
    if (vs.find "run_syncdb").truthy then
      if migratedApps.contains a then
        App.raise "CommandError" ("Can't use run_syncdb with app '" ++ a ++ "' as it has migrations.")
    else if !migratedApps.contains a then
      App.raise "CommandError" ("App '" ++ a ++ "' does not have migrations.")
  let targets ← match app, name with
    | .str a, .str n =>
      if n == "zero" then pure []
      else do
        let m ← migrationByStart a n ("Cannot find a migration matching '" ++ n ++ "' from app '" ++ a ++ "'.")
        pure [m.key]
    | .str a, _ => pure (leaves (some a))
    | _, _ => pure (leaves none)
  if (vs.find "prune").truthy then
    if !(app matches .str _) then App.raise "CommandError" "Migrations can be pruned only when an app is specified."
    if verbosity > 0 then
      App.say "Pruning migrations:"
      App.say "  No migrations to prune."
  let plan := planFor targets
  if (vs.find "plan").truthy then
    App.say "Planned operations:"
    if plan.isEmpty then App.say "  No planned migration operations."
    else
      for k in plan do
        App.say (keyText k)
        for op in ((find? k).map (·.operations)).getD [] do App.say ("    " ++ planLine op)
      if (vs.find "check_unapplied").truthy then App.raise "SystemExit" "1"

def isIdentifier (s : String) : Bool :=
  let ok (c : Char) : Bool := c.isAlphanum || c == '_' || c.toNat > 127
  match s.toList with
  | c :: rest => (c.isAlpha || c == '_' || c.toNat > 127) && rest.all ok
  | [] => false

def pendingModels : String → List String
  | "notifications" => ["Notification", "UserPresence"]
  | _ => []

def nextNumber (app : String) : String :=
  let last := ((leaves (some app)).head?.map fun k => ((k.2.takeWhile Char.isDigit).toString.toNat?).getD 0).getD 0
  let digits := toString (last + 1)
  String.ofList (List.replicate (4 - digits.length) '0') ++ digits

def makeMigrations (vs : Values) : App Unit := do
  let name := vs.find "name"
  if let .str n := name then
    if !n.isEmpty && !isIdentifier n then
      App.raise "CommandError" "The migration name must be a valid Python identifier."
  let labels := ((vs.find "args").items.map Json.toText).eraseDups
  requireApps labels
  let log (s : String) : App Unit := if (vs.find "scriptable").truthy then App.complain s else App.say s
  let verbose := verbosityOf vs ≥ 1
  if (vs.find "merge").truthy then
    log "No conflicts detected to merge."
    return
  let report (changes : List (String × String × List String)) : App Unit := do
    for (app, file, models) in changes do
      if verbose then
        log ("Migrations for '" ++ app ++ "':")
        log ("  " ++ Config.appDirectory app ++ "/migrations/" ++ file ++ ".py\n")
        for m in models do log ("    - Create model " ++ m)
      if (vs.find "scriptable").truthy then
        App.say (Config.appDirectory app ++ "/migrations/" ++ file ++ ".py")
  let suffix (fallback : String) : String := match name with
    | .str n => if n.isEmpty then fallback else n
    | _ => fallback
  if (vs.find "empty").truthy then
    if labels.isEmpty then App.raise "CommandError" "You must supply at least one app label when using --empty."
    report (labels.map fun app => (app, nextNumber app ++ "_" ++ suffix "auto", []))
    return
  let changes := labels.filterMap fun app =>
    match pendingModels app with
    | [] => none
    | models => some (app, nextNumber app ++ "_" ++ suffix "initial", models)
  if changes.isEmpty then
    if verbose then
      match labels with
      | [] => log "No changes detected"
      | [one] => log ("No changes detected in app '" ++ one ++ "'")
      | many => log ("No changes detected in apps '" ++ "', '".intercalate many ++ "'")
  else
    report changes
    if (vs.find "check_changes").truthy then App.raise "SystemExit" "1"

end Command
end Portal
