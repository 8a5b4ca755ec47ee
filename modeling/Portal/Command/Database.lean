import Portal.Command.Output
import Portal.Database.Maintenance
/-! The database command: one subcommand per utility, each printing what the utility reports.
Most of them do real work only for a server database; on the in-memory database they say so
and stop. With no subcommand the command prints its help. -/
namespace Portal
namespace Command

open Database

def dbOpsSpec : Spec :=
  { name := "db_ops", help := "Perform various database operations for PostgreSQL",
    subcommandDest := "operation", subcommandHelp := "Database operation to perform",
    subcommands := [
      { name := "info", help := "Show database information",
        arguments := [Argument.option ["--format"] "format" "Output format" .text (.str "table")
          [.str "json", .str "table"]] },
      { name := "stats", help := "Show database statistics" },
      { name := "backup", help := "Create database backup",
        arguments := [Argument.option ["--path"] "path" "Backup file path",
          Argument.flag ["--compress"] "compress" "Compress backup"] },
      { name := "restore", help := "Restore database from backup",
        arguments := [Argument.positional "path" "Backup file path"] },
      { name := "health", help := "Check database health" },
      { name := "query", help := "Execute custom query",
        arguments := [Argument.positional "query" "SQL query to execute",
          Argument.flag ["--analyze"] "analyze" "Analyze query performance"] },
      { name := "optimize", help := "Optimize database tables",
        arguments := [Argument.option ["--table"] "table" "Specific table to optimize (optional)"] },
      { name := "tables", help := "Show table information" },
      { name := "indexes", help := "Show index usage statistics" },
      { name := "setup", help := "Setup database for Docker environment",
        arguments := [Argument.flag ["--create-user"] "create_user" "Create database user",
          Argument.flag ["--create-db"] "create_db" "Create database"]}] }

def infoStyle : JsonStyle := { asciiOnly := true, indent := some 2, itemSep := "," }

def showInfo (b : Backend) (vs : Values) : App Unit := do
  let kvs : List (String × Json) ← Database.info b
  if let .str "json" := vs.find "format" then App.say (Json.renderWith infoStyle (.obj kvs)); return
  App.say "Database Information:"
  let field (k : String) : String := (((kvs.find? fun (key, _) => key == k).map (·.2)).getD Json.null).toText
  for (k, label) in [("engine", "Engine"), ("name", "Name"), ("host", "Host"), ("port", "Port"), ("vendor", "Vendor")] do
    App.say ("  " ++ label ++ ": " ++ field k)
  for (k, label) in [("version", "Version"), ("size", "Size")] do
    if kvs.any (·.1 == k) then App.say ("  " ++ label ++ ": " ++ field k)

def sizeLine (t : Json) : String :=
  ((t.get? "tablename").getD .null).toText ++ ": " ++ ((t.get? "row_count").getD (.str "N/A")).toText ++ " rows"

def statusOf (j : Json) : String := ((j.get? "status").getD .null).toText

def showStats (b : Backend) : App Unit := do
  let s ← stats b
  App.say "Database Statistics:"
  App.say ("  Connection: " ++ statusOf ((s.get? "connection").getD .null))
  let tables := ((s.get? "tables").getD (.arr [])).items
  App.say ("  Tables: " ++ toString tables.length)
  if !tables.isEmpty then
    App.say "  Table Details:"
    for t in tables.take 10 do App.say ("    - " ++ sizeLine t)
  if let some indexes := s.get? "index_usage" then
    App.say ("  Indexes: " ++ toString indexes.items.length)

def createBackup (b : Backend) : App Unit := do
  App.say "Creating database backup..."
  App.say ("Backup failed: " ++ (((backup b).get? "error").getD .null).toText)

def restoreBackup (b : Backend) (vs : Values) : App Unit := do
  let path := (vs.find "path").toText
  if !pathExists path then App.raise "CommandError" ("Backup file not found: " ++ path)
  let confirm ← App.ask ("Are you sure you want to restore from " ++ path ++ "? [y/N]: ")
  if confirm.toLower != "y" then App.say "Restore cancelled"; return
  App.say "Restoring database backup..."
  App.say ("Restore failed: " ++ (((restore b path).get? "error").getD .null).toText)

def checkHealth (b : Backend) : App Unit := do
  App.say "Checking database health..."
  App.say ("  Connection: " ++ statusOf (connectionStatus b))
  if b == .sqlite then
    let integrity := integrityStatus b
    if statusOf integrity == "ok" then App.say "  Integrity: OK"
    else App.say ("  Integrity: " ++ ((integrity.get? "message").getD (.str "Unknown")).toText)

def showRows (rows : List (List (String × Cell))) : App Unit := do
  App.say ("  Rows returned: " ++ toString rows.length)
  let some first := rows.head? | return
  let headers := first.map (·.1)
  App.say ("  " ++ " | ".intercalate headers)
  App.say ("  " ++ "-+-".intercalate (headers.map fun h => String.ofList (List.replicate h.length '-')))
  for row in rows.take 10 do
    let cells := headers.map fun h => ((row.find? (·.1 == h)).map (·.2.toText)).getD ""
    App.say ("  " ++ " | ".intercalate cells)
  if rows.length > 10 then App.say ("  ... and " ++ toString (rows.length - 10) ++ " more rows")

def runQuery (b : Backend) (vs : Values) : App Unit := do
  let query := (vs.find "query").toText
  if (vs.find "analyze").truthy && b == .postgres then
    App.say "Analyzing query..."
    App.say ("Analysis failed: " ++ missingDriver)
  App.say "Executing query..."
  let result ← App.attempt (do
    if b == .postgres then App.fail driverFault
    Database.execute query .null true)
  match result with
  | .ok (.rows rows) => showRows rows
  | .ok (.count n) => App.say ("  Rows affected: " ++ toString n)
  | .error f => App.say ("Query failed: " ++ f.message)

def optimize (b : Backend) (vs : Values) : App Unit := do
  if b == .sqlite then App.say "Database optimization only available for PostgreSQL"; return
  match vs.find "table" with
  | .null => App.say "Optimizing all tables..."
  | t =>
    App.say ("Optimizing table: " ++ t.toText)
    App.fail (Fault.keyError "success")

def showTables (b : Backend) : App Unit := do
  let tables ← tableSizes b
  App.say ("Table Information (" ++ toString tables.length ++ " tables):")
  for t in tables do App.say ("  " ++ sizeLine t)

def showIndexes (b : Backend) : App Unit := do
  if b == .sqlite then App.say "Index statistics only available for PostgreSQL"
  else App.say "Index Usage Statistics (0 indexes):"

def setup (b : Backend) : App Unit := do
  App.say "Setting up Docker database environment..."
  if b == .sqlite then App.say "PostgreSQL configuration required for Docker setup"
  else
    App.say "Cannot connect to database. Make sure PostgreSQL is running."
    App.say "  Try: docker-compose up -d db"

def dbOps (vs : Values) : App Unit := do
  let b : Backend := if (← get).settings.serverDatabase then .postgres else .sqlite
  match vs.find "operation" with
  | .str "info" => showInfo b vs
  | .str "stats" => showStats b
  | .str "backup" => createBackup b
  | .str "restore" => restoreBackup b vs
  | .str "health" => checkHealth b
  | .str "query" => runQuery b vs
  | .str "optimize" => optimize b vs
  | .str "tables" => showTables b
  | .str "indexes" => showIndexes b
  | .str "setup" => setup b
  | _ => App.printRaw (helpText (dbOpsSpec.grammar "manage.py"))

end Command
end Portal
