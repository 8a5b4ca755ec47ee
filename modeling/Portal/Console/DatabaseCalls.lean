import Portal.Console.Input
import Portal.Database.Maintenance
/-! Calls into the database utilities, against the in-memory database or, for one step, the
server database whose driver is missing. -/
namespace Portal
namespace Console

open Database

def backendNow : App Backend := do
  return if (← get).settings.serverDatabase then .postgres else .sqlite

def rawQuery (b : Backend) (args : Json) : App Json := do
  let query ← needStr args "query"
  if b == .postgres then App.fail driverFault
  let params := (args.get? "params").getD .null
  let fetch := ((args.get? "fetch").map Json.truthy).getD true
  return (← Database.execute query params fetch).toJson

def databaseCall (fn : String) (args : Json) : Option (App Json) :=
  let onServer (act : Backend → App Json) : Option (App Json) := some do act (← backendNow)
  match fn with
  | "db.analyze_model_queries" => some do
    let label ← needStr args "model"
    match Entity.ofLabel? label with
    | some e => return analyzeModel e.model
    | none => refuse s!"unknown model: {label}"
  | "db.suggest_indexes" => onServer fun b => if b == .postgres then App.fail driverFault else pure (.arr [])
  | "db.check_connection" => onServer fun b => pure (connectionStatus b)
  | "db.check_table_integrity" => onServer fun b => pure (integrityStatus b)
  | "db.get_database_stats" => onServer stats
  | "db.get_database_info" => onServer fun b => do return .obj (← info b)
  | "db.get_table_sizes" => onServer fun b => do return .arr (← tableSizes b)
  | "db.get_index_usage" | "db.get_slow_queries" => some (pure (.arr []))
  | "db.create_backup" => onServer fun b => pure (backup b)
  | "db.restore_backup" => onServer fun b => do
    let path ← needStr args "backup_path"
    if pathExists path then refuse "restore only from a path that does not exist"
    return restore b path
  | "db.transaction_scope" => onServer fun b =>
    if b == .postgres then App.fail driverFault
    else App.raise "AttributeError" "'DatabaseWrapper' object has no attribute 'atomic'"
  | "db.execute_raw_query" => onServer fun b => rawQuery b args
  | "db.analyze_query_performance" => onServer fun b => do
    discard (need args "query")
    return .obj [("error", .str (if b == .postgres then missingDriver else "Query analysis only available for PostgreSQL"))]
  | "db.optimize_table" => onServer fun b => do
    discard (need args "table_name")
    return .obj [("error", .str (if b == .postgres then missingDriver else "Table optimization only available for PostgreSQL"))]
  | _ => none

end Console
end Portal
