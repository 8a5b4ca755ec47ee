import Portal.Database.Cursor
import Portal.Store.Columns
/-! The database utilities: what the configured database is, how many rows each table holds,
whether the connection works, copies of the database file, and the indexes a model might want.
The application runs on an in-memory database, so there is no file to copy or measure. It may
instead be configured for a server database whose driver is not installed; then every use of
the connection fails with the driver's loading error, and each utility either reports that
error or lets it through. -/
namespace Portal
namespace Database

inductive Backend where
  | sqlite
  | postgres
  deriving DecidableEq, Inhabited

structure Settings where
  engine : String
  name : String
  host : String
  port : String
  deriving Inhabited

def Backend.settings : Backend → Settings
  | .sqlite => ⟨"django.db.backends.sqlite3", ":memory:", "", ""⟩
  | .postgres => ⟨"django.db.backends.postgresql", "djangobase", "localhost", "5432"⟩

def Backend.vendor : Backend → String
  | .sqlite => "sqlite"
  | .postgres => "postgresql"

def missingDriver : String := "Error loading psycopg2 or psycopg module"

def driverFault : Fault := ⟨"ImproperlyConfigured", missingDriver⟩

def noSuchFile (path : String) : String := "[Errno 2] No such file or directory: " ++ Text.quoteLiteral path

def hostPaths : List String :=
  ["/", "/bin", "/boot", "/dev", "/dev/null", "/dev/zero", "/dev/random", "/dev/urandom", "/etc",
    "/etc/hostname", "/etc/hosts", "/etc/passwd", "/etc/group", "/etc/shadow", "/etc/resolv.conf",
    "/etc/os-release", "/home", "/lib", "/media", "/mnt", "/opt", "/proc", "/root", "/run", "/sbin",
    "/srv", "/sys", "/tmp", "/usr", "/usr/bin", "/usr/lib", "/usr/local", "/var", "/var/log",
    "/var/tmp", ".", "..", "./", "manage.py"]

def pathExists (path : String) : Bool :=
  let trimmed := if path.length > 1 && path.endsWith "/" then String.ofList path.toList.dropLast else path
  hostPaths.contains path || hostPaths.contains trimmed

def firstValue (rows : List (List (String × Cell))) : Cell :=
  ((rows.head?.bind List.head?).map (·.2)).getD .none

def sqliteInfo : App (List (String × Json)) := do
  let version ← fetchRows "SELECT sqlite_version();"
  let count ← fetchRows "SELECT count(*) FROM sqlite_master WHERE type='table';"
  return [("version", .str ("SQLite " ++ (firstValue version).toText)), ("size", .str "0.00 MB"),
    ("table_count", (firstValue count).toJson), ("is_sqlite", .bool true), ("path", .str ":memory:")]

def info (b : Backend) : App (List (String × Json)) := do
  let s := b.settings
  let base : List (String × Json) := [("engine", .str s.engine), ("name", .str s.name),
    ("host", .str s.host), ("port", .str s.port), ("vendor", .str b.vendor)]
  match b with
  | .postgres => return base ++ [("error", .str missingDriver)]
  | .sqlite =>
    match ← App.attempt sqliteInfo with
    | .ok kvs => return base ++ kvs
    | .error f => return base ++ [("error", .str f.message)]

def countStatement (name : String) : String := "SELECT COUNT(*) FROM " ++ name ++ ";"

def countCell (counted : Except Fault (List (List (String × Cell)))) : Option Cell :=
  match counted with
  | .ok (row :: _) => (row.find? fun (k, _) => k == "COUNT(*)").map (·.2)
  | _ => none

def sizeEntry (name : String) : Option Cell → Json
  | some c => .obj [("tablename", .str name), ("row_count", c.toJson), ("estimated_size", .str "N/A (SQLite)")]
  | none => .obj [("tablename", .str name), ("row_count", .str "N/A"), ("estimated_size", .str "N/A")]

def tableSize (name : String) : App Json := do
  let counted ← App.attempt (fetchRows (countStatement name))
  return sizeEntry name (countCell counted)

def schemaStatement : String := "SELECT name FROM sqlite_master WHERE type='table';"

def listedName (row : List (String × Cell)) : String := ((row.find? (·.1 == "name")).map (·.2.toText)).getD ""

def tableSizes (b : Backend) : App (List Json) := do
  match b with
  | .postgres => return []
  | .sqlite =>
    match ← App.attempt (fetchRows schemaStatement) with
    | .error _ => return []
    | .ok tables => tables.mapM fun row => tableSize (listedName row)

def connectionStatus : Backend → Json
  | .sqlite => .obj [("status", .str "healthy"), ("message", .str "Database connection is working")]
  | .postgres => .obj [("status", .str "unhealthy"), ("error", .str missingDriver),
      ("message", .str "Database connection failed")]

def integrityStatus : Backend → Json
  | .sqlite => .obj [("status", .str "ok"), ("message", .str "ok")]
  | .postgres => .obj [("message", .str "Table integrity check not applicable for PostgreSQL")]

def stats (b : Backend) : App Json := do
  let base : List (String × Json) := [("connection", connectionStatus b), ("info", .obj (← info b)),
    ("tables", .arr (← tableSizes b))]
  return .obj (base ++ match b with
    | .sqlite => [("integrity", integrityStatus b)]
    | .postgres => [("index_usage", .arr []), ("slow_queries", .arr [])])

def backup (b : Backend) : Json :=
  .obj [("success", .bool false), ("error", .str (match b with
    | .sqlite => noSuchFile ":memory:"
    | .postgres => noSuchFile "pg_dump"))]

def restore (b : Backend) (path : String) : Json :=
  .obj [("success", .bool false), ("error", .str (match b with
    | .sqlite => noSuchFile path
    | .postgres => noSuchFile "pg_restore"))]

def wantsIndex (f : Field) : Bool :=
  !f.hasIndex && ["CharField", "TextField", "DateField", "DateTimeField"].contains f.internalType

def analyzeModel (m : Model) : Json :=
  let fieldJson (f : Field) : Json :=
    .obj [("name", .str f.name), ("type", .str f.internalType), ("indexed", .bool f.hasIndex),
      ("foreign_key", match f.manyToOne with
        | some b => .bool b
        | none => .null)]
  let suggestion (f : Field) : Json :=
    .obj [("type", .str "field_index"), ("field", .str f.name),
      ("suggestion", .str ("Consider indexing " ++ f.name ++ " if frequently queried")),
      ("sql", .str ("CREATE INDEX CONCURRENTLY idx_" ++ m.table ++ "_" ++ f.name ++ " ON " ++ m.table ++
        " (" ++ f.name ++ ");"))]
  .obj [("model", .str m.name.toLower), ("table", .str m.table), ("fields", .arr (m.fields.map fieldJson)),
    ("suggestions", .arr ((m.fields.filter wantsIndex).map suggestion))]

end Database
end Portal
