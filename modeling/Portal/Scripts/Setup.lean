import Portal.Scripts.Basic
import Portal.Migrations.Catalog
/-! The database setup script, run against copies of the deployed databases. Both databases
there are already migrated, so the script only reports that nothing is left to apply and
writes one log entry to prove the log database works. With a new, empty log database the
first migration record it saves fires the audit signal, whose insert into the missing log
table breaks the surrounding transaction: the migration and the check both report that
error, and the script still ends successfully. -/
namespace Portal
namespace Scripts

def migratedApps : String := ", ".intercalate (Migrations.migratedApps.mergeSort (· ≤ ·))

def brokenTransaction : String :=
  "An error occurred in the current transaction. You can't execute queries until the end of the 'atomic' block."

def setupHeader : String :=
  "🚀 Django Blog Database Initialization\n" ++ String.ofList (List.replicate 50 '=') ++ "\n" ++
  "🔧 Setting up logging directories...\n✅ Logs directory created: " ++ scratch ++ "/logs\n" ++
  "✅ Created .gitkeep in logs directory\n\n🔧 Setting up Django environment...\n" ++
  "✅ Django environment configured\n\n🔄 Running database migrations...\n" ++
  "⚠️  Temporarily disabling auditlog signals for migration\n📊 Running migrations for default database...\n" ++
  "Operations to perform:\n  Apply all migrations: " ++ migratedApps ++ "\nRunning migrations:\n" ++
  "  No migrations to apply.\n✅ Default database migrations completed\n" ++
  "📋 Running migrations for logs database...\nOperations to perform:\n  Apply all migrations: " ++
  migratedApps ++ "\nRunning migrations:\n"

def logEntryJson (pk : Nat) (level category message timestamp : String) (objectId : Option Nat)
    (metadata : Json) : Json :=
  .obj [("model", .str "auditlog.SystemLog"), ("pk", .int pk),
    ("str", .str (level ++ ": " ++ category ++ " - " ++ message)), ("id", .int pk), ("level", .str level),
    ("category", .str category), ("message", .str message), ("timestamp", .str timestamp),
    ("user_id", .null), ("object_id", match objectId with
      | some k => .int k
      | none => .null), ("metadata", metadata), ("request_id", .null), ("ip_address", .null),
    ("user_agent", .null)]

def deployedEntries : List Json :=
  let start := "2025-01-01T00:00:00+00:00"
  let n := Migrations.catalog.length
  let created (pk : Nat) (model : String) (k : Nat) : Json :=
    logEntryJson pk "INFO" "audit" ("Created " ++ model ++ " (ID: " ++ toString k ++ ")") start (some k)
      (.obj [("action", .str "create"), ("model", .str model), ("object_id", .int k)])
  [created (2 * n + 1) "Site" 1, created (2 * n) "Migration" n]

def setupAnswer (freshLogs : Bool) (now : String) : Json :=
  let tail := if freshLogs then
      "  Applying contenttypes.0001_initial...❌ Error running logs database migrations: " ++ brokenTransaction ++
      "\n\n🔍 Verifying logging setup...\n⚠️  Logging system verification failed: " ++ brokenTransaction ++
      "\n   (This is not critical - the application will still work)\n"
    else
      "  No migrations to apply.\n✅ Logs database migrations completed\n\n🔍 Verifying logging setup...\n" ++
      "✅ Logging system verified - created test log entry: " ++ toString (2 * Migrations.catalog.length + 2) ++ "\n"
  let logs : Json := if freshLogs then
      .obj [("error", .str "TransactionManagementError"), ("message", .str brokenTransaction)]
    else
      .arr (logEntryJson (2 * Migrations.catalog.length + 2) "INFO" "system" "Database initialization completed successfully" now none (.obj []) ::
        deployedEntries)
  .obj [("exit", .int 0), ("files", .arr [.str "logs/.gitkeep"]), ("logs", logs),
    ("stdout", .str (setupHeader ++ tail ++ "\n🎉 Database initialization completed successfully!\n"))]

end Scripts
end Portal
