/-! Which database holds which records. The log lives in a database of its own, `logs`;
every other application's records live in `default`. Reads and writes of log records go
to `logs` and no preference is stated for any other; relations are allowed between any
two records; an application's tables are created only in its own database. -/
namespace Portal
namespace Routing

def logApps : List String := ["auditlog"]

def databaseFor (appLabel : String) : Option String :=
  if logApps.contains appLabel then some "logs" else none

def allowRelation (a b : String) : Option Bool :=
  if logApps.contains a || logApps.contains b then some true
  else if !logApps.contains a && !logApps.contains b then some true
  else none

def allowMigrate (db appLabel : String) : Bool :=
  if logApps.contains appLabel then db == "logs" else db == "default"

end Routing
end Portal
