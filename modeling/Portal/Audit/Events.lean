import Portal.Audit.Entry
import Portal.Records.Query
/-! The kinds of log entry the application writes on purpose: errors, audit actions,
database operations and security events, with the statistics over all entries and the
removal of old ones. Callers pass loosely typed values; texts are made of them as the
application makes them, and a metadata document that is not an object cannot take the
keys an entry adds to it. -/
namespace Portal
namespace Audit

def faultDoc (f : Fault) : Json := .obj [("type", .str f.kind), ("message", .str f.message)]

def assignKey (doc : Json) (k : String) (v : Json) : Except Fault Json :=
  match doc with
  | .obj kvs => .ok (.obj (Json.setKey kvs k v))
  | .arr _ => .error ⟨"TypeError", "list indices must be integers or slices, not str"⟩
  | other => .error ⟨"TypeError", "'" ++ other.kindName ++ "' object does not support item assignment"⟩

def withMembers (doc : List (String × Json)) (more : List (String × Json)) : Json :=
  .obj (more.foldl (fun acc (k, v) => Json.setKey acc k v) doc)

def orContext (v : Json) (k : String) : App Json :=
  if v.truthy then pure v else App.contextJson k

def capitalize (s : String) : String :=
  match s.toList with
  | [] => ""
  | c :: cs => String.ofList (c.toUpper :: cs.map Char.toLower)

def logError (message : Json) (exception : Option Fault) (userId requestId metadata : Json) :
    App Obj := do
  let mut doc := if metadata.isNull then Json.obj [] else metadata
  if let some f := exception then
    doc ← App.ofExcept (assignKey doc "exception" (faultDoc f))
  let userId ← orContext userId "user_id"
  let requestId ← orContext requestId "request_id"
  App.logEntry {
    level := .text "ERROR", category := .text "error", message := Value.ofJson message,
    userId := Value.ofJson userId, metadata := .ok doc, requestId := Value.ofJson requestId }

def logAuditAction (action modelName objectId userId changes requestId metadata : Json) :
    App Obj := do
  let mut doc := if metadata.isNull then Json.obj [] else metadata
  doc ← App.ofExcept (assignKey doc "action" action)
  doc ← App.ofExcept (assignKey doc "model" modelName)
  if changes.truthy then doc ← App.ofExcept (assignKey doc "changes" changes)
  let userId ← orContext userId "user_id"
  let requestId ← orContext requestId "request_id"
  let verb ← match action with
    | .str s => pure (capitalize s)
    | other => App.raise "AttributeError" ("'" ++ other.kindName ++ "' object has no attribute 'capitalize'")
  App.logEntry {
    level := .text "INFO", category := .text "audit",
    message := .text (verb ++ " " ++ modelName.toText ++ " (ID: " ++ objectId.toText ++ ")"),
    userId := Value.ofJson userId, objectId := Value.ofJson objectId, metadata := .ok doc,
    requestId := Value.ofJson requestId }

def logDatabaseOperation (operationType tableName recordCount userId : Json)
    (more : List (String × Json)) : App Unit := do
  let doc := withMembers [("operation_type", operationType), ("table_name", tableName),
    ("record_count", recordCount)] more
  discard <| App.logEntry {
    level := .text "DEBUG", category := .text "audit",
    message := .text ("Database " ++ operationType.toText ++ " on " ++ tableName.toText ++ ": " ++
      recordCount.toText ++ " records"),
    userId := Value.ofJson userId, metadata := .ok doc }

def securityLevel (severity : Json) : Except Fault String :=
  match severity with
  | .str s => .ok (if ["INFO", "WARN", "ERROR", "CRITICAL"].contains s then s else "INFO")
  | .arr _ | .obj _ => .error ⟨"TypeError", "unhashable type: '" ++ severity.kindName ++ "'"⟩
  | _ => .ok "INFO"

def logSecurityEvent (eventType description severity userId ip userAgent : Json)
    (more : List (String × Json)) : App Unit := do
  let level ← App.ofExcept (securityLevel severity)
  let doc := withMembers [("security_event", .bool true), ("event_type", eventType),
    ("security_severity", severity)] more
  discard <| App.logEntry {
    level := .text level, category := .text "auth",
    message := .text ("Security event - " ++ eventType.toText ++ ": " ++ description.toText),
    userId := Value.ofJson userId, metadata := .ok doc, ip := Value.ofJson ip,
    userAgent := Value.ofJson userAgent }

def stamp (o : Obj) : Option Instant := (o.get "timestamp").asMoment?.map (·.instant)

def since (logs : List Obj) (t : Instant) : Nat :=
  (logs.filter fun o => match stamp o with
    | some s => decide (t ≤ s)
    | none => false).length

def countsBy (logs : List Obj) (field : String) (choices : List (String × String)) : Json :=
  .obj (choices.filterMap fun (c, _) =>
    let n := (logs.filter (·.getText field == c)).length
    if n > 0 then some (c, .int n) else none)

def logStats : App Json := do
  let logs ← App.all .systemLog
  if logs.isEmpty then
    return .obj [("total", .int 0), ("by_level", .obj []), ("by_category", .obj []),
      ("recent_24h", .int 0), ("recent_7d", .int 0)]
  let now ← App.now
  return .obj [("total", .int logs.length),
    ("by_level", countsBy logs "level" Catalog.levelChoices),
    ("by_category", countsBy logs "category" Catalog.categoryChoices),
    ("recent_24h", .int (since logs (now - Instant.day))),
    ("recent_7d", .int (since logs (now - 7 * Instant.day)))]

def checkSpan (span : Int) : Except Fault Int :=
  let days := span.fdiv Instant.day
  if days < -2147483648 ∨ 2147483647 < days then
    .error ⟨"OverflowError", "Python int too large to convert to C int"⟩
  else if days < -999999999 ∨ 999999999 < days then
    .error ⟨"OverflowError", "days=" ++ toString days ++ "; must have magnitude <= 999999999"⟩
  else .ok span

def daysSpan (days : Json) : Except Fault Int :=
  match days with
  | .int n => checkSpan (n * Instant.day)
  | .bool b => .ok (if b then Instant.day else 0)
  | .float f =>
    if f.special.isSome then .error ⟨"ValueError", "cannot convert float NaN to integer"⟩ else
    let scaled : Int := (f.mant : Int) * 86400000000
    let v : Int := if f.exp ≥ 0 then scaled * Int.pow 10 f.exp.toNat else
      let d : Int := Int.pow 10 (-f.exp).toNat
      let q := scaled / d
      let r := scaled % d
      if 2 * r > d || (2 * r == d && q % 2 == 1) then q + 1 else q
    checkSpan (if f.neg then -v else v)
  | other => .error ⟨"TypeError", "unsupported type for timedelta days component: " ++ other.kindName⟩

def earliest : Instant := -62135596800 * Instant.second

def latest : Instant := 253402300800 * Instant.second - 1

def before (t : Instant) (span : Int) : Except Fault Instant :=
  if t - span < earliest ∨ latest < t - span then .error ⟨"OverflowError", "date value out of range"⟩
  else .ok (t - span)

def stampedBefore (cutoff : Instant) (o : Obj) : Bool :=
  match stamp o with
  | some s => decide (s < cutoff)
  | none => false

def ofKind (level category : Json) (o : Obj) : Bool :=
  (!level.truthy || o.getText "level" == level.toText) &&
    (!category.truthy || o.getText "category" == category.toText)

def cleanupOldLogs (daysToKeep level category : Json) : App (Nat × Nat) := do
  let span ← App.ofExcept (daysSpan daysToKeep)
  let cutoff ← App.ofExcept (before (← App.now) span)
  let old := (← App.all .systemLog).filter fun o => stampedBefore cutoff o && ofKind level category o
  let db ← App.db
  App.setDb (old.foldl (fun db o => db.removeRow .systemLog (o.pk.getD 0)) db)
  return (old.length, (← App.all .systemLog).length)

end Audit
end Portal
