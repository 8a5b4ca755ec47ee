import Portal.Console.Keywords
import Portal.Console.Web
import Portal.Audit.Operations
import Portal.Audit.Handler
import Portal.Audit.Middleware
/-! Calls into the log: writing entries of every kind, the request context, log records,
the request middlewares on requests built from a description, and the signals that log
exceptions and sign-ins. Each call binds its named arguments as the operation declares
them and answers what the operation returns. -/
namespace Portal
namespace Console
open Web

def callerModule : String := "oracle"

def exceptionClasses : List String :=
  ["Exception", "ValueError", "KeyError", "TypeError", "RuntimeError", "ZeroDivisionError",
    "PermissionError", "LookupError"]

def exceptionOf (spec : Json) : App Fault := do
  let kind := (spec.getStr? "type").getD "Exception"
  if !exceptionClasses.contains kind then refuse "unknown exception type"
  let msg := (spec.get? "message").getD (.str "")
  return ⟨kind, if kind == "KeyError" then msg.literal else msg.toText⟩

def exceptionOpt (spec : Option Json) : App (Option Fault) :=
  match spec with
  | none | some .null => pure none
  | some s => some <$> exceptionOf s

def faultJson' (f : Fault) : Json := .obj [("error", .str f.kind), ("message", .str f.message)]

def userNamed (name : String) : App Obj := do
  match (← App.all .user).find? (·.getText "username" == name) with
  | some u => pure u
  | none => App.fail (Fault.doesNotExist "User")

def builtRequest (args : Json) : App Request := do
  let method := ((args.getStr? "method").getD "GET").map Char.toUpper
  let path := (args.getStr? "path").getD "/"
  let headers := ((args.get? "headers").map Json.members).getD [] |>.map fun (k, v) =>
    (headerName k, v.toText)
  let params ← dataPairs "in a query string" ((args.get? "query").getD (.obj []))
  let form ← dataPairs "as POST data" ((args.get? "data").getD (.obj []))
  let remoteAddr := match args.get? "remote_addr" with
    | none => some "127.0.0.1"
    | some .null => none
    | some v => some v.toText
  let user ← match args.get? "user" with
    | some (.str name) => some <$> userNamed name
    | _ => pure none
  let logRequestId := (args.get? "log_request_id").bind fun v => if v.isNull then none else some v.toText
  return {
    method, path, params, query := encodePairs params, form := if method == "POST" then form else [],
    headers, remoteAddr, user, logRequestId }

def createLogEntrySig : Signature :=
  { name := "create_log_entry", params := [⟨"level", none⟩, ⟨"category", none⟩, ⟨"message", none⟩,
      ⟨"user_id", some .null⟩, ⟨"object_id", some .null⟩, ⟨"metadata", some .null⟩,
      ⟨"request_id", some .null⟩, ⟨"ip_address", some .null⟩, ⟨"user_agent", some .null⟩] }

def logErrorSig : Signature :=
  { name := "log_error", params := [⟨"message", none⟩, ⟨"exception", some .null⟩,
      ⟨"user_id", some .null⟩, ⟨"request_id", some .null⟩, ⟨"metadata", some .null⟩] }

def logAuditActionSig : Signature :=
  { name := "log_audit_action", params := [⟨"action", none⟩, ⟨"model_name", none⟩,
      ⟨"object_id", none⟩, ⟨"user_id", some .null⟩, ⟨"changes", some .null⟩,
      ⟨"request_id", some .null⟩, ⟨"metadata", some .null⟩] }

def cleanupSig : Signature :=
  { name := "cleanup_old_logs", params := [⟨"days_to_keep", some (.int 30)⟩, ⟨"level", some .null⟩,
      ⟨"category", some .null⟩] }

def databaseOperationSig : Signature :=
  { name := "log_database_operation", params := [⟨"operation_type", none⟩, ⟨"table_name", none⟩,
      ⟨"record_count", some (.int 1)⟩, ⟨"user_id", some .null⟩], rest := true }

def securityEventSig : Signature :=
  { name := "log_security_event", params := [⟨"event_type", none⟩, ⟨"description", none⟩,
      ⟨"severity", some (.str "INFO")⟩, ⟨"user_id", some .null⟩, ⟨"ip_address", some .null⟩,
      ⟨"user_agent", some .null⟩], rest := true }

def functionCallSig : Signature :=
  { name := "log_function_call", params := [⟨"level", some (.str "DEBUG")⟩,
      ⟨"category", some (.str "system")⟩, ⟨"include_args", some (.bool false)⟩,
      ⟨"include_result", some (.bool false)⟩] }

def operationSig : Signature :=
  { name := "log_operation", params := [⟨"operation_name", none⟩, ⟨"level", some (.str "INFO")⟩,
      ⟨"category", some (.str "audit")⟩, ⟨"user_id", some .null⟩] }

def operationLogSig : Signature :=
  { name := "OperationLogger.__init__", params := [⟨"operation_name", none⟩,
      ⟨"user_id", some .null⟩, ⟨"request_id", some .null⟩] }

def logStepSig : Signature :=
  { name := "OperationLogger.log_step", params := [⟨"step_name", none⟩, ⟨"message", none⟩,
      ⟨"level", some (.str "INFO")⟩, ⟨"metadata", some .null⟩] }

def completeSig : Signature :=
  { name := "OperationLogger.complete", params := [⟨"success", some (.bool true)⟩,
      ⟨"final_metadata", some .null⟩] }

def contextSig : Signature :=
  { name := "set_request_context", params := [⟨"request_id", some .null⟩, ⟨"user_id", some .null⟩,
      ⟨"ip_address", some .null⟩, ⟨"user_agent", some .null⟩] }

def handlerSig : Signature :=
  { name := "DatabaseLogHandler.__init__", params := [⟨"level", some (.int 0)⟩,
      ⟨"default_category", some (.str "system")⟩] }

def levelNameOf (j : Json) : App String :=
  match j with
  | .str "DEBUG" => pure "DEBUG"
  | .str "INFO" => pure "INFO"
  | .str "WARNING" | .str "WARN" => pure "WARNING"
  | .str "ERROR" => pure "ERROR"
  | .str "CRITICAL" | .str "FATAL" => pure "CRITICAL"
  | .str "NOTSET" => pure "NOTSET"
  | .int n => pure (match n with
    | 0 => "NOTSET" | 10 => "DEBUG" | 20 => "INFO" | 30 => "WARNING" | 40 => "ERROR"
    | 50 => "CRITICAL" | _ => "Level " ++ toString n)
  | _ => refuse "unknown level"

def noArgs (name : String) (args : Json) : App Unit := do
  discard <| bindArgs { name, params := [] } args

def recordOf (args : Json) : App Audit.LogRecord := do
  let levelName ← levelNameOf ((args.get? "level").getD (.str "INFO"))
  return {
    levelName, msg := (args.get? "msg").getD (.str ""), args := (args.getArr? "args").getD [],
    lineno := (args.get? "lineno").getD (.int 1), func := (args.get? "func").getD (.str "fn"),
    module := (args.get? "module").getD (.str callerModule),
    extra := (args.getObj? "extra").getD [],
    unwritable := ((args.getArr? "unserializable_extra").getD []).map Json.toText,
    exc := ← exceptionOpt (args.get? "exc"), created := ← App.now, thread := 0, process := 0 }

def auditCall (fn : String) (step args : Json) : Option (App Json) :=
  match fn with
  | "create_log_entry" => some do
    let b ← bindArgs createLogEntrySig args
    let o ← App.logEntry {
      level := Value.ofJson (b.arg "level"), category := Value.ofJson (b.arg "category"),
      message := Value.ofJson (b.arg "message"), userId := Value.ofJson (b.arg "user_id"),
      objectId := Value.ofJson (b.arg "object_id"), metadata := .ok (b.arg "metadata"),
      requestId := Value.ofJson (b.arg "request_id"), ip := Value.ofJson (b.arg "ip_address"),
      userAgent := Value.ofJson (b.arg "user_agent") }
    App.fullJson o
  | "log_error" => some do
    let b ← bindArgs logErrorSig args
    let exc ← exceptionOpt (some (b.arg "exception"))
    App.fullJson (← Audit.logError (b.arg "message") exc (b.arg "user_id") (b.arg "request_id")
      (b.arg "metadata"))
  | "log_audit_action" => some do
    let b ← bindArgs logAuditActionSig args
    App.fullJson (← Audit.logAuditAction (b.arg "action") (b.arg "model_name") (b.arg "object_id")
      (b.arg "user_id") (b.arg "changes") (b.arg "request_id") (b.arg "metadata"))
  | "get_log_stats" => some do
    noArgs "get_log_stats" args
    Audit.logStats
  | "cleanup_old_logs" => some do
    let b ← bindArgs cleanupSig args
    let (gone, left) ← Audit.cleanupOldLogs (b.arg "days_to_keep") (b.arg "level") (b.arg "category")
    return .arr [.int gone, .int left]
  | "log_database_operation" => some do
    let b ← bindArgs databaseOperationSig args
    Audit.logDatabaseOperation (b.arg "operation_type") (b.arg "table_name") (b.arg "record_count")
      (b.arg "user_id") b.extra
    return .null
  | "log_security_event" => some do
    let b ← bindArgs securityEventSig args
    Audit.logSecurityEvent (b.arg "event_type") (b.arg "description") (b.arg "severity")
      (b.arg "user_id") (b.arg "ip_address") (b.arg "user_agent") b.extra
    return .null
  | "log_function_call" => some do
    let b ← bindArgs functionCallSig ((step.get? "options").getD (.obj []))
    let callArgs := (step.getArr? "call_args").getD []
    let callKwargs := (step.getObj? "call_kwargs").getD []
    let raised ← exceptionOpt ((Json.obj callKwargs).get? "raise")
    let opts : Audit.CallLogging := {
      level := b.arg "level", category := b.arg "category",
      includeArgs := (b.arg "include_args").truthy, includeResult := (b.arg "include_result").truthy }
    let body : App Json := match raised with
      | some f => App.fail f
      | none => pure (.obj [("args", .arr callArgs), ("kwargs", .obj callKwargs)])
    Audit.logFunctionCall opts (callerModule ++ ".target_function") callerModule callArgs callKwargs body
  | "log_operation" => some do
    let b ← bindArgs operationSig args
    let raised ← exceptionOpt (step.get? "raise")
    -- the block answers the id it is given, or raises what it is asked to
    Audit.logOperation (b.arg "operation_name") (b.arg "level") (b.arg "category") (b.arg "user_id")
      fun opId => match raised with
        | some f => App.fail f
        | none => pure (Json.str opId)
  | "operation_logger" => some do
    let b ← bindArgs operationLogSig args
    let mut op : Audit.OperationLog :=
      { name := b.arg "operation_name", userId := b.arg "user_id", requestId := b.arg "request_id" }
    for s in (step.getArr? "steps").getD [] do
      let sb ← bindArgs logStepSig s
      op ← op.logStep (sb.arg "step_name") (sb.arg "message") (sb.arg "level") (sb.arg "metadata")
    if (step.get? "complete").getD (.bool true) |>.truthy then
      let cb ← bindArgs completeSig ((step.get? "complete_args").getD (.obj []))
      let result ← op.complete (cb.arg "success") (cb.arg "final_metadata")
      return .obj [("result", result), ("steps", .arr op.steps)]
    return .obj [("steps", .arr op.steps)]
  | "set_request_context" => some do
    let b ← bindArgs contextSig args
    App.setContext b.values
    return .null
  | "get_request_context" => some do
    noArgs "get_request_context" args
    return .obj (← get).context
  | "clear_request_context" => some do
    noArgs "clear_request_context" args
    App.clearContext
    return .null
  | "log_record" => some do
    let hb ← bindArgs handlerSig ((step.get? "handler").getD (.obj []))
    let r ← recordOf args
    Audit.emit (hb.arg "default_category") ((step.get? "formatter").getD (.bool false) |>.truthy) r
    return .null
  | "handlers.request_middleware" => some do
    let r ← builtRequest args
    let raised ← exceptionOpt (args.get? "raise")
    -- The view reports the context it runs in, then raises what it is asked to.
    let (rid, out) ← Audit.withRequestContext r (do return Json.obj (← get).context)
    let during := match out with
      | .ok d => d
      | .error _ => Json.obj []
    let raisedJson := match raised with
      | some f => faultJson' f
      | none => Json.null
    return .obj [("context_during", during), ("context_after", .obj (← get).context),
      ("log_request_id", .str rid), ("raised", raisedJson)]
  | "mw.should_skip_request" => some do
    let r ← builtRequest args
    return .bool (← App.ofExcept (← Audit.skipDecision r))
  | "mw.get_client_ip" => some do
    return Json.optStr (Audit.clientIp (← builtRequest args))
  | "mw.is_sensitive_path" => some do
    let b ← bindArgs { name := "ErrorLoggingMiddleware.is_sensitive_path", params := [⟨"path", none⟩] } args
    match b.arg "path" with
    | .str p => return .bool (Audit.sensitivePath p)
    | other => App.raise "AttributeError" ("'" ++ other.kindName ++ "' object has no attribute 'startswith'")
  | "mw.is_sensitive_key" => some do
    let b ← bindArgs { name := "ErrorLoggingMiddleware.is_sensitive_key", params := [⟨"key", none⟩] } args
    match b.arg "key" with
    | .str k => return .bool (Audit.sensitiveKey k)
    | other => App.raise "AttributeError" ("'" ++ other.kindName ++ "' object has no attribute 'lower'")
  | "mw.error_logging" => some do
    let r ← builtRequest args
    let f ← match ← exceptionOpt (args.get? "exception") with
      | some f => pure f
      | none => pure ⟨"RuntimeError", "boom"⟩
    -- The view raises the exception asked for; the layer's answer is what reaches the caller.
    match ← App.attempt (Audit.errorLogging r (App.fail f : App Unit)) with
    | .ok _ => return .null
    | .error g => return .obj [("raised", .str g.kind), ("message", .str g.message)]
  | "mw.performance" => some do
    let r ← builtRequest args
    let status := match args.get? "status" with
      | some (.int n) => n.toNat
      | _ => 200
    match ← App.ofExcept (Audit.slowThreshold (← get).settings) with
    | some t => App.quietly (discard (Audit.slowEntry r status t))
    | none => pure ()
    return .obj [("status", .int status)]
  | "signals.log_django_exception" => some do
    let r ← if args.get? "request" == some (.bool false) then pure none else some <$> builtRequest args
    Audit.exceptionEntry r (← exceptionOpt (args.get? "exception"))
    return .null
  | "signals.auth" => some do
    let withRequest := args.get? "request" != some (.bool false)
    let origin : Option Accounts.Origin := if withRequest then
        some { ip := match args.get? "remote_addr" with
                 | none => some "127.0.0.1"
                 | some .null => none
                 | some v => some v.toText
               agent := ((args.getObj? "headers").getD [] |>.find? (fun (k, _) => headerName k == "HTTP_USER_AGENT")
                 |>.map (·.2.toText)).getD "" }
      else none
    let user ← match args.get? "username" with
      | some (.str name) => some <$> userNamed name
      | _ => pure none
    match args.getStr? "signal" with
    | some "user_logged_in" =>
      match user with
      | some u => Accounts.signedIn u origin
      | none => App.raise "AttributeError" "'NoneType' object has no attribute 'last_login'"
    | some "user_logged_out" =>
      match user with
      | some u => Accounts.signedOut u origin
      | none => pure ()
    | some "user_login_failed" =>
      match (args.get? "credentials").getD (.obj []) with
      | .obj kvs => Accounts.attemptFailed (((kvs.find? (·.1 == "username")).map (·.2)).getD (.str "unknown")) origin
      | _ => pure ()
    | _ => refuse "unknown signal"
    return .null
  | _ => none

end Console
end Portal
