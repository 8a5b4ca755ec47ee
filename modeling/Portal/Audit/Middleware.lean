import Portal.Audit.Entry
import Portal.Audit.Events
import Portal.Web.Http
/-! The request log. Every request not skipped gets one `api` entry with its method, full
path, status, content type, duration, body sizes and query; requests slower than the
threshold get a second, earlier entry. Skipped are the configured path prefixes (by
default static files, media and the favicon) together with the health-check paths and the
log's own admin pages, the configured methods (by default OPTIONS and HEAD), and user
agents containing a configured marker (by default three crawlers). The clock does not move
while a request is served, so every duration is 0. -/
namespace Portal
namespace Audit
open Web

def defaultSkipPaths : List String := ["/static/", "/media/", "/favicon.ico"]

def defaultSkipAgents : List String :=
  ["Mozilla/5.0 (compatible; Googlebot/", "Mozilla/5.0 (compatible; bingbot/",
    "Mozilla/5.0 (compatible; YandexBot/"]

def fixedSkipPaths : List String := ["/health/", "/healthz", "/ping/", "/ready/", "/admin/auditlog/"]

def defaultSkipMethods : List String := ["OPTIONS", "HEAD"]

def pathSkipped (o : Overrides) (path : String) : Except Fault Bool := do
  let configured ← match o.skipPaths with
    | none => pure (defaultSkipPaths.map Json.str)
    | some (.arr xs) => pure xs
    | some other => throw ⟨"AttributeError", "'" ++ other.kindName ++ "' object has no attribute 'extend'"⟩
  let rec scan : List Json → Except Fault Bool
    | [] => .ok false
    | .str p :: rest => if path.startsWith p then .ok true else scan rest
    | other :: _ => .error ⟨"TypeError",
        "startswith first arg must be str or a tuple of str, not " ++ other.kindName⟩
  scan (configured ++ fixedSkipPaths.map Json.str)

def methodSkipped (o : Overrides) (method : String) : Except Fault Bool :=
  Json.occursIn method (o.skipMethods.getD (.arr (defaultSkipMethods.map Json.str)))

def agentSkipped (o : Overrides) (agent : String) : Except Fault Bool := do
  let markers ← match o.skipUserAgents with
    | none => pure (defaultSkipAgents.map Json.str)
    | some (.arr xs) => pure xs
    | some (.obj kvs) => pure (kvs.map (Json.str ·.1))
    | some (.str s) => pure (s.toList.map fun c => Json.str c.toString)
    | some other => throw ⟨"TypeError", "'" ++ other.kindName ++ "' object is not iterable"⟩
  let rec scan : List Json → Except Fault Bool
    | [] => .ok false
    | .str m :: rest => do if ← Json.occursIn m (.str agent) then return true else scan rest
    | other :: _ => .error ⟨"TypeError",
        "'in <string>' requires string as left operand, not " ++ other.kindName⟩
  scan markers

def shouldSkip (o : Overrides) (r : Request) : Except Fault Bool := do
  if ← pathSkipped o r.path then return true
  if ← methodSkipped o r.method then return true
  agentSkipped o ((r.header? "HTTP_USER_AGENT").getD "")

def afterSkip (o : Overrides) : Overrides :=
  match o.skipPaths with
  | some (.arr xs) => { o with skipPaths := some (.arr (xs ++ fixedSkipPaths.map Json.str)) }
  | _ => o

def skipDecision (r : Request) : App (Except Fault Bool) := do
  let o := (← get).settings
  modify fun w => { w with settings := afterSkip o }
  return shouldSkip o r

def levelOf (status : Nat) : String :=
  if status ≥ 500 then "ERROR" else if status ≥ 400 then "WARN" else "INFO"

def bodyConsumed (r : Request) : App Bool := do
  return r.multipart && (← get).exchange.formRead

def apiMetadata (r : Request) (resp : Response) : Json :=
  let sizes : List (String × Json) :=
    (if byteSize r.body > 0 then [("request_size", .int (byteSize r.body))] else []) ++
    (if resp.size > 0 then [("response_size", .int resp.size)] else []) ++
    (if r.params.isEmpty then [] else [("query_params", pairsJson r.params)])
  .obj ([("method", .str r.method), ("path", .str r.fullPath),
    ("status_code", .int resp.status), ("content_type", .str resp.contentType),
    ("duration_ms", .int 0)] ++ sizes)

def apiEntry (r : Request) (resp : Response) : App Obj := do
  if ← bodyConsumed r then
    App.raise "RawPostDataException" "You cannot access body after reading from request's data stream"
  let ctx (k : String) := App.contextValue k
  let userId ← ctx "user_id"
  let requestId ← ctx "request_id"
  let ip ← ctx "ip_address"
  let userAgent ← ctx "user_agent"
  App.logEntry {
    level := .text (levelOf resp.status), category := .text "api",
    message := .text (r.method ++ " " ++ r.fullPath ++ " - " ++ toString resp.status),
    userId, metadata := .ok (apiMetadata r resp), requestId, ip, userAgent }

def slowThreshold (o : Overrides) : Except Fault (Option Json) :=
  match o.slowRequestMs with
  | none | some (.bool _) => .ok none
  | some (.int n) => .ok (if n < 0 then some (.int n) else none)
  | some (.float f) =>
    .ok (if f.neg && (f.mant ≠ 0 || f.special == some "-Infinity") then some (.float f) else none)
  | some other => .error ⟨"TypeError",
      "'>' not supported between instances of 'int' and '" ++ other.kindName ++ "'"⟩

def slowEntry (r : Request) (status : Nat) (threshold : Json) : App Obj :=
  App.logEntry {
    level := .text "WARN", category := .text "api",
    message := .text ("Slow request detected: " ++ r.method ++ " " ++ r.path ++ " took 0ms"),
    userId := Value.ofOptNat r.userId?, requestId := Value.ofOptText r.logRequestId,
    metadata := .ok (.obj [("method", .str r.method), ("path", .str r.path),
      ("status_code", .int status), ("duration_ms", .int 0), ("threshold_ms", threshold)]) }

def requestLogging (settings : Overrides) (r : Request) (inner : App Response) : App Response :=
  match shouldSkip settings r with
  | .error f => pure { status := 500, exception := some f }
  | .ok skip => do
    let resp ← inner
    if !skip then App.quietly (discard (apiEntry r resp))
    return resp

def slowLogging (settings : Overrides) (r : Request) (inner : App Response) : App Response := do
  let resp ← inner
  match slowThreshold settings with
  | .ok (some t) =>
    App.quietly (discard (slowEntry r resp.status t))
    return resp
  | .ok none => return resp
  | .error f => return { status := 500, exception := some f }

def clientIp (r : Request) : Option String :=
  match r.header? "HTTP_X_FORWARDED_FOR" with
  | some h => if h.isEmpty then r.remoteAddr else (h.splitOn ",").head?.getD ""
  | none => r.remoteAddr

def sensitivePaths : List String :=
  ["/admin/", "/login/", "/logout/", "/signup/", "/password/", "/api/auth/", "/api/payments/",
    "/api/billing/"]

def sensitivePath (path : String) : Bool := sensitivePaths.any fun p => path.startsWith p

def sensitiveMarkers : List String :=
  ["password", "passwd", "secret", "token", "key", "csrf", "session", "auth", "credit", "card",
    "ssn", "social", "bank", "account"]

def lowerKey (s : String) : String := s.map fun c => if c.toNat = 0x212A then 'k' else c.toLower

def sensitiveKey (k : String) : Bool :=
  let l := lowerKey k
  sensitiveMarkers.any fun m => (l.splitOn m).length > 1

def errorMetadata (r : Request) : Json :=
  let base : List (String × Json) := [("method", .str r.method), ("path", .str r.path),
    ("get_params", pairsJson r.params),
    ("is_ajax", .bool (r.header? "HTTP_X_REQUESTED_WITH" == some "XMLHttpRequest"))]
  if r.method == "POST" && !sensitivePath r.path then
    let safe := (grouped r.form).filterMap fun kv =>
      if sensitiveKey kv.1 then none
      else some (kv.1, Json.str (String.ofList ((kv.2.getLast?.getD "").toList.take 100)))
    .obj (base ++ [("post_data", .obj safe)])
  else .obj base

def errorLayerLocals : List String :=
  ["user_id", "request_id", "metadata", "safe_post_data", "key", "value", "e", "log_error"]

def layerLogError (message : Json) (e : Fault) (userId requestId metadata : Json) : App Unit :=
  if errorLayerLocals.contains "log_error" then
    App.raise "UnboundLocalError"
      "cannot access local variable 'log_error' where it is not associated with a value"
  else discard (logError message (some e) userId requestId metadata)

def errorLogging {α : Type} (r : Request) (inner : App α) : App α := do
  match ← App.attempt inner with
  | .ok a => return a
  | .error e =>
    App.quietly (layerLogError (.str ("Unhandled exception: " ++ e.message)) e
      (Json.optInt (r.userId?.map Int.ofNat)) (Json.optStr r.logRequestId) (errorMetadata r))
    throw e

def withRequestContext {α : Type} (r : Request) (view : App α) : App (String × Except Fault α) := do
  let rid ← App.nextRequestId
  App.setContext [("request_id", .str rid), ("user_id", Json.optInt (r.userId?.map Int.ofNat)),
    ("ip_address", Json.optStr (clientIp r)),
    ("user_agent", .str ((r.header? "HTTP_USER_AGENT").getD ""))]
  let out ← App.attempt view
  App.clearContext
  return (rid, out)

def exceptionEntry (r : Option Request) (exception : Option Fault) : App Unit :=
  match exception with
  | none => pure ()
  | some e => App.quietly do
    let doc : List (String × Json) := match r with
      | some r => [("method", .str r.method), ("path", .str r.path), ("get_params", pairsJson r.params)]
      | none => []
    discard <| logError (.str ("Django exception: " ++ e.kind ++ ": " ++ e.message)) (some e)
      (Json.optInt ((r.bind (·.userId?)).map Int.ofNat)) (Json.optStr (r.bind (·.logRequestId)))
      (.obj doc)

end Audit
end Portal
