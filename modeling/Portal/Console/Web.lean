import Portal.Console.Input
import Portal.Json.Read
import Portal.Web.Site
import Portal.Blog.Views
import Portal.Tasks.Views
import Portal.Accounts.Auth
/-! Steps that go through the site as a browser client would: requests, and signing the
client's session in and out. A request's data becomes its query for GET and its body
otherwise: form-encoded by default, JSON or multipart on request, or a raw body as given.
The client's session persists across the steps of an input. -/
namespace Portal
namespace Console
open Web

def dataTexts (key : String) (where_ : String) (v : Json) : App (List String) := do
  let msg := "Cannot encode None for key " ++ Text.quoteLiteral key ++ " " ++ where_ ++
      ". Did you mean to pass an empty string or omit the value?"
  match v with
  | .null => App.raise "TypeError" msg
  | .arr xs => xs.mapM fun x => if x.isNull then App.raise "TypeError" msg else pure x.toText
  | .obj kvs => pure (kvs.map (·.1))
  | other => pure [other.toText]

def dataPairs (where_ : String) (data : Json) : App (List (String × String)) := do
  let groups ← data.members.mapM fun (k, v) => do
    let vs ← dataTexts k where_ v
    pure (vs.map (k, ·))
  return groups.flatten

def headerName (h : String) : String :=
  let n := (h.map fun c => if c == '-' then '_' else c.toUpper)
  if n == "CONTENT_TYPE" || n == "CONTENT_LENGTH" then n else "HTTP_" ++ n

def buildRequest (step : Json) : App Request := do
  let method := (step.getStr? "method").getD "GET"
  if ! ["GET", "POST", "PUT", "PATCH", "DELETE", "HEAD", "OPTIONS"].contains method then
    refuse "bad method"
  let rawPath ← needStr step "path"
  let (path, pathQuery) := match rawPath.splitOn "?" with
    | p :: q :: rest => (p, "?".intercalate (q :: rest))
    | _ => (rawPath, "")
  let path := unquote false path
  let headers := ((step.get? "headers").map Json.members).getD [] |>.map fun (k, v) =>
    (headerName k, v.toText)
  let user ← Accounts.sessionUser
  let data := (step.get? "data").getD (.obj [])
  let base : Request := { method, path, query := pathQuery, headers, user }
  let r ← if method == "GET" then do
      let q := encodePairs (← dataPairs "in a query string" data)
      pure { base with query := if q.isEmpty then pathQuery else q }
    else if method == "HEAD" || method == "OPTIONS" then pure base
    else match step.get? "body" with
      | some b =>
        let ct := (step.getStr? "content_type").getD "application/json"
        pure { base with body := b.toText, contentType := ct }
      | none =>
        match (step.getStr? "format").getD "form" with
        | "json" =>
          let body := data.renderWith .ascii
          pure { base with body, contentType := "application/json" }
        | "multipart" =>
          let pairs ← dataPairs "as POST data" data
          let body := multipartBody pairs
          pure { base with body, form := pairs, multipart := true
                           contentType := "multipart/form-data; boundary=" ++ boundary }
        | _ =>
          let body := encodePairs (← dataPairs "in a query string" data)
          pure { base with body, form := parsePairs body
                           contentType := "application/x-www-form-urlencoded" }
  let r := { r with params := parsePairs r.query }
  let r := if r.body.isEmpty then { r with contentType := "" } else r
  let r := match r.header? "CONTENT_TYPE" with
    | some ct => { r with contentType := ct }
    | none => r
  -- Only a POST's body is read as form fields, and only an encoded or multipart one.
  let formBody := r.method == "POST" &&
    (r.contentType.startsWith "application/x-www-form-urlencoded" ||
      r.contentType.startsWith "multipart/form-data")
  return if formBody then r else { r with form := [] }

def hiddenKeys : List String :=
  ["request", "user", "perms", "messages", "DEFAULT_MESSAGE_LEVELS", "csrf_token", "view",
    "True", "False", "None", "block", "forloop"]

def adminKeys : List String :=
  ["cl", "log_stats", "total_logs", "recent_24h", "recent_7d", "title", "has_add_permission",
    "has_change_permission", "has_delete_permission", "has_view_permission"]

def contextJson (path : String) (ctx : Json) : Json :=
  let kvs := ctx.members.filter fun (k, _) =>
    !hiddenKeys.contains k && (!path.startsWith "/admin/" || adminKeys.contains k)
  .obj (kvs.mergeSort fun a b => decide (a.1 ≤ b.1))

def messagesJson (ms : List (String × String)) : List (String × Json) :=
  if ms.isEmpty then [] else [("messages", .arr (ms.map fun (l, t) => Json.strs [l, t]))]

def responseJson (r : Request) (resp : Response) (ex : Exchange) : Json :=
  let loc := match resp.location with
    | some l => [("location", Json.str l)]
    | none => []
  let shown : List (String × Json) :=
    if !ex.templates.isEmpty then
      [("templates", Json.strs ex.templates), ("context", contextJson r.path (ex.context.getD (.obj [])))]
    else if resp.status == 404 || resp.status == 500 then []
    else if resp.contentType.startsWith "application/json" then
      [("json", (Json.parse resp.body).toOption.getD (.str resp.body))]
    else [("body", .str resp.body)]
  let nf := match resp.notFound with
    | some n => [("not_found", Json.obj [("view", .str n.view), ("reason", .str n.reason)])]
    | none => []
  let exc := match resp.exception with
    | some f => [("exception", Json.obj [("error", .str f.kind), ("message", .str f.message)])]
    | none => []
  .obj ([("status", .int resp.status)] ++ loc ++ shown ++ nf ++ exc ++ messagesJson ex.messages)

def requestStep (step : Json) : App Json := do
  let r ← buildRequest step
  modify fun w => { w with exchange := {} }
  let resp ← Web.handle r
  return responseJson r resp (← get).exchange

def viewStep (step : Json) : App Json := do
  let name ← needStr step "view"
  let step := if step.has "path" then step else step.set "path" (.str "/")
  let r ← buildRequest step
  let kwargs := ((step.get? "kwargs").map Json.members).getD [] |>.map fun (k, v) => (k, v.toText)
  modify fun w => { w with exchange := {} }
  let resp ← match name with
    | "blog.ArticleCreateView" => Blog.createPage r
    | "blog.ArticleListView" => Blog.listPage r kwargs
    | _ => refuse "unknown view"
  let ex := (← get).exchange
  let loc := match resp.location with
    | some l => [("location", Json.str l)]
    | none => []
  let tpl := if resp.templateNames.isEmpty then [] else
    [("template", Json.strs resp.templateNames), ("context", contextJson r.path (ex.context.getD (.obj [])))]
  return .obj ([("status", .int resp.status)] ++ loc ++ tpl ++ messagesJson ex.messages)

def formOf (name : String) : Option (List Forms.FieldSpec × (Forms.Submitted → Option Nat → App Forms.Outcome)) :=
  let plain (fields : List Forms.FieldSpec) : List Forms.FieldSpec × (Forms.Submitted → Option Nat → App Forms.Outcome) :=
    (fields, fun data _ => Forms.readAll fields data Tasks.noCheck)
  let board := match name.splitOn "." with
    | ["todo", f] => some f
    | ["todo_tasks", f] => some f
    | _ => none
  match name, board with
  | "blog.ArticleForm", _ => some (plain Blog.articleFields)
  | "blog.CommentForm", _ => some (plain Blog.commentFields)
  | _, some "TaskForm" => some (plain Tasks.taskFields)
  | _, some "TaskCommentForm" => some (plain Tasks.commentFields)
  | _, some "TaskListForm" => some (plain Tasks.listFields)
  | _, some "TaskFilterForm" => some (plain Tasks.filterFields)
  | _, some "TaskShareForm" => some (Tasks.shareFields, Tasks.readShare)
  | _, _ => none

def formStep (step : Json) : App Json := do
  let name ← needStr step "form"
  let some (fields, read) := formOf name | refuse ("unknown form: " ++ name)
  let data : Forms.Submitted := ((step.get? "data").map Json.members).getD [] |>.map fun (k, v) =>
    (k, if v.isNull then none else some v.toText)
  let sharer ← match step.get? "request_user" with
    | some (.str u) => do
      match (← App.all .user).find? (·.getText "username" == u) with
      | some o => pure o.pk
      | none => App.fail (Fault.doesNotExist "User")
    | _ => pure none
  let o ← read data sharer
  return .obj [("valid", .bool o.valid),
    ("errors", .obj (o.errors.map fun (k, ms) => (k, Json.strs ms))),
    ("cleaned_data", ← Forms.cleanedJson fields o),
    ("labels", .obj (fields.map fun f => (f.name, Json.optStr f.label)))]

def namedUser (step : Json) : App Obj := do
  let name ← needStr step "username"
  match (← App.all .user).find? (·.getText "username" == name) with
  | some u => pure u
  | none => App.fail (Fault.doesNotExist "User")

def loginStep (step : Json) : App Json := do
  let u ← namedUser step
  Accounts.signedIn u (some {})
  Accounts.startSession (← App.load .user (u.pk.getD 0))
  return .obj [("ok", .bool true)]

def loginPasswordStep (step : Json) : App Json := do
  let name ← needStr step "username"
  let pw ← needStr step "password"
  match ← Accounts.authenticate name pw with
  | some u =>
    Accounts.signedIn u (some {})
    Accounts.startSession (← App.load .user (u.pk.getD 0))
    return .obj [("ok", .bool true)]
  | none => return .obj [("ok", .bool false)]

def logoutStep : App Json := do
  match ← Accounts.sessionUser with
  | some u => Accounts.signedOut u (some {})
  | none => pure ()
  Accounts.endSession
  return .obj [("ok", .bool true)]

end Console
end Portal
