import Portal.Console.Web
import Portal.Web.Site
/-! Requests that reach the application the way a server hands them over, rather than
through the test client: forgery protection applies, the session travels as a cookie, and
the answer is the response as it leaves the outermost layer, headers included. The
application a server runs was assembled at startup, so the slow-request threshold it
compares with is the one configured then, and an input's own threshold does not reach it.

Every response leaves with the security headers; all but a late slash redirect also carry
the frame denial; one whose session was consulted varies with the cookie, and so does one
that issues a new forgery cookie. Cookies set on the way out are listed by name. -/
namespace Portal
namespace Console
open Web

def encodedTexts : Json → List String
  | .str s => [s]
  | .arr xs => xs.map Json.toText
  | .obj kvs => kvs.map (·.1)
  | v => [v.toText]

def encodeMapping : Json → String
  | .str s => s
  | other => encodePairs (other.members.flatMap fun (k, v) => (encodedTexts v).map (k, ·))

def wireRequest (step : Json) : App Request := do
  let method := (step.getStr? "method").getD "GET"
  let rawPath ← needStr step "path"
  let (path, pathQuery) := match rawPath.splitOn "?" with
    | p :: q :: rest => (p, "?".intercalate (q :: rest))
    | _ => (rawPath, "")
  let query := ((step.get? "query").map encodeMapping).getD pathQuery
  let given := ((step.get? "headers").map Json.members).getD [] |>.map fun (k, v) =>
    (headerName k, v.toText)
  let (body, defaultType) : String × Option String := match step.get? "data", step.get? "body" with
    | some d, _ => (encodeMapping d, some "application/x-www-form-urlencoded")
    | none, some b => (b.toText, none)
    | none, none => ("", none)
  let headers := match defaultType with
    | some ct => if given.any (·.1 == "CONTENT_TYPE") then given else given ++ [("CONTENT_TYPE", ct)]
    | none => given
  let contentType := ((headers.find? (·.1 == "CONTENT_TYPE")).map (·.2)).getD ""
  let withSession := ((step.get? "session").map Json.truthy).getD true
  let user ← if withSession then Accounts.sessionUser else pure none
  let form := if method == "POST" && contentType.startsWith "application/x-www-form-urlencoded" then
    parsePairs body else []
  let remoteAddr := (step.getStr? "remote_addr").getD "127.0.0.1"
  return { method, path := unquote false path, query, params := parsePairs query, form, body,
           contentType, headers, remoteAddr := some remoteAddr, user, enforceCsrf := true }

def sessionStale : App Bool := do
  match (← get).login with
  | none => return false
  | some (pk, pw) =>
    match ← App.find? .user pk with
    | some u => return u.getBool "is_active" && u.getText "password" != pw
    | none => return false

def securityHeaders : List (String × String) :=
  [("cross-origin-opener-policy", "same-origin"), ("referrer-policy", "same-origin"),
    ("x-content-type-options", "nosniff")]

def wireHeaders (resp : Response) (vary : Bool) : List (String × String) :=
  let own := resp.headers.filter fun (k, _) => k != "content-length"
  let frame := if resp.lateRedirect then [] else [("x-frame-options", "DENY")]
  let varies := if vary then [("vary", "Cookie")] else []
  let all := [("content-type", resp.contentType)] ++ own ++ securityHeaders ++ frame ++ varies
  all.mergeSort fun a b => decide (a.1 ≤ b.1)

def wireAnswer (r : Request) (resp : Response) (ex : Exchange) (flushed : Bool) : Json :=
  let renewed := r.csrfCookieRenewed && !resp.lateRedirect
  let cookies := (if renewed then ["csrftoken"] else []) ++
    (if !ex.messages.isEmpty && !resp.lateRedirect then ["messages"] else []) ++
    (if flushed then ["sessionid"] else [])
  let headers := wireHeaders resp (ex.sessionRead || renewed)
  let content : List (String × Json) :=
    if resp.pageSize.isSome || resp.exception.isSome then [("body_omitted", .bool true)]
    else if resp.contentType.startsWith "application/json" then
      [("json", (Json.parse resp.body).toOption.getD (.str resp.body))]
    else if resp.body.length ≤ 300 then [("body", .str resp.body)]
    else [("body_omitted", .bool true)]
  .obj ([("status", .int resp.status), ("headers", .obj (headers.map fun (k, v) => (k, .str v)))] ++
    (if cookies.isEmpty then [] else [("set_cookies", Json.strs (cookies.mergeSort fun a b => decide (a ≤ b)))]) ++
    content)

def wireStep (step : Json) : App Json := do
  let withSession := ((step.get? "session").map Json.truthy).getD true
  let stale ← if withSession then sessionStale else pure false
  let r ← wireRequest step
  modify fun w => { w with exchange := {} }
  let settings := (← get).settings
  modify fun w => { w with settings := Audit.afterSkip settings }
  let resp ← Web.handleWith { settings with slowRequestMs := none } r
  let ex := (← get).exchange
  return wireAnswer r resp ex (stale && ex.sessionRead)

end Console
end Portal
