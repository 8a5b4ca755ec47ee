import Portal.Admin.ChangeList
import Portal.Admin.ChangeForm
import Portal.Audit.Admin
import Portal.Audit.Events
import Portal.Web.View
import Portal.Accounts.Auth
import Portal.Forms.Basic
/-! The pages of the administration site under `/admin/`. Its addresses resolve in a fixed
order: the index, signing in and out, the password pages, then each registration's list,
adding, history, deletion and change pages, then each application's index, and last a
catch-all. Every page but the sign-in page first requires an active staff member and sends
anyone else to sign in; the pages are never cached. A registration's pages check the
permission they need, and a record that does not exist sends the user back to the index
with a warning. -/
namespace Portal
namespace Admin
open Web

inductive Page where
  | index | login | logout | passwordChange | passwordChangeDone | autocomplete | scripts
  | onSite (rest : String)
  | list (g : Registration)
  | add (g : Registration)
  | history (g : Registration) (id : String)
  | remove (g : Registration) (id : String)
  | change (g : Registration) (id : String)
  | object (g : Registration) (id : String)
  | app (label : String)
  | other (url : String)

def modelPage (g : Registration) (rest : String) : Option Page :=
  let under (suffix : String) : Option String :=
    if rest.endsWith suffix && rest.length > suffix.length then
      some (String.ofList (rest.toList.take (rest.length - suffix.length)))
    else none
  if rest.isEmpty then some (.list g)
  else if rest == "add/" then some (.add g)
  else ((under "/history/").map (.history g)) <|> ((under "/delete/").map (.remove g)) <|>
    ((under "/change/").map (.change g)) <|> ((under "/").map (.object g))

def parse (rest : String) : Page :=
  match rest with
  | "" => .index
  | "login/" => .login
  | "logout/" => .logout
  | "password_change/" => .passwordChange
  | "password_change/done/" => .passwordChangeDone
  | "autocomplete/" => .autocomplete
  | "jsi18n/" => .scripts
  | _ =>
    let onSite := match rest.splitOn "/" with
      | "r" :: ct :: obj :: more =>
        if !ct.isEmpty && ct.all Char.isDigit && !obj.isEmpty && rest.endsWith "/" && !more.isEmpty then
          some (Page.onSite rest)
        else none
      | _ => none
    let ofModel := registrations.findSome? fun g =>
      let pre := g.app ++ "/" ++ g.model ++ "/"
      if rest.startsWith pre then modelPage g (String.ofList (rest.toList.drop pre.length)) else none
    let ofApp := (appLabels.find? fun a => rest == a ++ "/").map Page.app
    (onSite <|> ofModel <|> ofApp).getD (.other rest)

def Page.isOther : Page → Bool
  | .other _ => true
  | _ => false

def neverCache (resp : Response) : Response :=
  resp.withHeader "cache-control" "max-age=0, no-cache, no-store, must-revalidate, private"

def indexTitle : String := "Welcome to Django SaaS Logging Administration"

def base (g : Registration) : String := "/admin/" ++ g.app ++ "/" ++ g.model ++ "/"

def template (g : Registration) (page : String) : String :=
  "admin/" ++ g.app ++ "/" ++ g.model ++ "/" ++ page ++ ".html"

def lookupObject (g : Registration) (id : String) : App (Option Obj) := do
  match g.source, Field.intOfText? id with
  | some e, some k => if k < 0 then pure none else App.find? e k.toNat
  | _, _ => pure none

def missing (g : Registration) (id : String) : App Response := do
  App.message "warning" (g.verbose ++ " with ID “" ++ id ++ "” doesn’t exist. Perhaps it was deleted?")
  return .redirect "/admin/"

def denied {α : Type} : App α := App.raise "PermissionDenied" ""

def permContext (g : Registration) (u : Obj) : List (String × Json) :=
  [("has_add_permission", .bool (allows g u .add)), ("has_change_permission", .bool (allows g u .change)),
    ("has_delete_permission", .bool (allows g u .delete)), ("has_view_permission", .bool (allows g u .view))]

def itemsSelected : String :=
  "Items must be selected in order to perform actions on them. No items have been changed."

def runAction (g : Registration) (u : Obj) (r : Request) (listed : List Obj) : App (Option Response) := do
  let index : Nat := match (r.field? "index").bind Field.intOfText? with
    | some n => if n ≥ 0 then n.toNat else 0
    | none => 0
  let chosen := (valuesOf r.form "action")[index]?
  match chosen with
  | some name =>
    if !(actionsFor g u).contains name then
      App.message "warning" "No action selected."; return none
    let selected := valuesOf r.form "_selected_action"
    let across := match r.field? "select_across" with
      | some v => !v.isEmpty && ! ["false", "0"].contains v.toLower
      | none => false
    if selected.isEmpty && !across then App.message "warning" itemsSelected; return none
    let picked ← if across then pure listed else do
      let keys ← selected.mapM fun s => match Field.intOfText? s with
        | some k => pure k
        | none => App.raise "ValueError" ("Field 'id' expected a number but got " ++ Text.quoteLiteral s ++ ".")
      pure (listed.filter fun o => keys.contains (Int.ofNat (o.pk.getD 0)))
    match name with
    | "mark_as_reviewed" =>
      App.message "info" ("Marked " ++ toString picked.length ++ " log entries as reviewed.")
    | "cleanup_old_logs_action" =>
      let (gone, left) ← Audit.cleanupOldLogs (.int 30) .null .null
      App.message "success" ("Successfully deleted " ++ toString gone ++ " old log entries. " ++
        toString left ++ " log entries remaining.")
    | _ =>
      if (r.field? "post").getD "" == "" then
        return some (← App.render (template g "delete_selected_confirmation") [("title", .str "Are you sure?")])
    return some (.redirect r.fullPath)
  | none => App.message "warning" "No action selected."; return none

def listPage (g : Registration) (u : Obj) (r : Request) : App Response := do
  let extra : List (String × Json) ← if g.source == some .systemLog then do
      let stats ← Audit.logStats
      let field (k : String) : Json := (stats.get? k).getD .null
      pure [("log_stats", stats), ("total_logs", field "total"), ("recent_24h", field "recent_24h"),
        ("recent_7d", field "recent_7d")]
    else pure []
  if !seesList g u then denied
  let some shown ← listing g r.params
    | if r.params.any (·.1 == "e") then
        return neverCache (← App.render "admin/invalid_setup.html" [("title", .str "Database error")])
      else return neverCache (.redirect (quotePath r.path ++ "?e=1"))
  if r.method == "POST" && !(actionsFor g u).isEmpty && !r.form.any (·.1 == "_save") then
    let hasIndex := r.form.any (·.1 == "index")
    let hasSelection := r.form.any (·.1 == "_selected_action")
    let listed := shown.matched
    let mut failed := false
    if hasIndex then
      if hasSelection then
        match ← runAction g u r listed with
        | some resp => return neverCache resp
        | none => failed := true
      else App.message "warning" itemsSelected; failed := true
    else if hasSelection then
      match ← runAction g u r listed with
      | some resp => return neverCache resp
      | none => failed := true
    if failed then return neverCache (.redirect r.fullPath)
  let verb := if allows g u .change then "change" else "view"
  let results ← shown.shown.mapM App.describe
  let cl : Json := .obj [("result_count", .int shown.count), ("full_result_count", .int shown.total),
    ("results", Json.strs results)]
  let resp ← App.render (template g "change_list") ([("cl", cl),
    ("title", .str ("Select " ++ g.verbose ++ " to " ++ verb)),
    ("has_add_permission", .bool (allows g u .add))] ++ extra)
  return neverCache resp

def afterSave (g : Registration) (u : Obj) (r : Request) (added : Bool) (o : Obj) : App Response := do
  let shown := Audit.escapeHtml (← App.describe o)
  let changePath := base g ++ quotePath (toString (o.pk.getD 0)) ++ "/change/"
  let named := if added && !allows g u .change then shown
    else "<a href=\"" ++ quotePath (if added then changePath else r.path) ++ "\">" ++ shown ++ "</a>"
  let done := "The " ++ g.verbose ++ " “" ++ named ++ "” was " ++ (if added then "added" else "changed") ++
    " successfully."
  let posted (k : String) := r.form.any (·.1 == k)
  if posted "_continue" || (added && posted "_saveasnew" && allows g u .change) then
    App.message "success" (done ++ " You may edit it again below.")
    return .redirect (if added then changePath else r.path)
  if posted "_addanother" then
    App.message "success" (done ++ " You may add another " ++ g.verbose ++ " below.")
    return .redirect (if added then r.path else base g ++ "add/")
  App.message "success" done
  return .redirect (base g)

def saveForm (g : Registration) (u : Obj) (r : Request) (stored : Option Obj) : App (Option Response) := do
  let some e := g.source | return none
  if !g.plainForm then return none
  App.readForm
  let out ← readChangeForm g e (Forms.Submitted.ofPairs r.form) (stored.bind (·.pk))
  if !out.valid then return none
  let o ← match stored with
    | some o => pure (applyForm o out)
    | none => do
      let o := applyForm (Obj.fresh e (← App.now)) out
      pure (match g.ownerOnAdd with
        | some f => o.set f (.int (u.pk.getD 0))
        | none => o)
  let saved ← App.save o
  return some (← afterSave g u r stored.isNone saved)

def formPage (g : Registration) (u : Obj) (r : Request) (id : Option String) : App Response := do
  -- a record posted to be saved as new is added, whatever key its address names
  let id := if r.method == "POST" && r.form.any (·.1 == "_saveasnew") then none else id
  match id with
  | none =>
    if !allows g u .add then denied
    if r.method == "POST" then
      if let some resp ← saveForm g u r none then return neverCache resp
    let resp ← App.render ((g.addTemplate).getD (template g "change_form"))
      (("title", .str ("Add " ++ g.verbose)) :: permContext g u)
    return neverCache resp
  | some key =>
    let obj ← lookupObject g key
    let permitted := if r.method == "POST" then allows g u .change else seesList g u
    if !permitted then denied
    let some o := obj | return neverCache (← missing g key)
    if r.method == "POST" then
      if let some resp ← saveForm g u r (some o) then return neverCache resp
    let verb := if allows g u .change then "Change " else "View "
    let resp ← App.render (template g "change_form") (("title", .str (verb ++ g.verbose)) :: permContext g u)
    return neverCache resp

def removePage (g : Registration) (u : Obj) (key : String) : App Response := do
  let obj ← lookupObject g key
  if !allows g u .delete then denied
  let some _ := obj | return neverCache (← missing g key)
  return neverCache (← App.render (template g "delete_confirmation") [("title", .str "Are you sure?")])

def historyPage (g : Registration) (u : Obj) (key : String) : App Response := do
  let obj ← lookupObject g key
  if !seesList g u then denied
  let some o := obj | return neverCache (← missing g key)
  let title := "Change history: " ++ (← App.describe o)
  return neverCache (← App.render (template g "object_history") [("title", .str title)])

def appPage (u : Obj) (label : String) : App Response := do
  let visible := registrations.any fun g => g.app == label && seesList g u
  if !visible then App.notFound "The requested admin page does not exist."
  let resp ← App.render ("admin/" ++ label ++ "/app_index.html") [("title", .str (appName label ++ " administration"))]
  return neverCache resp

def loginMismatch : String :=
  "Please enter the correct username and password for a staff account. Note that both fields may be case-sensitive."

def loginFields : List Forms.FieldSpec :=
  [{ name := "username", kind := .text (some 150) }, { name := "password", kind := .text none }]

def loginPage (r : Request) : App Response := do
  let admitted := (r.user.map admits).getD false
  if r.method == "GET" && admitted then return neverCache (.redirect "/admin/")
  let form (bound : Option Forms.Outcome) : App Response := do
    let _ := bound
    return neverCache (← App.render "admin/login.html" [("title", .str "Log in")])
  match r.method with
  | "POST" | "PUT" =>
    App.readForm
    let o ← Forms.readAll loginFields (Forms.Submitted.ofPairs r.form) fun _ _ v => pure (.ok v)
    if !o.valid then return ← form (some o)
    let origin : Accounts.Origin := { ip := r.remoteAddr, agent := (r.header? "HTTP_USER_AGENT").getD "" }
    match ← Accounts.authenticate (o.text "username") (o.text "password") with
    | some u =>
      if !u.getBool "is_staff" then return ← form (some (o.addError "__all__" loginMismatch))
      Accounts.signedIn u (some origin)
      Accounts.startSession (← App.load .user (u.pk.getD 0))
      let next := match r.field? "next" <|> r.param? "next" with
        | some n => if n.startsWith "/" && !n.startsWith "//" then some n else none
        | none => none
      return neverCache (.redirect (next.getD "/dashboard"))
    | none =>
      Accounts.attemptFailed (.str (o.text "username")) (some origin)
      form (some (o.addError "__all__" loginMismatch))
  | "GET" | "HEAD" => form none
  | "OPTIONS" => return neverCache (.options ["GET", "POST", "PUT", "HEAD", "OPTIONS"])
  | _ => return neverCache (.notAllowed ["GET", "POST", "PUT", "HEAD", "OPTIONS"])

def logoutPage (u : Obj) (r : Request) : App Response := do
  match r.method with
  | "POST" =>
    Accounts.signedOut u (some { ip := r.remoteAddr, agent := (r.header? "HTTP_USER_AGENT").getD "" })
    Accounts.endSession
    return neverCache (.redirect "/")
  | "OPTIONS" => return neverCache (.options ["POST", "OPTIONS"])
  | _ => return neverCache (.notAllowed ["POST", "OPTIONS"])

def otherPage (r : Request) (url : String) : App Response := do
  if !url.endsWith "/" && !(parse (url ++ "/")).isOther then
    return neverCache (.permanent (r.path ++ "/"))
  App.notFound ""

def Page.viewName : Page → String
  | .index => "django.contrib.admin.sites.index"
  | .login => "django.contrib.admin.sites.login"
  | .logout => "django.contrib.admin.sites.logout"
  | .passwordChange => "django.contrib.admin.sites.password_change"
  | .passwordChangeDone => "django.contrib.admin.sites.password_change_done"
  | .autocomplete => "django.contrib.admin.sites.autocomplete_view"
  | .scripts => "django.contrib.admin.sites.i18n_javascript"
  | .onSite _ => "django.contrib.contenttypes.views.shortcut"
  | .list _ => "django.contrib.admin.options.changelist_view"
  | .add _ => "django.contrib.admin.options.add_view"
  | .history _ _ => "django.contrib.admin.options.history_view"
  | .remove _ _ => "django.contrib.admin.options.delete_view"
  | .change _ _ => "django.contrib.admin.options.change_view"
  | .object _ _ => "django.views.generic.base.RedirectView"
  | .app _ => "django.contrib.admin.sites.app_index"
  | .other _ => "django.contrib.admin.sites.catch_all_view"

def serve (r : Request) (rest : String) : App Response := do
  let page := parse rest
  if let .login := page then return ← loginPage r
  match r.user with
  | some u =>
    if admits u then
      match page with
      | .index => return neverCache (← App.render "admin/index.html" [("title", .str indexTitle)])
      | .login => loginPage r
      | .logout => logoutPage u r
      | .passwordChange =>
        return neverCache (← App.render "registration/password_change_form.html" [("title", .str "Password change")])
      | .passwordChangeDone =>
        return neverCache (← App.render "registration/password_change_done.html"
          [("title", .str "Password change successful")])
      | .autocomplete => denied
      | .scripts => return { status := 200, contentType := "text/javascript; charset=utf-8", pageSize := some 4096 }
      | .onSite _ => App.notFound ""
      | .list g => listPage g u r
      | .add g => formPage g u r none
      | .change g key => formPage g u r (some key)
      | .remove g key => removePage g u key
      | .history g key => historyPage g u key
      | .object g key => return neverCache (.redirect (base g ++ quotePath key ++ "/change/"))
      | .app label => appPage u label
      | .other url => otherPage r url
    else refuseVisitor r page
  | none => refuseVisitor r page
where
  refuseVisitor (r : Request) (page : Page) : App Response :=
    let resp : Response := match page with
      | .logout => .redirect "/admin/"
      | _ => .redirect ("/admin/login/?next=" ++ quoteKeepSlash r.fullPath)
    match page with
    | .scripts => pure resp
    | _ => pure (neverCache resp)

end Admin
end Portal
