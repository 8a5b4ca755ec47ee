import Portal.Web.Routes
import Portal.Web.Csrf
import Portal.Web.View
import Portal.Audit.Middleware
import Portal.Audit.Admin
import Portal.Landing.Views
import Portal.Blog.Views
import Portal.Tasks.Views
import Portal.Dashboard.Views
import Portal.Billing.Views
import Portal.Accounts.Pages
import Portal.Admin.Pages
/-! A request through the whole site. The page is resolved and its view run; a view that
ends in "not found" answers 404 with its reason, one that is refused answers 403, and any
other failure answers 500 with the failure. Around the view: the slow-request entry, the
request-log entry, and the redirect of a slash-less address that only exists with a slash.
Pages of the debug server are not kept, only their sizes, which depend on the addresses
involved. -/
namespace Portal
namespace Web

def taskViewName : TaskPage → String
  | .index => "task_list"
  | .detail _ => "task_detail"
  | .create => "task_create"
  | .edit _ => "task_edit"
  | .remove _ => "task_delete"
  | .share _ => "share_task"
  | .comment _ => "add_comment"
  | .shared => "my_shared_tasks"
  | .lists => "task_lists"
  | .listDetail _ => "task_list_detail"

def viewName : Route → String
  | .admin segs => (Admin.parse ("/".intercalate segs)).viewName
  | .account .login => "allauth.account.views.LoginView"
  | .account .logout => "allauth.account.views.LogoutView"
  | .account .signup => "allauth.account.views.SignupView"
  | .health => "core.urls.<lambda>"
  | .landing .home => "apps.landing.views.home"
  | .landing .pricing => "apps.landing.views.pricing"
  | .landing .features => "apps.landing.views.features"
  | .blog .index => "apps.blog.views.ArticleListView"
  | .blog .featured => "apps.blog.views.ArticleListView"
  | .blog (.article _) => "apps.blog.views.ArticleDetailView"
  | .blog .create => "apps.blog.views.ArticleCreateView"
  | .blog (.edit _) => "apps.blog.views.ArticleUpdateView"
  | .blog (.like _) => "apps.blog.views.like_article"
  | .blog (.category _) => "apps.blog.views.CategoryDetailView"
  | .blog (.tag _) => "apps.blog.views.TagDetailView"
  | .blog .search => "apps.blog.views.search_articles"
  | .dashboard .home => "apps.dashboard.views.dashboard_home"
  | .dashboard .profile => "apps.dashboard.views.profile"
  | .dashboard .settings => "apps.dashboard.views.settings"
  | .dashboard .apiKey => "apps.dashboard.views.generate_api_key"
  | .dashboard .plans => "apps.dashboard.views.subscription_plans"
  | .dashboard (.subscribe _) => "apps.dashboard.views.subscribe_to_plan"
  | .dashboard .cancel => "apps.dashboard.views.cancel_subscription"
  | .dashboard .trial => "apps.dashboard.views.start_trial"
  | .billing .index => "apps.subscriptions.views.subscription_page"
  | .billing .checkout => "apps.subscriptions.views.create_subscription"
  | .billing .webhook => "apps.subscriptions.views.stripe_webhook"
  | .tasks .todo p => "plugins.todo.views." ++ taskViewName p
  | .tasks .todoTasks p => "apps.todo_tasks.views." ++ taskViewName p
  | .static _ => "django.views.static.serve"

def serve (r : Request) : Route → App Response
  | .landing p => Landing.page r p
  | .blog p => Blog.page r p
  | .tasks b p => Tasks.page b r p
  | .dashboard p => Dashboard.page r p
  | .billing p => Billing.page r p
  | .account p => Accounts.page r p
  | .admin segs => Admin.serve r ("/".intercalate segs)
  | .health => pure (.text "OK")
  | .static _ => App.raise "TypeError" "expected str, bytes or os.PathLike object, not NoneType"

def absoluteUri (r : Request) : String := "http://testserver" ++ r.fullPath

def shownUri (r : Request) : String := Audit.escapeHtml (absoluteUri r)

def missPage (r : Request) : Response :=
  { status := 404, pageSize := some (3572 + 2 * byteSize r.path + byteSize (shownUri r)) }

def notFoundPage (r : Request) (route : Route) (reason : String) : Response :=
  let view := viewName route
  { status := 404, notFound := some ⟨view, reason⟩
    pageSize := some (3069 + byteSize r.path + (byteSize r.path - 1) + byteSize (shownUri r) +
      byteSize (Audit.escapeHtml reason) + byteSize view) }

def failurePage (r : Request) (route : Route) (f : Fault) : App Response :=
  if f.kind == "Http404" then pure (notFoundPage r route f.message)
  else if f.kind == "PermissionDenied" then App.render "403.html" [] 403
  else pure { status := 500, exception := some f }

def readsUserFirst : Route → Bool
  | .admin _ | .account _ | .dashboard _ | .tasks _ _ => true
  | .billing p => p != .webhook
  | .blog p => match p with
    | .create | .edit _ | .like _ => true
    | _ => false
  | _ => false

def csrfExempt : Route → Bool
  | .billing .webhook => true
  | _ => false

def respond (r : Request) : App Response := do
  match resolve r.path with
  | none => return missPage r
  | some route =>
    if r.enforceCsrf && !safeMethod r.method && !csrfExempt route && (csrfRefusal r).isSome then
      return { status := 403, body := "ok", rendered := true }
    if readsUserFirst route then App.readSession
    match ← App.attempt (serve r route) with
    | .ok resp => return resp
    | .error f => failurePage r route f

def appendSlash (r : Request) (resp : Response) : App Response :=
  if resp.status == 404 && !r.path.endsWith "/" && (resolve r.path).isNone &&
      (resolve (r.path ++ "/")).isSome then
    let target := quotePath r.path ++ "/" ++ (if r.query.isEmpty then "" else "?" ++ quoteQuery r.query)
    if ["POST", "PUT", "PATCH"].contains r.method then
      App.raise "RuntimeError" ("You called this URL via " ++ r.method ++
        ", but the URL doesn't end in a slash and you have APPEND_SLASH set. Django can't " ++
        "redirect to the slash URL while maintaining " ++ r.method ++ " data. Change your " ++
        "form to point to testserver" ++ target ++ " (note the trailing slash), or set " ++
        "APPEND_SLASH=False in your Django settings.")
    else pure { Response.permanent target with lateRedirect := true }
  else pure resp

def handleWith (settings : Overrides) (r : Request) : App Response := do
  let resp ← Audit.requestLogging settings r
    (Audit.errorLogging r (Audit.slowLogging settings r (respond r)))
  match ← App.attempt (appendSlash r resp) with
  | .ok resp => return resp
  | .error f => return { status := 500, exception := some f }

def handle (r : Request) : App Response := do
  let settings := (← get).settings
  modify fun w => { w with settings := Audit.afterSkip settings }
  handleWith settings r

end Web
end Portal
