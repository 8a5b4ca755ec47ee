import Portal.Web.Routes
import Portal.World
import Portal.Json.Literal
/-! Addresses written from URL names. The site's code names a page by its URL name and the
arguments its pattern takes, and reversing the name writes that pattern's address. It fails
with `NoReverseMatch` where no pattern carries the name, as for the bare `subscription_page`,
which the subscriptions app registers only inside its own namespace, and where the
pattern's converter refuses an argument, as a slug pattern refuses the empty slug. -/
namespace Portal
namespace Web

inductive PageName where
  | articleList
  | articleDetail (slug : String)
  | articleCreate
  | categoryDetail (slug : String)
  | search
  | taskList (b : Board)
  | taskDetail (b : Board) (pk : Nat)
  | taskLists (b : Board)
  | profile
  | settings
  | subscriptionPlans
  | subscriptionPage
  | userChange (pk : Nat)
  deriving Repr, DecidableEq

namespace PageName

def boardRoot : Board → String
  | .todo => "tasks"
  | .todoTasks => "todo-tasks"

def segments : PageName → List String
  | articleList => ["blog", ""]
  | articleDetail s => ["blog", "article", s, ""]
  | articleCreate => ["blog", "article", "create", ""]
  | categoryDetail s => ["blog", "category", s, ""]
  | search => ["blog", "search", ""]
  | taskList b => [boardRoot b, ""]
  | taskDetail b pk => [boardRoot b, "task", toString pk, ""]
  | taskLists b => [boardRoot b, "lists", ""]
  | profile => ["dashboard", "profile", ""]
  | settings => ["dashboard", "settings", ""]
  | subscriptionPlans => ["dashboard", "subscription", "plans", ""]
  | subscriptionPage => ["subscriptions", ""]
  | userChange pk => ["admin", "auth", "user", toString pk, "change", ""]

def path (n : PageName) : String := "/" ++ "/".intercalate n.segments

def page : PageName → Route
  | articleList => .blog .index
  | articleDetail s => .blog (.article s)
  | articleCreate => .blog .create
  | categoryDetail s => .blog (.category s)
  | search => .blog .search
  | taskList b => .tasks b .index
  | taskDetail b pk => .tasks b (.detail pk)
  | taskLists b => .tasks b .lists
  | profile => .dashboard .profile
  | settings => .dashboard .settings
  | subscriptionPlans => .dashboard .plans
  | subscriptionPage => .billing .index
  | userChange pk => .admin ["auth", "user", toString pk, "change", ""]

end PageName

def slugMiss (name pattern slug : String) : Fault :=
  ⟨"NoReverseMatch", s!"Reverse for '{name}' with keyword arguments '\x7b'slug': {Text.quoteLiteral slug}\x7d' not found. 1 pattern(s) tried: ['{pattern}(?P<slug>[-a-zA-Z0-9_]+)/\\\\Z']"⟩

def reverse : PageName → Except Fault String
  | .articleDetail s =>
    if isSlug s then .ok (PageName.articleDetail s).path else .error (slugMiss "article_detail" "blog/article/" s)
  | .categoryDetail s =>
    if isSlug s then .ok (PageName.categoryDetail s).path
    else .error (slugMiss "category_detail" "blog/category/" s)
  | .subscriptionPage =>
    .error ⟨"NoReverseMatch",
      "Reverse for 'subscription_page' not found. 'subscription_page' is not a valid view function or pattern name."⟩
  | n => .ok n.path

end Web
end Portal
