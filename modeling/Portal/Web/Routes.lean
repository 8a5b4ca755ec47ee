import Portal.Store.Schema
/-! The site's address space. A path resolves to at most one page; the page carries what
its path captured. Patterns are tried in the order the site lists them, and a pattern must
match the whole path: `blog/article/create/` is therefore the article page of the slug
`create`, the pattern listed before the creation page. A slug is ASCII letters, digits,
`-` and `_`; a number is ASCII digits. -/
namespace Portal
namespace Web

inductive LandingPage where
  | home | pricing | features
  deriving Repr, BEq, Inhabited

inductive AccountPage where
  | login | logout | signup
  deriving Repr, BEq, Inhabited

inductive BlogPage where
  | index
  | article (slug : String)
  | create
  | edit (slug : String)
  | like (slug : String)
  | category (slug : String)
  | tag (slug : String)
  | search
  | featured
  deriving Repr, BEq, Inhabited

inductive DashboardPage where
  | home | profile | settings | apiKey | plans
  | subscribe (plan : String)
  | cancel | trial
  deriving Repr, BEq, Inhabited

inductive BillingPage where
  | index | checkout | webhook
  deriving Repr, BEq, Inhabited

inductive TaskPage where
  | index
  | detail (pk : Nat)
  | create
  | edit (pk : Nat)
  | remove (pk : Nat)
  | share (pk : Nat)
  | comment (pk : Nat)
  | shared
  | lists
  | listDetail (pk : Nat)
  deriving Repr, BEq, Inhabited

inductive Route where
  | admin (segments : List String)
  | account (p : AccountPage)
  | health
  | landing (p : LandingPage)
  | blog (p : BlogPage)
  | dashboard (p : DashboardPage)
  | billing (p : BillingPage)
  | tasks (b : Board) (p : TaskPage)
  | static (file : String)
  deriving Repr, BEq, Inhabited

def isSlug (s : String) : Bool :=
  !s.isEmpty && s.toList.all fun c => (c.isAlphanum && c.toNat < 128) || c == '-' || c == '_'

def number? (s : String) : Option Nat :=
  if !s.isEmpty && s.toList.all (fun c => '0' ≤ c && c ≤ '9') then some (Nat.ofDigitChars 10 s.toList 0)
  else none

def landingPage : List String → Option LandingPage
  | [""] => some .home
  | ["pricing", ""] => some .pricing
  | ["features", ""] => some .features
  | _ => none

def accountPage : List String → Option AccountPage
  | ["login", ""] => some .login
  | ["logout", ""] => some .logout
  | ["signup", ""] => some .signup
  | _ => none

def blogPage : List String → Option BlogPage
  | [""] => some .index
  | ["article", s, ""] => if isSlug s then some (.article s) else none
  | ["article", s, "edit", ""] => if isSlug s then some (.edit s) else none
  | ["article", s, "like", ""] => if isSlug s then some (.like s) else none
  | ["category", s, ""] => if isSlug s then some (.category s) else none
  | ["category", s, "articles", ""] => if isSlug s then some (.category s) else none
  | ["tag", s, ""] => if isSlug s then some (.tag s) else none
  | ["tag", s, "articles", ""] => if isSlug s then some (.tag s) else none
  | ["search", ""] => some .search
  | ["featured", ""] => some .featured
  | _ => none

def dashboardPage : List String → Option DashboardPage
  | [""] => some .home
  | ["profile", ""] => some .profile
  | ["settings", ""] => some .settings
  | ["settings", "generate-api-key", ""] => some .apiKey
  | ["subscription", "plans", ""] => some .plans
  | ["subscription", "plans", s, "subscribe", ""] => if isSlug s then some (.subscribe s) else none
  | ["subscription", "cancel", ""] => some .cancel
  | ["subscription", "trial", ""] => some .trial
  | _ => none

def billingPage : List String → Option BillingPage
  | [""] => some .index
  | ["create", ""] => some .checkout
  | ["webhook", ""] => some .webhook
  | _ => none

def taskPage : List String → Option TaskPage
  | [""] => some .index
  | ["task", "create", ""] => some .create
  | ["task", n, ""] => (number? n).map .detail
  | ["task", n, "edit", ""] => (number? n).map .edit
  | ["task", n, "delete", ""] => (number? n).map .remove
  | ["task", n, "share", ""] => (number? n).map .share
  | ["task", n, "comment", ""] => (number? n).map .comment
  | ["shared-tasks", ""] => some .shared
  | ["lists", ""] => some .lists
  | ["lists", n, ""] => (number? n).map .listDetail
  | _ => none

def segments (cs : List Char) : List String := (cs.splitOn '/').map String.ofList

def resolveSegments (segs : List String) : Option Route :=
  let under (p : String) : Option (List String) :=
    match segs with
    | s :: rest => if s == p && !rest.isEmpty then some rest else none
    | [] => none
  let tryAll : List (Option Route) :=
    [(under "admin").map .admin,
     ((under "accounts").bind accountPage).map .account,
     if segs == ["health", ""] then some .health else none,
     (landingPage segs).map .landing,
     ((under "blog").bind blogPage).map .blog,
     ((under "dashboard").bind dashboardPage).map .dashboard,
     ((under "subscriptions").bind billingPage).map .billing,
     ((under "tasks").bind taskPage).map (.tasks .todo),
     (under "static").map fun rest => .static ("/".intercalate rest),
     ((under "todo-tasks").bind taskPage).map (.tasks .todoTasks)]
  (tryAll.find? Option.isSome).join

def resolve (path : String) : Option Route :=
  match path.toList with
  | '/' :: cs => resolveSegments (segments cs)
  | _ => none

end Web
end Portal
