import Portal.Blog.Basic
import Portal.Blog.Forms
import Portal.Web.View
import Portal.Web.Routes
/-! The blog's pages. The list shows published articles newest first, six to a page,
narrowed by a search text (title, content, excerpt or a tag's name, ignoring ASCII case)
and by `featured=true`; category and tag pages list their published articles the same
way. An article's page counts a view each time it is shown and takes comments from
signed-in readers, replies included. Writing and editing articles needs a signed-in
author. -/
namespace Portal
namespace Blog
open Web

def published : App (List Obj) := App.select .article [("status", .str "published")] true

def tagNames (a : Obj) : App (List String) := do
  let db ← App.db
  let tags := db.linkedFrom Catalog.tagArticles (a.pk.getD 0)
  return (← App.all .tag).filter (fun t => tags.contains (t.pk.getD 0)) |>.map (·.getText "name")

def containsFolded (hay needle : String) : Bool :=
  Value.passes .icontains (.text hay) (.text needle)

def matchesSearch (q : String) (a : Obj) : App Bool := do
  if ["title", "content", "excerpt"].any (fun f => containsFolded (a.getText f) q) then return true
  return (← tagNames a).any (containsFolded · q)

def filterM (xs : List Obj) (p : Obj → App Bool) : App (List Obj) :=
  xs.foldlM (fun acc x => do return if ← p x then acc ++ [x] else acc) []

def categoriesInUse : App (List Obj) := do
  let articles ← App.all .article
  let cats ← App.select .category [] true
  return cats.filter fun c => articles.any fun a => (a.get "category").asNat? == c.pk

def tagsInUse : App (List Obj) := do
  let db ← App.db
  let tags ← App.select .tag [] true
  return tags.filter fun t => !(db.linked Catalog.tagArticles (t.pk.getD 0)).isEmpty

def listMethods : List String := ["GET", "HEAD", "OPTIONS"]

def articleListNames : List String := ["blog/article_list.html", "blog/article_list.html"]

def articleListing (r : Request) (kwargs : List (String × String)) : App (List Obj) := do
  let mut xs ← published
  match r.param? "q" with
  | some q => if !q.isEmpty then xs ← filterM xs (matchesSearch q)
  | none => pure ()
  if let some slug := (kwargs.find? (·.1 == "category_slug")).map (·.2) then
    if !slug.isEmpty then
      let cats := (← App.all .category).filter (·.getText "slug" == slug) |>.filterMap (·.pk)
      xs := xs.filter fun a => match (a.get "category").asNat? with
        | some k => cats.contains k
        | none => false
  if let some slug := (kwargs.find? (·.1 == "tag_slug")).map (·.2) then
    if !slug.isEmpty then
      let db ← App.db
      let tags := (← App.all .tag).filter (·.getText "slug" == slug) |>.filterMap (·.pk)
      xs := xs.filter fun a => tags.any fun t => (db.linked Catalog.tagArticles t).contains (a.pk.getD 0)
  if r.param? "featured" == some "true" then xs := xs.filter (·.getBool "is_featured")
  return xs

def listPage (r : Request) (kwargs : List (String × String)) : App Response := do
  let q := r.param? "q"
  let xs ← articleListing r kwargs
  let categorySlug := (kwargs.find? (·.1 == "category_slug")).map (·.2)
  let tagSlug := (kwargs.find? (·.1 == "tag_slug")).map (·.2)
  let page ← paginate xs 6 (r.param? "page")
  let featured := ((← published).filter (·.getBool "is_featured")).take 3
  let ctx := (← pageContext page "articles") ++
    [("categories", ← App.refs (← categoriesInUse)),
     ("tags", ← App.refs ((← tagsInUse).take 20)),
     ("featured_articles", ← App.refs featured),
     ("current_category", Json.optStr categorySlug),
     ("current_tag", Json.optStr tagSlug),
     ("search_query", .str (q.getD ""))]
  App.renderAs articleListNames ctx

def shownArticle (slug : String) : App Obj := do
  let a ← App.getOr404 .article fun a => a.getText "slug" == slug && a.getText "status" == "published"
  let views := ((a.get "views_count").asNat?).getD 0
  App.save (a.set "views_count" (.int (views + 1))) (some ["views_count"])

def detailContext (a : Obj) (form : Json) : App (List (String × Json)) := do
  let comments := (← App.select .comment [("article", .int (a.pk.getD 0)), ("is_approved", .bool true),
    ("parent__isnull", .bool true)] true)
  let related := ((← published).filter fun o =>
    (o.get "category").asNat? == (a.get "category").asNat? && o.pk != a.pk).take 3
  let ref ← App.refJson a
  return [("object", ref), ("article", ref), ("form", form), ("comments", ← App.refs comments),
    ("related_articles", ← App.refs related)]

def detailNames : List String := ["blog/article_detail.html", "blog/article_detail.html"]

def replyTo (r : Request) (a : Obj) : App (Option Obj) := do
  match r.field? "parent_id" with
  | some pid =>
    if pid.isEmpty then return none
    let key ← keyArg pid
    let parent ← App.getOr404 .comment fun p =>
      some (p.pk.getD 0) == key && (p.get "article").asNat? == a.pk
    return some parent
  | none => return none

def commentOn (a u : Obj) (content : String) (parent : Option Obj) (now : Instant) : Obj :=
  let c := (((Obj.fresh .comment now).set "content" (.text content)).set "article" (Value.ofOptNat a.pk)).set
    "author" (Value.ofOptNat u.pk)
  match parent with
  | some p => c.set "parent" (Value.ofOptNat p.pk)
  | none => c

def postComment (r : Request) (a u : Obj) (o : Forms.Outcome) : App Response := do
  let now ← App.now
  let parent ← replyTo r a
  discard <| App.save (commentOn a u (o.text "content") parent now)
  App.message "success" "Your comment has been posted successfully!"
  return .redirect (← App.ofExcept (reverse (.articleDetail (a.getText "slug"))))

def commentForm (r : Request) (a : Obj) : App Response := do
  App.readForm
  let o ← readComment (Forms.Submitted.ofPairs r.form)
  -- The user is looked at only once the comment is known to be valid.
  if o.valid then App.readSession
  match r.user with
  | some u =>
    if o.valid then postComment r a u o
    else
      App.renderAs detailNames (← detailContext a (Forms.summary "CommentForm" commentFields (some o)))
  | none => App.renderAs detailNames (← detailContext a (Forms.summary "CommentForm" commentFields (some o)))

def articlePage (r : Request) (slug : String) : App Response := do
  if r.method == "POST" then commentForm r (← shownArticle slug)
  else if r.method == "GET" || r.method == "HEAD" then
    let a ← shownArticle slug
    App.renderAs detailNames (← detailContext a (Forms.summary "CommentForm" commentFields none))
  else if r.method == "OPTIONS" then pure (.options ["GET", "POST", "HEAD", "OPTIONS"])
  else pure (.notAllowed ["GET", "POST", "HEAD", "OPTIONS"])

def formNames : List String := ["blog/article_form.html"]

def formMethods : List String := ["GET", "POST", "PUT", "HEAD", "OPTIONS"]

def articleFormJson (o : Option Forms.Outcome) : Json := Forms.summary "ArticleForm" articleFields o

def applyArticle (a : Obj) (o : Forms.Outcome) : Obj :=
  ["title", "category", "content", "excerpt", "featured_image", "is_featured", "read_time_minutes"].foldl
    (fun a k => match o.get? k with
      | some v => a.set k v
      | none => a) a

def createPage (r : Request) : App Response :=
  guarded [requireLogin r] do
    if r.method == "POST" || r.method == "PUT" then
      App.readForm
      let o ← readArticle (Forms.Submitted.ofPairs r.form)
      if !o.valid then return ← App.renderAs formNames [("form", articleFormJson (some o))]
      let now ← App.now
      let mut a := applyArticle (Obj.fresh .article now) o
      a := a.set "author" (Value.ofOptNat r.userId?)
      if o.flag "save_as_draft" then a := a.set "status" (.text "draft")
      else a := (a.set "status" (.text "published")).set "published_at" (Value.now now)
      let done := if o.flag "save_as_draft" then "saved as draft" else "published"
      App.message "success" ("Article \"" ++ o.text "title" ++ "\" has been " ++ done ++ "!")
      discard <| App.save a
      return .redirect PageName.articleList.path
    else if r.method == "GET" || r.method == "HEAD" then
      App.renderAs formNames [("form", articleFormJson none)]
    else if r.method == "OPTIONS" then pure (.options formMethods)
    else pure (.notAllowed formMethods)

def editPage (r : Request) (slug : String) : App Response :=
  guarded [requireLogin r] do
    if r.method == "OPTIONS" then return .options formMethods
    if ! ["GET", "HEAD", "POST", "PUT"].contains r.method then return .notAllowed formMethods
    let mine := (← App.all .article).filter fun a =>
      (a.get "author").asNat? == r.userId? && a.getText "slug" == slug
    let a ← match mine with
      | [a] => pure a
      | [] => App.notFound "No article found matching the query"
      | os => App.raise "MultipleObjectsReturned" (App.manyText .article os.length)
    let ref ← App.refJson a
    if r.method == "POST" || r.method == "PUT" then
      App.readForm
      let o ← readArticle (Forms.Submitted.ofPairs r.form)
      if !o.valid then
        return ← App.renderAs formNames [("form", articleFormJson (some o)), ("object", ref), ("article", ref)]
      let mut b := applyArticle a o
      if o.flag "save_as_draft" then b := b.set "status" (.text "draft")
      else if b.getText "status" == "draft" then
        b := (b.set "status" (.text "published")).set "published_at" (Value.now (← App.now))
      App.message "success" ("Article \"" ++ b.getText "title" ++ "\" has been updated!")
      let saved ← App.save b
      return .redirect (← App.ofExcept (reverse (.articleDetail (saved.getText "slug"))))
    else
      App.renderAs formNames [("form", articleFormJson none), ("object", ref), ("article", ref)]

def likePage (r : Request) (slug : String) : App Response :=
  guarded [requireLogin r] do
    discard <| App.getOr404 .article (·.getText "slug" == slug)
    if r.method == "POST" then
      return .json (.obj [("status", .str "success"), ("message", .str "Article liked!")])
    return .json (.obj [("status", .str "error"), ("message", .str "Invalid request method")]) 400

def categoryArticles (c : Obj) : App (List Obj) := do
  return (← published).filter fun a => (a.get "category").asNat? == c.pk

def categoryPage (r : Request) (slug : String) : App Response := do
  if r.method == "OPTIONS" then return .options listMethods
  if ! ["GET", "HEAD"].contains r.method then return .notAllowed listMethods
  let c ← App.getOr404 .category (·.getText "slug" == slug)
  let xs ← categoryArticles c
  let page ← paginate xs 6 (r.param? "page")
  let ctx := (← pageContext page "articles") ++
    [("category", ← App.refJson c), ("categories", ← App.refs (← categoriesInUse))]
  App.renderAs ["blog/category_detail.html", "blog/article_list.html"] ctx

def taggedArticles (t : Obj) : App (List Obj) := do
  return App.defaultOrder .article (← taggedPublished (t.pk.getD 0))

def tagPage (r : Request) (slug : String) : App Response := do
  if r.method == "OPTIONS" then return .options listMethods
  if ! ["GET", "HEAD"].contains r.method then return .notAllowed listMethods
  let t ← App.getOr404 .tag (·.getText "slug" == slug)
  let xs ← taggedArticles t
  let page ← paginate xs 6 (r.param? "page")
  let ctx := (← pageContext page "articles") ++
    [("tag", ← App.refJson t), ("tags", ← App.refs (← tagsInUse))]
  App.renderAs ["blog/tag_detail.html", "blog/article_list.html"] ctx

def searchListing : Option String → App (List Obj)
  | some q => if q.isEmpty then pure [] else do filterM (← published) (matchesSearch q)
  | none => pure []

def searchPage (r : Request) : App Response := do
  let q := r.param? "q"
  let found ← searchListing q
  App.render "blog/search_results.html"
    [("articles", ← App.refs found), ("search_query", .str (q.getD "")),
     ("categories", ← App.refs (← categoriesInUse)), ("tags", ← App.refs ((← tagsInUse).take 20))]

def page (r : Request) : BlogPage → App Response
  | .index | .featured =>
    if ["GET", "HEAD"].contains r.method then listPage r []
    else if r.method == "OPTIONS" then pure (.options listMethods)
    else pure (.notAllowed listMethods)
  | .article slug => articlePage r slug
  | .create => createPage r
  | .edit slug => editPage r slug
  | .like slug => likePage r slug
  | .category slug => categoryPage r slug
  | .tag slug => tagPage r slug
  | .search => searchPage r

end Blog
end Portal
