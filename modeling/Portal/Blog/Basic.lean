import Portal.Records.Query
import Portal.Web.Reverse
/-! The blog: categories, articles, threaded comments and tags. An article is public once
published; a tag counts only its published articles. -/
namespace Portal
namespace Blog

def approvedComments (article : Nat) : App (List Obj) :=
  App.select .comment [("article", .int article), ("is_approved", .bool true)]

def replies (comment : Nat) : App (List Obj) :=
  App.select .comment [("parent", .int comment), ("is_approved", .bool true)] true

def taggedPublished (tag : Nat) : App (List Obj) := do
  let keys := (← App.db).linked Catalog.tagArticles tag
  return (← App.select .article [("status", .str "published")]).filter fun a => keys.contains (a.pk.getD 0)

end Blog
end Portal
