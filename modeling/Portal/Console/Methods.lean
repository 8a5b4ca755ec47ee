import Portal.Console.Records
import Portal.Audit.Display
import Portal.Blog.Basic
/-! The record methods a step may call, by name. -/
namespace Portal
namespace Console

def currentStatus (o : Obj) (status endField : String) (now : Instant) : Bool :=
  o.get "subscription_status" == .text status &&
    match o.get endField with
    | .moment m => !(m.instant < now)
    | _ => true

def absoluteName? : Entity → Obj → Option Web.PageName
  | .article, o => some (.articleDetail (o.getText "slug"))
  | .task _, o => some (.taskDetail .todoTasks (o.pk.getD 0))
  | _, _ => none

def methodStep (step : Json) : App Json := do
  let e ← entityOf step
  let name ← needStr step "name"
  let allowed := ["str", "get_absolute_url", "get_comments_count", "get_replies",
    "get_articles_count", "mark_as_read", "is_subscription_active", "is_trial_active",
    "metadata_json", "get_display_level", "get_display_category"]
  let display? := if name.startsWith "get_" && name.endsWith "_display" then
      some ((name.drop 4).dropEnd 8).toString
    else none
  if !(allowed.contains name) && display?.isNone then refuse "method not allowed"
  let o ← App.load e (← pkOf step)
  let noAttr := s!"'{o.model.name}' object has no attribute '{name}'"
  match display? with
  | some field =>
    match o.model.field? field with
    | some f =>
      if f.choices.isEmpty then App.raise "AttributeError" noAttr
      else return .str (o.display field)
    | none => App.raise "AttributeError" noAttr
  | none =>
  let missing : App Json := App.raise "AttributeError" noAttr
  match name, e with
  | "str", _ => return .str (← App.describe o)
  | "get_absolute_url", _ =>
    match absoluteName? e o with
    | some n => return .str (← App.ofExcept (Web.reverse n))
    | none => missing
  | "get_comments_count", .article => return .int (← Blog.approvedComments (o.pk.getD 0)).length
  | "get_replies", .comment => return .arr (← (← Blog.replies (o.pk.getD 0)).mapM App.refJson)
  | "get_articles_count", .tag => return .int (← Blog.taggedPublished (o.pk.getD 0)).length
  | "mark_as_read", .notification =>
    discard <| App.save (o.set "is_read" (.bool true)) (some ["is_read", "updated_at"])
    return .null
  | "is_subscription_active", .userSettings =>
    return .bool (currentStatus o "active" "subscription_end_date" (← App.now))
  | "is_trial_active", .userSettings =>
    return .bool (currentStatus o "trial" "trial_end_date" (← App.now))
  | "metadata_json", .systemLog => return .str (Audit.metadataText o)
  | "get_display_level", .systemLog => return .str (Audit.levelSpan o)
  | "get_display_category", .systemLog => return .str (Audit.categoryText o)
  | _, _ => missing

end Console
end Portal
