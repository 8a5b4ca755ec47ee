import Portal.Web.View
import Portal.Web.Reverse
import Portal.Audit.Events
/-! The signed-in user's dashboard: profile, notification settings, an API key, and the
subscription plans. A subscription is current while its status is `active` and its end,
when set, is not past; a trial likewise with `trial` and its own end. Subscribing runs
30 days for a monthly plan and 365 otherwise; a trial runs 14 days. -/
namespace Portal
namespace Dashboard
open Web

def current (s : Obj) (status endField : String) (now : Instant) : Bool :=
  s.getText "subscription_status" == status &&
    match s.get endField with
    | .moment m => !(m.instant < now)
    | _ => true

def subscriptionActive (s : Obj) (now : Instant) : Bool := current s "active" "subscription_end_date" now

def trialActive (s : Obj) (now : Instant) : Bool := current s "trial" "trial_end_date" now

def settingsOf (user : Option Nat) : App Obj := do
  match (← App.all .userSettings).find? (fun s => (s.get "user").asNat? == user && user.isSome) with
  | some s => return s
  | none => App.save ((Obj.fresh .userSettings (← App.now)).set "user" (Value.ofOptNat user))

def existingSettings (user : Option Nat) : App Obj :=
  App.getWhere .userSettings fun s => (s.get "user").asNat? == user && user.isSome

def settingsPage (r : Request) : App Response := do
  let s ← settingsOf r.userId?
  if r.method == "POST" then
    let on (k : String) : Value := .bool (r.field? k == some "on")
    App.readForm
    let s := ((s.set "notify_comments" (on "comments")).set "notify_updates" (on "updates")).set
      "notify_marketing" (on "marketing")
    discard <| App.save s
    App.message "success" "Settings updated successfully."
    return .redirect PageName.settings.path
  let now ← App.now
  let plan ← match (s.get "subscription_plan").asNat? with
    | some k => App.refOpt (← App.find? .plan k)
    | none => pure .null
  App.render "dashboard/settings.html"
    [("notification_settings", .obj [("comments", .bool (s.getBool "notify_comments")),
        ("updates", .bool (s.getBool "notify_updates")), ("marketing", .bool (s.getBool "notify_marketing"))]),
     ("subscription", .obj [("plan", plan), ("status", (s.get "subscription_status").toJson),
        ("is_active", .bool (subscriptionActive s now)), ("is_trial", .bool (trialActive s now)),
        ("start_date", (s.get "subscription_start_date").toJson),
        ("end_date", (s.get "subscription_end_date").toJson),
        ("trial_end_date", (s.get "trial_end_date").toJson)]),
     ("api", .obj [("has_key", .bool (s.get "api_key").truthy),
        ("key_created_at", (s.get "api_key_created_at").toJson)])]

def freshKey : String := String.ofList (List.replicate 43 'k')

def apiKeyPage (r : Request) : App Response := do
  let s ← settingsOf r.userId?
  let now ← App.now
  discard <| App.save ((s.set "api_key" (.text freshKey)).set "api_key_created_at" (Value.now now))
  App.message "success" "API key generated successfully."
  return .redirect PageName.settings.path

def plansPage (r : Request) : App Response := do
  let plans ← App.select .plan [("is_active", .bool true)]
  let s ← existingSettings r.userId?
  let now ← App.now
  let plan ← match (s.get "subscription_plan").asNat? with
    | some k => App.refOpt (← App.find? .plan k)
    | none => pure .null
  App.render "dashboard/subscription_plans.html"
    [("plans", ← App.refs plans), ("current_plan", plan),
     ("subscription_status", (s.get "subscription_status").toJson),
     ("is_subscription_active", .bool (subscriptionActive s now)),
     ("is_trial_active", .bool (trialActive s now))]

def subscribePage (r : Request) (slug : String) : App Response := do
  let plan ← App.getOr404 .plan fun p => p.getText "slug" == slug && p.getBool "is_active"
  let s ← existingSettings r.userId?
  let now ← App.now
  if subscriptionActive s now then
    App.message "warning" "You already have an active subscription."
    return .redirect PageName.subscriptionPlans.path
  let days : Int := if plan.getText "interval" == "monthly" then 30 else 365
  -- the end date must still be a date-time: past the year 9999 the addition overflows
  let ends ← App.ofExcept (Audit.before now (-(days * Instant.day)))
  let s := (((s.set "subscription_plan" (Value.ofOptNat plan.pk)).set "subscription_status" (.text "active")).set
    "subscription_start_date" (Value.now now)).set "subscription_end_date" (Value.now ends)
  discard <| App.save s
  App.message "success" ("Successfully subscribed to " ++ plan.getText "name" ++ " plan.")
  return .redirect PageName.settings.path

def cancelPage (r : Request) : App Response := do
  let s ← existingSettings r.userId?
  if !subscriptionActive s (← App.now) then
    App.message "warning" "You do not have an active subscription to cancel."
    return .redirect PageName.settings.path
  discard <| App.save (s.set "subscription_status" (.text "cancelled"))
  App.message "success" "Your subscription has been cancelled."
  return .redirect PageName.settings.path

def trialPage (r : Request) : App Response := do
  let s ← existingSettings r.userId?
  let now ← App.now
  if subscriptionActive s now || trialActive s now then
    App.message "warning" "You already have an active subscription or trial."
    return .redirect PageName.subscriptionPlans.path
  let ends ← App.ofExcept (Audit.before now (-(14 * Instant.day)))
  let s := (s.set "subscription_status" (.text "trial")).set "trial_end_date" (Value.now ends)
  discard <| App.save s
  App.message "success" "Trial period started successfully."
  return .redirect PageName.settings.path

def profilePage (r : Request) : App Response := do
  if r.method == "POST" then
    App.readForm
    match r.user with
    | some u =>
      let u := (u.set "first_name" (.text ((r.field? "first_name").getD ""))).set "last_name"
        (.text ((r.field? "last_name").getD ""))
      discard <| App.save u
    | none => pure ()
    App.message "success" "Profile updated successfully."
    return .redirect PageName.profile.path
  App.render "dashboard/profile.html" []

def pageMethods : DashboardPage → List String
  | .home | .plans => ["GET"]
  | .profile | .settings => ["GET", "POST"]
  | _ => ["POST"]

def page (r : Request) (p : DashboardPage) : App Response :=
  guarded [requireLogin r, requireMethods (pageMethods p) r] <|
  match p with
  | .home => App.render "dashboard/home.html" []
  | .profile => profilePage r
  | .settings => settingsPage r
  | .apiKey => apiKeyPage r
  | .plans => plansPage r
  | .subscribe slug => subscribePage r slug
  | .cancel => cancelPage r
  | .trial => trialPage r

end Dashboard
end Portal
