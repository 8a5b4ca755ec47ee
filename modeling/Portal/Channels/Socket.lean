import Portal.Store.Basic
/-! Open websocket connections. Each connection is served by one of six consumers; it
knows the user of its scope, as that user was when the connection was made, and the
attributes its consumer set on connecting: the user it took from the scope and the group
it joined. An attribute a consumer never set is missing, and reading it fails. -/
namespace Portal

inductive Consumer where
  | dashboard
  | adminDashboard
  | subscription
  | subscriptionAdmin
  | notification
  | presence
  deriving DecidableEq, Repr, Inhabited

namespace Consumer

def className : Consumer → String
  | .dashboard => "DashboardConsumer"
  | .adminDashboard => "AdminDashboardConsumer"
  | .subscription => "SubscriptionConsumer"
  | .subscriptionAdmin => "SubscriptionAdminConsumer"
  | .notification => "NotificationConsumer"
  | .presence => "PresenceConsumer"

def groupAttribute : Consumer → String
  | .adminDashboard | .subscriptionAdmin => "admin_group_name"
  | .presence => "presence_group_name"
  | _ => "user_group_name"

def ofPath (path : String) : Option Consumer :=
  match String.ofList (path.toList.dropWhile (· = '/')) with
  | "ws/dashboard/" => some .dashboard
  | "ws/dashboard/admin/" => some .adminDashboard
  | "ws/subscriptions/" => some .subscription
  | "ws/subscriptions/admin/" => some .subscriptionAdmin
  | "ws/notifications/" => some .notification
  | "ws/presence/" => some .presence
  | _ => none

end Consumer

structure Socket where
  consumer : Consumer
  channel : String
  scopeUser : Option Row
  user : Option Row := none
  group : Option String := none
  deriving Inhabited

end Portal
