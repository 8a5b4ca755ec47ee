import Portal.Notifications.Basic
import Portal.Records.Query
import Portal.Json.Read
/-! The websocket consumers. A consumer accepts a connection from a signed-in user (from a
staff member for the two admin consumers) and joins its group, or closes it. It answers
the requests a client sends as JSON text, and it runs the handler named by the type of each
message the channel layer delivers to it. Frames it sends are collected in the world's
outbox. The dashboard and subscription consumers have no statistics to show, so they
answer with empty figures. -/
namespace Portal
namespace Channels

def socket (id : String) : App Socket := do
  match (← get).sockets.find? (·.1 == id) with
  | some (_, s) => pure s
  | none => App.raise "InputError" "unknown socket"

def setSocket (id : String) (s : Socket) : App Unit :=
  modify fun w => { w with sockets := w.sockets.map fun p => if p.1 == id then (id, s) else p }

def frame (j : Json) : App Unit := modify fun w => { w with outbox := w.outbox ++ [j] }

def acceptFrame : App Unit := frame (.obj [("type", .str "websocket.accept")])

def closeFrame : App Unit := frame (.obj [("type", .str "websocket.close")])

def emit (j : Json) : App Unit := frame (.obj [("type", .str "websocket.send"), ("json", j)])

def missing (c : Consumer) (attr : String) : Fault :=
  ⟨"AttributeError", "'" ++ c.className ++ "' object has no attribute '" ++ attr ++ "'"⟩

def userOf (s : Socket) : App Row :=
  match s.user with
  | some u => pure u
  | none => App.fail (missing s.consumer "user")

def field (msg : Json) (k : String) : App Json :=
  match msg.get? k with
  | some v => pure v
  | none => App.fail (Fault.keyError k)

def fieldOr (msg : Json) (k : String) (dflt : Json) : Json := (msg.get? k).getD dflt

def unreadCount (u : Row) : App Nat := do
  return ((← App.all .notification).filter fun n =>
    (n.get "user").asNat? == some u.pk && !n.getBool "is_read").length

def sendUnreadCount (s : Socket) : App Unit := do
  let u ← userOf s
  emit (.obj [("type", .str "unread_count"), ("count", .int (← unreadCount u))])

def recentNotifications (u : Row) : App (List Json) := do
  let mine := (← App.all .notification).filter fun n => (n.get "user").asNat? == some u.pk
  let sorted := mine.mergeSort fun a b => !(Value.lt (a.get "created_at") (b.get "created_at"))
  return (sorted.take 20).map Notifications.summary

def userKey (u : Row) : Json := .int u.pk

def connect (id : String) : App Unit := do
  let s ← socket id
  match s.consumer with
  | .adminDashboard | .subscriptionAdmin =>
    match s.scopeUser with
    | some u =>
      if u.getBool "is_staff" then
        let g := if s.consumer == .adminDashboard then "admin_dashboard" else "subscription_admin"
        setSocket id { s with group := some g }
        groupAdd g s.channel
        acceptFrame
        let what := if s.consumer == .adminDashboard then "Admin dashboard" else "Subscription admin"
        emit (.obj [("type", .str "admin_connection_established"),
          ("message", .str (what ++ " connection established"))])
      else closeFrame
    | none => closeFrame
  | .presence =>
    match s.scopeUser with
    | none => closeFrame
    | some u =>
      setSocket id { s with user := some u, group := some "presence" }
      groupAdd "presence" s.channel
      acceptFrame
      groupSend "presence" (.obj [("type", .str "user_online"), ("user_id", userKey u),
        ("username", (u.get "username").toJson), ("first_name", (u.get "first_name").toJson),
        ("last_name", (u.get "last_name").toJson)])
      emit (.obj [("type", .str "online_users"), ("data", .arr [])])
  | c =>
    match s.scopeUser with
    | none => closeFrame
    | some u =>
      let (pfx, what) := match c with
        | .dashboard => ("dashboard_user_", "Dashboard")
        | .subscription => ("subscriptions_user_", "Subscription updates")
        | _ => ("notifications_user_", "Notifications")
      let g := pfx ++ toString u.pk
      let s := { s with user := some u, group := some g }
      setSocket id s
      groupAdd g s.channel
      acceptFrame
      emit (.obj [("type", .str "connection_established"),
        ("message", .str (what ++ " connection established")), ("user_id", userKey u)])
      if c == .notification then sendUnreadCount s

def disconnect (id : String) : App Unit := do
  let s ← socket id
  match s.consumer with
  | .adminDashboard | .subscriptionAdmin | .presence =>
    let g ← match s.group with
      | some g => pure g
      | none => App.fail (missing s.consumer s.consumer.groupAttribute)
    if s.consumer == .presence then
      let u ← userOf s
      groupSend g (.obj [("type", .str "user_offline"), ("user_id", userKey u),
        ("username", (u.get "username").toJson)])
    groupDiscard g s.channel
  | _ =>
    match s.group with
    | some g => groupDiscard g s.channel
    | none => pure ()

def markOneRead (u : Row) (notificationId : Json) : App Unit := do
  let key ← match notificationId with
    | .null => pure none
    | v => do
      let k ← App.ofExcept ((Catalog.notification.field? "id").map (·.prep (Value.ofJson v))
        |>.getD (.ok .null))
      pure k.asNat?
  match key with
  | none => pure ()
  | some k =>
    match ← App.find? .notification k with
    | some n =>
      if (n.get "user").asNat? == some u.pk then
        discard <| App.save (n.set "is_read" (.bool true))
    | none => pure ()

def markAllRead (u : Row) : App Unit := do
  let db ← App.db
  let unread := (db.rows .notification).filter fun r =>
    r.getNat? "user" == some u.pk && !r.getBool "is_read"
  let db := unread.foldl (fun db r =>
    match db.update .notification r.pk [("is_read", .bool true)] with
    | .ok (db, _) => db
    | .error _ => db) db
  App.setDb db

def figures (names : List String) : Json :=
  .obj (names.map (fun n => (n, Json.int 0)) ++ [("last_updated", .null)])

def receiveDoc (id : String) (doc : Json) : App Unit := do
  let s ← socket id
  if s.consumer == .presence then return ()
  let kind ← match doc with
    | .obj kvs => pure (((kvs.find? (·.1 == "type")).map (·.2)).getD (.str ""))
    | other => App.raise "AttributeError" ("'" ++ other.kindName ++ "' object has no attribute 'get'")
  match s.consumer, kind with
  | .dashboard, .str "heartbeat" =>
    emit (.obj [("type", .str "heartbeat_response"), ("timestamp", fieldOr doc "timestamp" .null)])
  | .dashboard, .str "request_dashboard_update" =>
    emit (.obj [("type", .str "dashboard_update"), ("data", .obj [("total_subscriptions", .int 0),
      ("active_subscriptions", .int 0), ("total_revenue", .str "0.00"), ("last_updated", .null)])])
  | .adminDashboard, .str "request_system_stats" =>
    let users ← App.all .user
    emit (.obj [("type", .str "system_stats"), ("data", .obj [("total_users", .int users.length),
      ("active_users", .int (users.filter (·.getBool "is_active")).length),
      ("staff_users", .int (users.filter (·.getBool "is_staff")).length), ("last_updated", .null)])])
  | .subscription, .str "request_subscription_status" =>
    emit (.obj [("type", .str "subscription_status"),
      ("data", .obj [("active_subscriptions", .arr []), ("total_active_count", .int 0)])])
  | .subscription, .str "request_subscription_history" =>
    emit (.obj [("type", .str "subscription_history"), ("data", .arr [])])
  | .subscriptionAdmin, .str "request_subscription_stats" =>
    emit (.obj [("type", .str "subscription_stats"), ("data",
      figures ["total_subscriptions", "active_subscriptions", "inactive_subscriptions"])])
  | .notification, .str "mark_as_read" =>
    let nid := fieldOr doc "notification_id" .null
    markOneRead (← userOf s) nid
    emit (.obj [("type", .str "notification_marked_read"), ("notification_id", nid)])
  | .notification, .str "mark_all_as_read" =>
    match s.user with
    | some u => markAllRead u
    | none => pure ()
    emit (.obj [("type", .str "all_notifications_marked_read")])
  | .notification, .str "request_notifications" =>
    let u ← userOf s
    emit (.obj [("type", .str "notifications_list"), ("data", .arr (← recentNotifications u))])
  | .notification, .str "request_unread_count" => sendUnreadCount s
  | _, _ => pure ()

def receiveText (id : String) (text : String) : App Unit := do
  let s ← socket id
  if s.consumer == .presence then return ()
  match Json.parse text with
  | .ok doc => receiveDoc id doc
  | .error e => App.raise "JSONDecodeError" (e.render text)

def receiveBytes (id : String) : App Unit := do
  let s ← socket id
  if s.consumer == .presence then return ()
  App.raise "TypeError" (s.consumer.className ++ ".receive() got an unexpected keyword argument 'bytes_data'")

def forward (ty : String) (msg : Json) : App Unit := do
  emit (.obj [("type", .str ty), ("data", ← field msg "data")])

def handlerFor (s : Socket) (handler : String) (msg : Json) : Option (App Bool) :=
  match s.consumer, handler with
  | .dashboard, "dashboard_update" => some do forward "dashboard_update" msg; return false
  | .dashboard, "notification_message" => some do
    let m ← field msg "message"
    emit (.obj [("type", .str "notification"), ("message", m), ("level", fieldOr msg "level" (.str "info"))])
    return false
  | .adminDashboard, "system_update" => some do forward "system_update" msg; return false
  | .subscription, "subscription_status_update" => some do forward handler msg; return false
  | .subscription, "payment_confirmation" => some do forward handler msg; return false
  | .subscription, "subscription_expiry_warning" => some do forward handler msg; return false
  | .subscriptionAdmin, "new_subscription_alert" => some do forward handler msg; return false
  | .subscriptionAdmin, "subscription_cancellation_alert" => some do forward handler msg; return false
  | .notification, "new_notification" => some do
    forward "new_notification" msg
    sendUnreadCount s
    return false
  | .notification, "notification_read" => some do forward "notification_read" msg; return false
  | .presence, "user_online" => some do
    let uid ← field msg "user_id"
    let name ← field msg "username"
    emit (.obj [("type", .str "user_online"), ("data", .obj [("user_id", uid), ("username", name),
      ("first_name", fieldOr msg "first_name" (.str "")), ("last_name", fieldOr msg "last_name" (.str ""))])])
    return false
  | .presence, "user_offline" => some do
    let uid ← field msg "user_id"
    let name ← field msg "username"
    emit (.obj [("type", .str "user_offline"), ("data", .obj [("user_id", uid), ("username", name)])])
    return false
  | _, _ => none

def handlerName (ty : String) : String :=
  String.ofList (ty.toList.map fun c => if c = '.' then '_' else c)

def dispatch (id : String) (msg : Json) : App Bool := do
  let ty ← match msg.get? "type" with
    | none => App.raise "ValueError" "Incoming message has no 'type' attribute"
    | some (.str t) =>
      if t.startsWith "_" then App.raise "ValueError" "Malformed type in message (leading underscore)"
      else pure t
    | some other => App.raise "AttributeError" ("'" ++ other.kindName ++ "' object has no attribute 'startswith'")
  let s ← socket id
  let handler := handlerName ty
  match handler with
  | "websocket_connect" => connect id; return false
  | "websocket_receive" =>
    match msg.get? "text" with
    | some .null | none => receiveBytes id
    | some t => receiveText id t.toText
    return false
  | "websocket_disconnect" =>
    discard <| field msg "code"
    disconnect id
    return true
  | _ =>
  match handlerFor s handler msg with
  | some act => act
  | none => App.raise "ValueError" ("No handler for message type " ++ ty)

end Channels
end Portal
