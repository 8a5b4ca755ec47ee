import Portal.Channels.Groups
import Portal.Records.Save
/-! Notifications and presence. A notification is stored for a user and announced at once
to the user's notification group. The helpers here send real-time messages to the group a
message belongs to: a user's dashboard, subscription or notification group, or the two
admin groups. A message is a document with a `type`, which names the handler that
consumers run for it. -/
namespace Portal
namespace Notifications

def itemsOf (j : Json) : Except Fault (List Json) :=
  match j with
  | .arr xs => .ok xs
  | .str s => .ok (s.toList.map fun c => .str c.toString)
  | .obj kvs => .ok (kvs.map fun (k, _) => .str k)
  | other => .error ⟨"TypeError", "'" ++ other.kindName ++ "' object is not iterable"⟩

def occursIn (needle : String) (j : Json) : Except Fault Bool := Json.occursIn needle j

def membersOf (j : Json) : Except Fault (List (String × Json)) :=
  match j with
  | .obj kvs => .ok kvs
  | other => .error ⟨"TypeError", "'" ++ other.kindName ++ "' object is not a mapping"⟩

def summary (n : Obj) : Json :=
  .obj [("id", Json.optInt (n.pk.map Int.ofNat)), ("title", (n.get "title").toJson),
    ("message", (n.get "message").toJson), ("level", (n.get "level").toJson),
    ("is_read", (n.get "is_read").toJson), ("created_at", (n.get "created_at").toJson),
    ("data", (n.get "data").toJson)]

def userGroup (pfx : String) (userId : Json) : String := pfx ++ userId.toText

def create (user : Obj) (title message level data : Json) : App Obj := do
  let uid := user.pk.getD 0
  let n := Obj.fresh .notification (← App.now)
  let n := ((((n.set "user" (.int uid)).set "title" (Value.ofJson title)).set "message"
    (Value.ofJson message)).set "level" (Value.ofJson level)).set "data"
    (Value.ofJson (if data.truthy then data else .obj []))
  let n ← App.save n
  Channels.groupSend ("notifications_user_" ++ toString uid)
    (.obj [("type", .str "new_notification"), ("data", summary n)])
  return n

def setOnline (user : Obj) : App Obj := do
  match (← App.all .presence).find? (fun p => (p.get "user").asNat? == user.pk) with
  | some p => App.save ((p.set "is_online" (.bool true)).set "last_activity" (Value.now (← App.now)))
  | none => App.save (((Obj.fresh .presence (← App.now)).set "user" (Value.ofOptNat user.pk)).set
      "is_online" (.bool true))

def setOffline (user : Obj) : App Unit := do
  match (← App.all .presence).find? (fun p => (p.get "user").asNat? == user.pk) with
  | some p => discard <| App.save ((p.set "is_online" (.bool false)).set "last_seen" (Value.now (← App.now)))
  | none => pure ()

def onlineUsers : App (List String) := do
  let online := (← App.all .presence).filter (·.getBool "is_online")
  let users ← App.all .user
  let names := online.filterMap fun p =>
    (users.find? fun u => u.pk == (p.get "user").asNat?).map (·.getText "username")
  return names.mergeSort fun a b => decide (a ≤ b)

def sendDashboardUpdate (userId data : Json) : App Unit :=
  Channels.groupSend (userGroup "dashboard_user_" userId)
    (.obj [("type", .str "dashboard_update"), ("data", data)])

def sendNotification (userId title message level data : Json) : App (Option Obj) := do
  let key ← App.ofExcept ((Catalog.user.field? "id").map (·.prep (Value.ofJson userId))
    |>.getD (.ok .null))
  let found ← match key.asNat? with
    | some k => App.find? .user k
    | none => pure none
  match found with
  | some u => some <$> create u title message level data
  | none =>
    Channels.groupSend (userGroup "notifications_user_" userId)
      (.obj [("type", .str "notification_message"), ("message", message), ("level", level)])
    return none

def sendSubscriptionUpdate (userId data : Json) : App Unit :=
  Channels.groupSend (userGroup "subscriptions_user_" userId)
    (.obj [("type", .str "subscription_status_update"), ("data", data)])

def sendPaymentConfirmation (userId data : Json) : App Unit :=
  Channels.groupSend (userGroup "subscriptions_user_" userId)
    (.obj [("type", .str "payment_confirmation"), ("data", data)])

def sendExpiryWarning (userId data : Json) : App Unit :=
  Channels.groupSend (userGroup "subscriptions_user_" userId)
    (.obj [("type", .str "subscription_expiry_warning"), ("data", data)])

def sendAdminDashboardUpdate (data : Json) : App Unit :=
  Channels.groupSend "admin_dashboard" (.obj [("type", .str "system_update"), ("data", data)])

def sendAdminSubscriptionAlert (alertType data : Json) : App Unit :=
  Channels.groupSend "subscription_admin"
    (.obj [("type", .str (alertType.toText ++ "_alert")), ("data", data)])

def broadcastSystemMessage (message level targetGroups : Json) : App Unit := do
  let groups ← match targetGroups with
    | .null => pure [Json.str "admin_dashboard", .str "subscription_admin"]
    | g => App.ofExcept (itemsOf g)
  for g in groups do
    let name ← Channels.groupOf g
    Channels.groupSend name
      (.obj [("type", .str "notification_message"), ("message", message), ("level", level)])

def sendToMultipleUsers (userIds messageData messageType : Json) : App Unit := do
  for uid in ← App.ofExcept (itemsOf userIds) do
    let pfx ← if ← App.ofExcept (occursIn "dashboard" messageType) then pure "dashboard_user_"
      else if ← App.ofExcept (occursIn "subscription" messageType) then pure "subscriptions_user_"
      else pure "notifications_user_"
    let extra ← App.ofExcept (membersOf messageData)
    let msg := extra.foldl (fun acc (k, v) => Json.setKey acc k v) [("type", messageType)]
    Channels.groupSend (userGroup pfx uid) (.obj msg)

end Notifications
end Portal
