import Portal.Channels.Consumers
import Portal.Console.Keywords
import Portal.Console.Input
/-! Steps that watch the channel layer and drive websocket connections, and the calls that
send real-time messages. A probe is a channel the console adds to a group so that it can
read what the group is sent. A connection is opened on first use of its id, on the path
and user given then; each action it is given answers the frames its consumer sent, and
the failure if there was one. -/
namespace Portal
namespace Console

def setProbe (ps : List (String × String)) (g ch : String) : List (String × String) :=
  if ps.any (·.1 == g) then ps.map fun p => if p.1 == g then (g, ch) else p else ps ++ [(g, ch)]

def listenStep (step : Json) : App Json := do
  let g ← Channels.groupOf (← need step "group")
  let w ← get
  let ch := "probe." ++ toString w.probeCount
  Channels.groupAdd g ch
  modify fun w => { w with probeCount := w.probeCount + 1, probes := setProbe w.probes g ch }
  return .obj [("channel", .str ch)]

def receiveStep (step : Json) : App Json := do
  let g := (← need step "group").toText
  match (← get).probes.find? (·.1 == g) with
  | some (_, ch) => return .arr (← Channels.drain ch)
  | none => refuse "group not listened"

def actionJson (frames : List Json) (extra : List (String × Json)) : Json :=
  .obj ([("frames", .arr frames)] ++ extra)

def faultMembers (f : Fault) : List (String × Json) := [("error", .str f.kind), ("message", .str f.message)]

def deliver (id : String) (ch : String) (fuel : Nat) (count : Nat) : App (Nat × Bool) := do
  match fuel with
  | 0 => return (count, false)
  | fuel + 1 =>
    match ← Channels.pop ch with
    | none => return (count, false)
    | some msg =>
      if ← Channels.dispatch id msg then return (count + 1, true)
      else deliver id ch fuel (count + 1)

def runAction (id : String) (action : Json) : App Json := do
  modify fun w => { w with outbox := [] }
  let s ← Channels.socket id
  let act : Option (App (List (String × Json))) :=
    if (action.get? "connect").isSome then some do
      Channels.connect id; pure []
    else if (action.get? "send").isSome then some do
      Channels.receiveDoc id ((action.get? "send").getD .null); pure []
    else if (action.get? "send_text").isSome then some do
      Channels.receiveText id ((action.get? "send_text").getD .null).toText; pure []
    else if (action.get? "send_bytes").isSome then some do
      Channels.receiveBytes id; pure []
    else if (action.get? "event").isSome then some do
      let ended ← Channels.dispatch id ((action.get? "event").getD .null)
      pure (if ended then [("stopped", .bool true)] else [])
    else if (action.get? "deliver").isSome then some do
      let (n, ended) ← deliver id s.channel 200 0
      pure ([("delivered", .int n)] ++ if ended then [("stopped", .bool true)] else [])
    else if (action.get? "disconnect").isSome then some do
      Channels.disconnect id
      pure [("stopped", .bool true)]
    else none
  match act with
  | none => return actionJson [] (faultMembers ⟨"InputError", "unknown ws action"⟩)
  | some a =>
    let out ← App.attempt a
    let frames := (← get).outbox
    modify fun w => { w with outbox := [] }
    match out with
    | .ok extra => return actionJson frames extra
    | .error f => return actionJson frames (faultMembers f)

def openSocket (id : String) (step : Json) : App Unit := do
  if ((← get).sockets.find? (·.1 == id)).isSome then return ()
  let path := ((step.get? "path").getD (.str "")).toText
  let some consumer := Consumer.ofPath path | refuse ("no websocket route: " ++ path)
  let user ← match step.get? "user" with
    | some (.str name) =>
      match (← App.db).rows .user |>.find? (·.getText "username" == name) with
      | some r => pure (some r)
      | none => App.fail (Fault.doesNotExist "User")
    | _ => pure none
  modify fun w => { w with sockets := w.sockets ++ [(id, { consumer, channel := "ws." ++ id, scopeUser := user })] }

def wsStep (step : Json) : App Json := do
  let id := (← need step "id").toText
  openSocket id step
  let actions := (step.getArr? "actions").getD []
  return .arr (← actions.mapM (runAction id))

def notificationSig : Signature :=
  { name := "send_notification", params := [⟨"user_id", none⟩, ⟨"title", none⟩, ⟨"message", none⟩,
      ⟨"level", some (.str "info")⟩, ⟨"data", some .null⟩] }

def createNotificationSig : Signature :=
  { name := "Notification.create_notification", params := [⟨"user", none⟩, ⟨"title", none⟩,
      ⟨"message", none⟩, ⟨"level", some (.str "info")⟩, ⟨"data", some .null⟩] }

def callUser (j : Json) : App Obj := do
  let name := j.toText
  match (← App.all .user).find? (·.getText "username" == name) with
  | some u => pure u
  | none => App.fail (Fault.doesNotExist "User")

def sig (name : String) (params : List Param) : Signature := { name, params }

def liveCall (fn : String) (args : Json) : Option (App Json) :=
  let unit (act : App Unit) : Option (App Json) := some do act; pure .null
  match fn with
  | "notify.send_dashboard_update" => some do
    let b ← bindArgs (sig "send_dashboard_update" [⟨"user_id", none⟩, ⟨"data", none⟩]) args
    Notifications.sendDashboardUpdate (b.arg "user_id") (b.arg "data"); pure .null
  | "notify.send_notification" => some do
    let b ← bindArgs notificationSig args
    match ← Notifications.sendNotification (b.arg "user_id") (b.arg "title") (b.arg "message")
        (b.arg "level") (b.arg "data") with
    | some n => App.fullJson n
    | none => pure .null
  | "notify.send_subscription_update" => some do
    let b ← bindArgs (sig "send_subscription_update" [⟨"user_id", none⟩, ⟨"subscription_data", none⟩]) args
    Notifications.sendSubscriptionUpdate (b.arg "user_id") (b.arg "subscription_data"); pure .null
  | "notify.send_payment_confirmation" => some do
    let b ← bindArgs (sig "send_payment_confirmation" [⟨"user_id", none⟩, ⟨"payment_data", none⟩]) args
    Notifications.sendPaymentConfirmation (b.arg "user_id") (b.arg "payment_data"); pure .null
  | "notify.send_subscription_expiry_warning" => some do
    let b ← bindArgs (sig "send_subscription_expiry_warning" [⟨"user_id", none⟩, ⟨"subscription_data", none⟩]) args
    Notifications.sendExpiryWarning (b.arg "user_id") (b.arg "subscription_data"); pure .null
  | "notify.send_admin_dashboard_update" => some do
    let b ← bindArgs (sig "send_admin_dashboard_update" [⟨"data", none⟩]) args
    Notifications.sendAdminDashboardUpdate (b.arg "data"); pure .null
  | "notify.send_admin_subscription_alert" => some do
    let b ← bindArgs (sig "send_admin_subscription_alert" [⟨"alert_type", none⟩, ⟨"data", none⟩]) args
    Notifications.sendAdminSubscriptionAlert (b.arg "alert_type") (b.arg "data"); pure .null
  | "notify.broadcast_system_message" => some do
    let b ← bindArgs (sig "broadcast_system_message"
      [⟨"message", none⟩, ⟨"level", some (.str "info")⟩, ⟨"target_groups", some .null⟩]) args
    Notifications.broadcastSystemMessage (b.arg "message") (b.arg "level") (b.arg "target_groups"); pure .null
  | "notify.send_to_multiple_users" => some do
    let b ← bindArgs (sig "send_to_multiple_users"
      [⟨"user_ids", none⟩, ⟨"message_data", none⟩, ⟨"message_type", some (.str "notification_message")⟩]) args
    Notifications.sendToMultipleUsers (b.arg "user_ids") (b.arg "message_data") (b.arg "message_type"); pure .null
  | "create_notification" => some do
    let b ← bindArgs createNotificationSig args
    let u ← callUser (b.arg "user")
    App.fullJson (← Notifications.create u (b.arg "title") (b.arg "message") (b.arg "level") (b.arg "data"))
  | "set_user_online" => some do
    let u ← callUser (← need args "user")
    App.fullJson (← Notifications.setOnline u)
  | "set_user_offline" => unit do
    Notifications.setOffline (← callUser (← need args "user"))
  | "get_online_users" => some do
    return Json.strs (← Notifications.onlineUsers)
  | _ => none

end Console
end Portal
