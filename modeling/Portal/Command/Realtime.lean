import Portal.Command.Output
import Portal.Notifications.Basic
import Portal.Accounts.Auth
/-! The command that tries the real-time messages: it sends a number of test messages of one
kind to one user, or to every user, making a test user when there are none. Each message
that cannot be sent is reported and the next one is tried. -/
namespace Portal
namespace Command

def messageKinds : List Json := [.str "notification", .str "dashboard", .str "subscription", .str "broadcast"]

def testWebsocketSpec : Spec :=
  { name := "test_websocket", help := "Test WebSocket real-time functionality",
    arguments := [
      Argument.option ["--user"] "user" "Username to send test messages to (default: sends to all users)",
      Argument.option ["--type"] "type" "Type of message to send" .text (.str "notification") messageKinds,
      Argument.option ["--count"] "count" "Number of messages to send" .int (.int 1),
      Argument.option ["--interval"] "interval" "Interval between messages in seconds" .float
        (.float (Sci.ofInt 1))] }

def notificationLevels : List String := ["info", "success", "warning", "error"]

def subscriptionStates : List String := ["active", "expired", "cancelled", "pending"]

def sendTest (kind : String) (user : Obj) (i : Nat) : App Unit := do
  let uid : Json := .int (user.pk.getD 0)
  let clock := (Moment.utc (← App.now)).clockText
  match kind with
  | "notification" =>
    discard <| Notifications.sendNotification uid (.str ("Test Notification #" ++ toString (i + 1)))
      (.str ("This is test notification #" ++ toString (i + 1) ++ " sent at " ++ clock))
      (.str (notificationLevels.getD (i % 4) "info")) .null
  | "subscription" =>
    Notifications.sendSubscriptionUpdate uid (.obj [("status", .str (subscriptionStates.getD (i % 4) "active")),
      ("plan_name", .str "Premium Plan"), ("amount", .str "29.99"), ("currency", .str "USD"),
      ("next_billing", .str (Moment.dateText (Moment.utc (← App.now)).fields))])
  | "broadcast" =>
    Notifications.broadcastSystemMessage
      (.str ("Broadcast message #" ++ toString (i + 1) ++ " sent at " ++ clock)) (.str "info") .null
  | _ => pure ()

def sendTests (kind : String) (count : Int) (user : Obj) : App Unit := do
  for i in List.range count.toNat do
    match ← App.attempt (sendTest kind user i) with
    | .ok () => App.say ("Sent " ++ kind ++ " message #" ++ toString (i + 1) ++ " to " ++ user.getText "username")
    | .error f => App.say ("Error sending " ++ kind ++ " message #" ++ toString (i + 1) ++ ": " ++ f.message)

def testWebsocket (vs : Values) : App Unit := do
  let kind := (vs.find "type").toText
  let count := vs.intOr "count" 1
  App.say ("Testing WebSocket " ++ kind ++ " messages...")
  let username := vs.find "user"
  if username.truthy then
    match (← App.all .user).find? (·.getText "username" == username.toText) with
    | some u =>
      App.say ("Sending to user: " ++ u.getText "username" ++ " (ID: " ++ toString (u.pk.getD 0) ++ ")")
      sendTests kind count u
    | none =>
      App.say ("User " ++ username.toText ++ " does not exist")
      return
  else
    let users ← App.all .user
    if !users.isEmpty then
      App.say ("Sending to " ++ toString users.length ++ " users")
      for u in users do sendTests kind count u
    else
      App.say "No users found. Creating test user..."
      let u ← Accounts.createUser "testuser" "test@example.com" (some "testpass123") []
      sendTests kind count u
  App.say "WebSocket test completed"

end Command
end Portal
