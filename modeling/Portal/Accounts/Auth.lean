import Portal.Records.Describe
import Portal.Records.Query
/-! Signing in and out. A password is kept as `md5$` followed by the text, or `!` when the
user has none that can be used. Credentials match a user whose name is exactly the one
given, or else one whose name differs from it only in case; an inactive user never signs
in. Every sign-in stamps the user's last-login time and logs an `auth` entry, as do
sign-outs and failed attempts, each carrying the address and agent of the request it came
from. -/
namespace Portal
namespace Accounts

structure Origin where
  ip : Option String := none
  agent : String := ""

def passwordMatches (u : Obj) (raw : String) : Bool :=
  u.getText "password" == "md5$" ++ raw

def authenticate (username password : String) : App (Option Obj) := do
  let users ← App.all .user
  let exact := users.filter (·.getText "username" == username)
  let folded := users.filter (fun u => foldCase (u.getText "username") == foldCase username)
  let ok (u : Obj) : Bool := passwordMatches u password && u.getBool "is_active"
  match exact.find? ok with
  | some u => return some u
  | none => match folded with
    | [u] => return if ok u then some u else none
    | _ => return none

def ipValue (o : Origin) : Value := Value.ofOptText o.ip

def signedIn (u : Obj) (origin : Option Origin) : App Unit := do
  let u ← App.save (u.set "last_login" (Value.now (← App.now))) (some ["last_login"])
  match origin with
  | none => pure ()
  | some o =>
    App.quietly do
      let uid := u.pk.getD 0
      let username := u.getText "username"
      discard <| App.logEntry {
        level := .text "INFO", category := .text "auth",
        message := .text ("User login: " ++ username ++ " (ID: " ++ toString uid ++ ")"),
        userId := .int uid,
        metadata := .ok (.obj [("action", .str "login"), ("username", .str username),
          ("email", .str (u.getText "email")), ("ip_address", Json.optStr o.ip),
          ("user_agent", .str o.agent)]),
        ip := ipValue o, userAgent := .text o.agent }

def signedOut (u : Obj) (origin : Option Origin) : App Unit :=
  App.quietly do
    let ip := (origin.bind (·.ip))
    let uid := u.pk.getD 0
    let username := u.getText "username"
    discard <| App.logEntry {
      level := .text "INFO", category := .text "auth",
      message := .text ("User logout: " ++ username ++ " (ID: " ++ toString uid ++ ")"),
      userId := .int uid,
      metadata := .ok (.obj [("action", .str "logout"), ("username", .str username),
        ("ip_address", Json.optStr ip)]),
      ip := Value.ofOptText ip }

def attemptFailed (username : Json) (origin : Option Origin) : App Unit :=
  match origin with
  | none => pure ()
  | some o =>
    App.quietly do
      discard <| App.logEntry {
        level := .text "WARN", category := .text "auth",
        message := .text ("Failed login attempt for username: " ++ username.toText),
        metadata := .ok (.obj [("action", .str "login_failed"), ("username", username),
          ("ip_address", Json.optStr o.ip), ("user_agent", .str o.agent)]),
        ip := ipValue o, userAgent := .text o.agent }

def sessionUser : App (Option Obj) := do
  match (← get).login with
  | none => return none
  | some (pk, pw) =>
    match ← App.find? .user pk with
    | some u =>
      if !u.getBool "is_active" then return none
      else if u.getText "password" == pw then return some u
      else
        modify fun w => { w with login := none }
        return none
    | none => return none

def startSession (u : Obj) : App Unit :=
  modify fun w => { w with login := some (u.pk.getD 0, u.getText "password") }

def endSession : App Unit := modify fun w => { w with login := none }

def normalizeEmail (email : String) : String :=
  let trimmed := ((email.toList.dropWhile Char.isWhitespace).reverse.dropWhile Char.isWhitespace).reverse
  match trimmed.reverse.span (· != '@') with
  | (domain, _ :: name) => String.ofList name.reverse ++ "@" ++ (String.ofList domain.reverse).toLower
  | (_, []) => email

def createUser (username : String) (email : String) (password : Option String)
    (extra : List (String × Json)) : App Obj := do
  if username.isEmpty then App.raise "ValueError" "The given username must be set"
  let now ← App.now
  let o := (Obj.fresh .user now).set "username" (.text username)
  let o := o.set "email" (.text (normalizeEmail email))
  let o := o.set "password" (.text (match password with
    | some p => "md5$" ++ p
    | none => "!"))
  let o := extra.foldl (fun o (k, v) => o.set k (Value.ofJson v)) o
  App.save o

end Accounts
end Portal
