import Portal.Web.View
import Portal.Web.Routes
import Portal.Accounts.Auth
import Portal.Forms.Basic
/-! The account pages: signing in, signing out and signing up. A visitor who is already
signed in is sent on from the sign-in and sign-up pages. Signing in checks the name and
password against the users, logs the attempt either way, and on success starts the
session and sends the visitor on with a confirmation message; signing out ends the session
the same way. Where to go next may be given as `next`, taken only when it stays on this
site. -/
namespace Portal
namespace Accounts
open Web

def originOf (r : Request) : Origin :=
  { ip := r.remoteAddr, agent := (r.header? "HTTP_USER_AGENT").getD "" }

def nextParam (r : Request) : Option String :=
  match r.field? "next" with
  | some v => if v.isEmpty then r.param? "next" else some v
  | none => r.param? "next"

def staysOnSite (url : String) : Bool :=
  let u := (url.trimAscii.toString).replace "\\" "/"
  let onHost (rest : String) : Bool :=
    rest == "//testserver" || rest.startsWith "//testserver/" || rest.startsWith "//testserver?"
  let cs := u.toList
  let scheme := cs.takeWhile fun c => c.isAlphanum || c == '+' || c == '-' || c == '.'
  let afterScheme := cs.drop scheme.length
  let hasScheme := match scheme, afterScheme with
    | c :: _, ':' :: _ => c.isAlpha
    | _, _ => false
  match cs with
  | [] => false
  | first :: _ =>
    if u.startsWith "///" then false
    else if u.startsWith "//" then onHost u
    else if !hasScheme then !(first.toNat < 32 || first.toNat == 127)
    else
      let lower := (String.ofList scheme).toLower
      (lower == "http" || lower == "https") && onHost (String.ofList (afterScheme.drop 1))

def safeNext (r : Request) : Option String :=
  (nextParam r).bind fun u => if staysOnSite u then some u else none

def afterLogin (r : Request) : String := (safeNext r).getD "/dashboard"

def passNext (r : Request) (url : String) : String :=
  match safeNext r with
  | some n => url ++ "?next=" ++ quotePlus n
  | none => url

def loginFields : List Forms.FieldSpec :=
  [{ name := "login", kind := .text (some 150) }, { name := "password", kind := .text none },
    { name := "remember", kind := .flag, required := false }]

def signupFields : List Forms.FieldSpec :=
  [{ name := "username", kind := .text (some 150) }, { name := "email", kind := .text none, required := false },
    { name := "password1", kind := .text none }, { name := "password2", kind := .text none }]

def mismatch : String := "The username and/or password you specified are not correct."

def loginForm (r : Request) (bound : Option Forms.Outcome) : App Response := do
  let site ← App.load .site 1
  App.render "account/login.html" [("form", Forms.summary "LoginForm" loginFields bound),
    ("signup_url", .str (passNext r "/accounts/signup/")), ("site", ← App.refJson site),
    ("redirect_field_name", .str "next"), ("redirect_field_value", Json.optStr (nextParam r))]

def credentialsOwner (login password : String) : App (Option Obj) := do
  let users ← App.all .user
  let alike := users.filter fun u => foldCase (u.getText "username") == foldCase login
  let named := match users.find? (·.getText "username" == login) with
    | some u => some u
    | none => match alike with
      | [u] => some u
      | _ => none
  return named.bind fun u => if passwordMatches u password then some u else none

def loginPost (r : Request) : App Response := do
  App.readForm
  let o ← Forms.readAll loginFields (Forms.Submitted.ofPairs r.form) fun _ _ v => pure (.ok v)
  if !o.valid then return ← loginForm r (some o)
  let login := o.text "login"
  match ← authenticate login (o.text "password") with
  | some u =>
    signedIn u (some (originOf r))
    startSession (← App.load .user (u.pk.getD 0))
    discard <| App.render "account/messages/logged_in.txt" []
    App.message "success" "ok"
    return .redirect (afterLogin r)
  | none =>
    attemptFailed (.str login) (some (originOf r))
    match ← credentialsOwner login (o.text "password") with
    | some _ => return .redirect "/accounts/inactive/"
    | none => loginForm r (some (o.addError "__all__" mismatch))

def loginPage (r : Request) : App Response := do
  if r.isAuthenticated then return .redirect (afterLogin r)
  let methods := ["GET", "POST", "PUT", "HEAD", "OPTIONS"]
  match r.method with
  | "POST" | "PUT" => loginPost r
  | "GET" | "HEAD" => loginForm r none
  | "OPTIONS" => return .options methods
  | _ => return .notAllowed methods

def logoutPage (r : Request) : App Response := do
  let target := (safeNext r).getD "/"
  let methods := ["GET", "POST", "HEAD", "OPTIONS"]
  match r.method with
  | "POST" =>
    if let some u := r.user then
      discard <| App.render "account/messages/logged_out.txt" []
      App.message "success" "ok"
      signedOut u (some (originOf r))
      endSession
    return .redirect target
  | "GET" | "HEAD" =>
    if !r.isAuthenticated then return .redirect target
    App.render "account/logout.html" [("redirect_field_name", .str "next"),
      ("redirect_field_value", Json.optStr (nextParam r))]
  | "OPTIONS" => return .options methods
  | _ => return .notAllowed methods

def signupPage (r : Request) : App Response := do
  if r.isAuthenticated then return .redirect (afterLogin r)
  let methods := ["GET", "POST", "PUT", "HEAD", "OPTIONS"]
  match r.method with
  | "GET" | "HEAD" =>
    App.render "account/signup.html" [("form", Forms.summary "SignupForm" signupFields none),
      ("login_url", .str (passNext r "/accounts/login/")), ("redirect_field_name", .str "next"),
      ("redirect_field_value", Json.optStr (nextParam r))]
  | "OPTIONS" => return .options methods
  | "POST" | "PUT" => App.notFound "No page"
  | _ => return .notAllowed methods

def page (r : Request) : AccountPage → App Response
  | .login => loginPage r
  | .logout => logoutPage r
  | .signup => signupPage r

end Accounts
end Portal
