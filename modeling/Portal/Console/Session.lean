import Portal.Console.Methods
import Portal.Console.Web
import Portal.Console.Calls
import Portal.Console.Commands
import Portal.Console.SettingsStep
import Portal.Console.ScriptSteps
import Portal.Console.Wire
import Portal.Console.Manage
import Portal.Json.Read
import Portal.Json.Write
/-! One input: a session of steps, or a single step. Each input starts from a fresh world
(empty tables but for the site row, the clock at its start); every step but `advance` first
moves the clock one second. A failing step answers its failure and the session goes on with
whatever the step had done before it failed. -/
namespace Portal
namespace Console

def inputHost : Host :=
  { stripePublicKey := "pk_test_oracle", stripeWebhookSecret := "whsec_test", seconds := 1790000000 }

def freshWorld : World :=
  let db := Db.empty
  let db := match db.insert .site [("domain", .text "testserver"), ("name", .text "testserver")] with
    | .ok (db, _) => db
    | .error _ => db
  { db, host := inputHost }

def dispatch (kind : String) (step : Json) : Option (App Json) :=
  match kind with
  | "advance" => some do
    let secs ← match ← need step "seconds" with
      | .int n => pure n
      | .float f => pure f.toInt
      | _ => refuse "seconds must be a number"
    modify fun w => { w with clock := w.clock + secs * Instant.second }
    return .obj [("now", .str (Moment.utc (← App.now)).iso)]
  | "user" => some (userStep step)
  | "create" => some (createStep step)
  | "update" => some (updateStep step)
  | "get" => some (getStep step)
  | "list" => some (listStep step)
  | "count" => some (countStep step)
  | "delete" => some (deleteStep step)
  | "method" => some (methodStep step)
  | "request" => some (requestStep step)
  | "wsgi" | "asgi" => some (wireStep step)
  | "login" => some (loginStep step)
  | "login_password" => some (loginPasswordStep step)
  | "logout" => some logoutStep
  | "view" => some (viewStep step)
  | "form" => some (formStep step)
  | "call" => some (callStep step)
  | "listen" => some (listenStep step)
  | "receive" => some (receiveStep step)
  | "ws" => some (wsStep step)
  | "command" => some (commandStep step)
  | "manage" => some (manageStep step)
  | "settings" => some (settingsStep step)
  | "gtp" => some (gtpStep step)
  | "crawl" => some (crawlStep step)
  | "init_database" => some (initDatabaseStep step)
  | "sample_data" => some sampleDataStep
  | _ => none

def faultJson (f : Fault) : Json := .obj [("error", .str f.kind), ("message", .str f.message)]

def takesServerDatabase (kind : String) (step : Json) : Bool :=
  (kind == "call" && ((step.getStr? "fn").getD "").startsWith "db.") ||
    (kind == "command" && step.getStr? "name" == some "db_ops")

def withDatabaseOption (kind : String) (step : Json) (act : App Json) : App Json := do
  if !((step.get? "pg").map Json.truthy).getD false then act else
  if !takesServerDatabase kind step then refuse "pg applies to db.* calls and the db_ops command"
  let server (on : Bool) : App Unit := modify fun w => { w with settings := { w.settings with serverDatabase := on } }
  server true
  let out ← App.attempt act
  server false
  App.ofExcept out

def runStep (step : Json) : App Json := do
  let kind := (step.getStr? "do").getD ((step.getStr? "op").getD "")
  match dispatch kind step with
  | none => return faultJson ⟨"InputError", s!"unknown step: {Text.quoteLiteral kind}"⟩
  | some act =>
    if kind != "advance" then
      modify fun w => { w with clock := w.clock + Instant.second }
    match ← App.attempt (withDatabaseOption kind step act) with
    | .ok j => return j
    | .error f => return faultJson f

def runSteps (steps : List Json) : App (List Json) := steps.mapM runStep

def overrides (j : Json) : Overrides :=
  { slowRequestMs := j.get? "SLOW_REQUEST_THRESHOLD_MS", skipPaths := j.get? "LOGGING_SKIP_PATHS"
    skipMethods := j.get? "LOGGING_SKIP_METHODS", skipUserAgents := j.get? "LOGGING_SKIP_USER_AGENTS"
    webhookSecret := j.get? "STRIPE_WEBHOOK_SECRET" }

def answerJson (input : Json) : Json :=
  match input with
  | .obj _ =>
    let op := input.getStr? "op"
    let isSession := op == some "session" || (op.isNone && (input.get? "do").isNone)
    if isSession then
      match input.get? "steps" with
      | none => faultJson ⟨"InputError", "missing field: steps"⟩
      | some (.arr steps) =>
        let world := { freshWorld with settings := overrides ((input.get? "settings").getD (.obj [])) }
        match (runSteps steps).run world with
        | .ok answers _ => .obj [("steps", .arr answers)]
        | .error f _ => faultJson f
      | some _ => faultJson ⟨"InputError", "steps must be a list"⟩
    else
      match (runStep input).run freshWorld with
      | .ok j _ => j
      | .error f _ => faultJson f
  | _ => faultJson ⟨"InputError", "input must be an object"⟩

def answer (line : String) : String :=
  match Json.parse line with
  | .error e => (faultJson ⟨"JSONDecodeError", e.render line⟩).render
  | .ok input => (answerJson input).render

end Console
end Portal
