import Portal.Console.AuditCalls
import Portal.Console.SiteCalls
import Portal.Console.Sockets
import Portal.Console.PluginCalls
import Portal.Console.DatabaseCalls
/-! The `call` step: one named function of the application, with its arguments. -/
namespace Portal
namespace Console

def callStep (step : Json) : App Json := do
  let fn ← needStr step "fn"
  let args := (step.get? "args").getD (.obj [])
  match auditCall fn step args <|> siteCall fn args <|> liveCall fn args <|> pluginCall fn args <|>
      databaseCall fn args with
  | some act => act
  | none => refuse "unknown fn"

end Console
end Portal
