import Portal.Config.Settings
import Portal.Console.Input
/-! The `settings` step: the project's settings evaluated under a given environment. -/
namespace Portal
namespace Console

def settingsStep (step : Json) : App Json := do
  let env : Config.Env := ((step.getObj? "env").getD []).map fun (k, v) => (k, v.toText)
  let names := (step.getArr? "names").map (·.map Json.toText)
  return .obj (← App.ofExcept (Config.lookup env names))

end Console
end Portal
