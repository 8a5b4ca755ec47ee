import Portal.Command.Logs
import Portal.Command.Realtime
import Portal.Command.Plugins
import Portal.Command.Database
/-! Running management commands. A command called from code reads its words with its
grammar; a wrong line becomes a command error carrying the reader's message, and a request
for help or for the version prints it and stops. The colour options may not both be given. -/
namespace Portal
namespace Command

structure Runnable where
  spec : Spec
  run : Values → App Unit

def runnables : List Runnable :=
  [⟨viewLogsSpec, viewLogs⟩, ⟨cleanupLogsSpec, cleanupLogs⟩, ⟨testWebsocketSpec, testWebsocket⟩,
    ⟨listPluginsSpec, listPlugins⟩, ⟨validatePluginsSpec, validatePlugins⟩, ⟨dbOpsSpec, dbOps⟩]

def runnable? (name : String) : Option Runnable := runnables.find? (·.spec.name == name)

def execute (c : Runnable) (vs : Values) : App Unit := do
  if (vs.find "no_color").truthy && (vs.find "force_color").truthy then
    App.raise "CommandError" "The --no-color and --force-color options can't be used together."
  c.run vs

def invoke (c : Runnable) (program : String) (words : List String) : App Unit := do
  match (c.spec.grammar program).read words with
  | .error (.error m _) => App.raise "CommandError" ("Error: " ++ m)
  | .error (.help g) => App.printRaw (helpText g); App.raise "SystemExit" "0"
  | .error .version => App.printRaw (frameworkVersion ++ "\n"); App.raise "SystemExit" "0"
  | .ok vs => execute c vs

end Command
end Portal
