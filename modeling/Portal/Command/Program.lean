import Portal.Command.Run
import Portal.Command.Checks
import Portal.Command.Migrate
import Portal.Text.Similar
/-! The management program run with a command line. With no words, or `help` alone, it
lists the commands by application; `help` with a command name shows that command's help,
and `version` the framework's version. Any other first word names the command to run;
a name that is no command is answered with the closest command names, if any.

A command run from the command line reads its words with its grammar: a wrong line prints
the usage and the message to the error output and ends with status 2; asking for help
prints it and ends. A command error is printed to the error output and ends with status
1, unless tracebacks were asked for; any other failure escapes. -/
namespace Portal
namespace Command

def programRunnables : List Runnable :=
  [⟨checkSpec, check⟩, ⟨showMigrationsSpec, showMigrations⟩, ⟨sqlMigrateSpec, sqlMigrate⟩,
    ⟨migrateSpec, migrate⟩, ⟨makeMigrationsSpec, makeMigrations⟩, ⟨viewLogsSpec, viewLogs⟩,
    ⟨cleanupLogsSpec, cleanupLogs⟩, ⟨testWebsocketSpec, testWebsocket⟩, ⟨listPluginsSpec, listPlugins⟩,
    ⟨validatePluginsSpec, validatePlugins⟩]

def programRunnable? (name : String) : Option Runnable := programRunnables.find? (·.spec.name == name)

def programName : String := "manage.py"

def mainHelp : String :=
  let head := ["", "Type '" ++ programName ++ " help <subcommand>' for help on a specific subcommand.", "",
    "Available subcommands:"]
  let groups := Config.commandsByApp.flatMap fun (app, names) =>
    ["", "[" ++ app ++ "]"] ++ (names.mergeSort fun a b => decide (a ≤ b)).map ("    " ++ ·)
  "\n".intercalate (head ++ groups)

def sayRaw (s : String) : App Unit := do
  let t ← App.terminal
  App.setTerminal { t with out := t.out ++ s }

def complainRaw (s : String) : App Unit := do
  let t ← App.terminal
  App.setTerminal { t with err := t.err ++ s }

def exitWith (code : Nat) : App Unit := App.raise "SystemExit" (toString code)

def unknownCommand (name : String) : App Unit := do
  let hint := match Text.closeMatches name Config.commandNames with
    | best :: _ => ". Did you mean " ++ best ++ "?"
    | [] => ""
  complainRaw ("Unknown command: " ++ Text.quoteLiteral name ++ hint ++ "\nType '" ++ programName ++
    " help' for usage.\n")
  exitWith 1

def runFromLine (c : Runnable) (words : List String) : App Unit := do
  match (c.spec.grammar programName).read words with
  | .error (.error m g) => complainRaw (errorText g m); exitWith 2
  | .error (.help g) => sayRaw (helpText g); exitWith 0
  | .error .version => sayRaw (frameworkVersion ++ "\n"); exitWith 0
  | .ok vs =>
    match ← App.attempt (execute c vs) with
    | .ok () => pure ()
    | .error f =>
      if (f.kind == "CommandError" || f.kind == "SystemCheckError") && !(vs.find "traceback").truthy then
        App.complain (if f.kind == "SystemCheckError" then f.message else "CommandError: " ++ f.message)
        exitWith 1
      else App.fail f

def helpWords : List String → List String
  | [] => []
  | "--settings" :: _ :: rest | "--pythonpath" :: _ :: rest => helpWords rest
  | w :: rest => if w.startsWith "-" then helpWords rest else w :: helpWords rest

def knowsCommand (name : String) : Bool := (programRunnable? name).isSome

def program (argv : List String) : App Unit := do
  match argv with
  | [] => sayRaw (mainHelp ++ "\n")
  | "help" :: rest =>
    if rest.contains "--commands" then sayRaw ("\n".intercalate Config.commandNames ++ "\n")
    else match helpWords rest with
      | [] => sayRaw (mainHelp ++ "\n")
      | name :: _ =>
        match programRunnable? name with
        | some c => sayRaw (helpText (c.spec.grammar programName))
        | none =>
          if Config.commandNames.contains name then App.raise "InputError" "command not allowed"
          else unknownCommand name
  | "version" :: _ => sayRaw (frameworkVersion ++ "\n")
  | ["--version"] => sayRaw (frameworkVersion ++ "\n")
  | ["--help"] | ["-h"] => sayRaw (mainHelp ++ "\n")
  | name :: rest =>
    match programRunnable? name with
    | some c => runFromLine c rest
    | none =>
      if Config.commandNames.contains name then App.raise "InputError" "command not allowed"
      else unknownCommand name

end Command
end Portal
