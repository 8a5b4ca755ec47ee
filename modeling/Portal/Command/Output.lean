import Portal.Command.Help
import Portal.World
/-! What a management command is and how it talks to its terminal. A command has a name, a
help text, its own arguments and possibly subcommands; every command also takes the common
options for verbosity, settings, tracebacks and colour. A command writes lines to its
output, each ended by a line break unless it already ends with one; text printed plainly
and the error output are kept apart; a prompt is written to the output and reads the next
prepared answer, or `n` when none is left. -/
namespace Portal
namespace Command

def frameworkVersion : String := "5.0.6"

def commonArguments (checks : Bool) : List Argument :=
  [{ flags := ["--version"], dest := "version", act := .version, arity := .none,
      help := "Show program's version number and exit." },
    { flags := ["-v", "--verbosity"], dest := "verbosity", reader := .int, dflt := .int 1,
      choices := [.int 0, .int 1, .int 2, .int 3],
      help := "Verbosity level; 0=minimal output, 1=normal output, 2=verbose output, 3=very verbose output" },
    Argument.option ["--settings"] "settings"
      ("The Python path to a settings module, e.g. \"myproject.settings.main\". If this isn't " ++
        "provided, the DJANGO_SETTINGS_MODULE environment variable will be used."),
    Argument.option ["--pythonpath"] "pythonpath"
      "A directory to add to the Python path, e.g. \"/home/djangoprojects/myproject\".",
    Argument.flag ["--traceback"] "traceback" "Raise on CommandError exceptions.",
    Argument.flag ["--no-color"] "no_color" "Don't colorize the command output.",
    Argument.flag ["--force-color"] "force_color" "Force colorization of the command output."] ++
  (if checks then [Argument.flag ["--skip-checks"] "skip_checks" "Skip system checks."] else [])

structure Spec where
  name : String
  help : String := ""
  arguments : List Argument := []
  subcommands : List Subcommand := []
  subcommandDest : String := "command"
  subcommandHelp : String := ""
  checks : Bool := true
  deriving Inhabited

def Spec.grammar (s : Spec) (program : String) : Grammar :=
  let sub : List Argument := if s.subcommands.isEmpty then [] else
    [{ dest := s.subcommandDest, arity := .subcommand, help := s.subcommandHelp }]
  { prog := program ++ " " ++ s.name, description := s.help,
    arguments := [helpArgument] ++ s.arguments ++ commonArguments s.checks ++ sub,
    subcommands := s.subcommands, subcommandDest := s.subcommandDest,
    subcommandHelp := s.subcommandHelp }

end Command

namespace App

def terminal : App Terminal := do return (← get).terminal

def setTerminal (t : Terminal) : App Unit := modify fun w => { w with terminal := t }

def say (s : String) : App Unit := do
  let t ← terminal
  setTerminal { t with out := t.out ++ (if s.endsWith "\n" then s else s ++ "\n") }

def sayEnding (s ending : String) : App Unit := do
  let t ← terminal
  setTerminal { t with out := t.out ++ (if ending.isEmpty || s.endsWith ending then s else s ++ ending) }

def complain (s : String) : App Unit := do
  let t ← terminal
  setTerminal { t with err := t.err ++ (if s.endsWith "\n" then s else s ++ "\n") }

def print (s : String) : App Unit := do
  let t ← terminal
  setTerminal { t with printed := t.printed ++ s ++ "\n" }

def printRaw (s : String) : App Unit := do
  let t ← terminal
  setTerminal { t with printed := t.printed ++ s }

def ask (prompt : String) : App String := do
  let t ← terminal
  match t.answers with
  | a :: rest => setTerminal { t with out := t.out ++ prompt, answers := rest }; return a
  | [] => setTerminal { t with out := t.out ++ prompt }; return "n"

end App
end Portal
