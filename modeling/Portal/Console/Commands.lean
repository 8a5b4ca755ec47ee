import Portal.Command.Run
import Portal.Console.Input
import Portal.Database.Maintenance
/-! The `command` step: runs one management command as code calls it, with prepared
answers for its prompts, and answers what it wrote and how it ended. -/
namespace Portal
namespace Console

def libraryVersion : String := "SQLite 3.40.1"

def maskVersion (s : String) : String := s.replace libraryVersion "SQLite <version>"

def asksRandom (words : List String) : Bool :=
  words.any fun w => w == "dashboard" || w.endsWith "=dashboard"

def terminalJson (t : Terminal) (failure : Option Fault) : Json :=
  .obj ((match failure with
      | some f => [("error", Json.str f.kind), ("message", .str f.message)]
      | none => []) ++
    [("stdout", .str (maskVersion t.out))] ++
    (if t.printed.isEmpty then [] else [("printed", .str (maskVersion t.printed))]) ++
    (if t.err.isEmpty then [] else [("stderr", .str (maskVersion t.err))]))

def overwritesDatabase (c : Command.Runnable) (words answers : List String) : Bool :=
  match (c.spec.grammar "").read words with
  | .ok vs =>
    vs.find "operation" == .str "restore" && Database.pathExists (vs.find "path").toText &&
      (answers.head?.map (·.toLower == "y")).getD false
  | .error _ => false

def answersOf (step : Json) : List String :=
  ((step.getArr? "answers").getD []).map Json.toText

def commandStep (step : Json) : App Json := do
  let name ← needStr step "name"
  let words := ((step.getArr? "args").getD []).map Json.toText
  let some c := Command.runnable? name | refuse "command not allowed"
  if name == "test_websocket" && asksRandom words then refuse "command not allowed"
  if name == "db_ops" && overwritesDatabase c words (answersOf step) then
    refuse "restore only from a path that does not exist"
  App.setTerminal { answers := answersOf step }
  let out ← App.attempt (Command.invoke c "" words)
  let t ← App.terminal
  App.setTerminal {}
  return terminalJson t (match out with
    | .ok () => none
    | .error f => some f)

end Console
end Portal
