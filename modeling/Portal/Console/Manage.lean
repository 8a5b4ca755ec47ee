import Portal.Command.Program
import Portal.Console.Commands
/-! The `manage` step: runs the management program with a command line and answers how
it ended, with what it wrote. Migrating only ever shows its plan, and making migrations
is always a dry run. A command line that would ask for random values, or name an empty
migration after the current time, is refused. -/
namespace Portal
namespace Console

def givesOption (words : List String) (option : String) (least : Nat) : Bool :=
  words.any fun w =>
    let flag := (w.splitOn "=").headD w
    flag.length ≥ least && option.startsWith flag

def programAnswer (out : Except Fault Unit) (t : Terminal) : Json :=
  let exit : List (String × Json) := match out with
    | .ok () => [("exit", .int 0)]
    | .error f =>
      if f.kind == "SystemExit" then [("exit", .int ((f.message.toNat?).getD 1))]
      else [("exit", .null), ("error", .str f.kind), ("message", .str f.message)]
  .obj (exit ++ [("stdout", .str (maskVersion (t.out ++ t.printed)))] ++
    (if t.err.isEmpty then [] else [("stderr", .str (maskVersion t.err))]))

def manageStep (step : Json) : App Json := do
  let argv := ((step.getArr? "argv").getD []).map Json.toText
  match argv with
  | "test_websocket" :: rest => if asksRandom rest then refuse "command not allowed"
  | "makemigrations" :: rest =>
    let named := givesOption rest "--name" 4 || rest.any fun w => w.startsWith "-n"
    if givesOption rest "--empty" 4 && !named then
      refuse "makemigrations --empty needs --name: the default name holds the current time"
  | _ => pure ()
  let argv := match argv with
    | "migrate" :: rest => "migrate" :: rest ++ ["--plan"]
    | "makemigrations" :: rest => "makemigrations" :: rest ++ ["--dry-run"]
    | other => other
  App.setTerminal { answers := answersOf step }
  let out ← App.attempt (Command.program argv)
  let t ← App.terminal
  App.setTerminal {}
  match out with
  | .error f => if f.kind == "InputError" then App.fail f else return programAnswer out t
  | .ok () => return programAnswer out t

end Console
end Portal
