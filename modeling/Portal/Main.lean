import Portal.Console.Session
import Portal.Command.Program
/-! The management program's command line. It runs one command, given by the arguments,
against a fresh site with empty tables, prints what the command wrote to its two outputs,
and exits with the command's status; a failure that escapes the command is printed as its
kind and message, with status 1. -/

def main (args : List String) : IO UInt32 := do
  let run : Portal.App (Except Portal.Fault Unit × Portal.Terminal) := do
    let out ← Portal.App.attempt (Portal.Command.program args)
    return (out, (← get).terminal)
  match run.run Portal.Console.freshWorld with
  | .ok (out, t) _ =>
    IO.print (t.out ++ t.printed)
    IO.eprint t.err
    match out with
    | .ok () => return 0
    | .error f =>
      if f.kind == "SystemExit" then return (f.message.toNat?.getD 1).toUInt32
      IO.eprintln (f.kind ++ ": " ++ f.message)
      return 1
  | .error f _ =>
    IO.eprintln (f.kind ++ ": " ++ f.message)
    return 1
