import Portal.World
/-! Running one of the project's scripts. A script prints lines, may write files into its
working directory, and ends by returning a value, by exiting with a code, or by raising an
exception. Its working directory starts with the files it is given. -/
namespace Portal
namespace Scripts

inductive Halt where
  | exit (code : Int)
  | raise (f : Fault)
  deriving Inhabited

structure Desk where
  out : String := ""
  given : List (String × String) := []
  written : List (String × String) := []
  deriving Inhabited

abbrev Script := EStateM Halt Desk

def scratch : String := "<scratch>"

def say (s : String) : Script Unit := modify fun d => { d with out := d.out ++ s ++ "\n" }

def exit {α : Type} (code : Int) : Script α := throw (.exit code)

def raise {α : Type} (kind message : String) : Script α := throw (.raise ⟨kind, message⟩)

def ofExcept {α : Type} (r : Except Fault α) : Script α :=
  match r with
  | .ok a => pure a
  | .error f => throw (.raise f)

def readFile? (path : String) : Script (Option String) := do
  let d ← get
  return ((d.written.find? (·.1 == path)).map (·.2)) <|> ((d.given.find? (·.1 == path)).map (·.2))

def writeFile (path text : String) : Script Unit :=
  let put (files : List (String × String)) : List (String × String) :=
    if files.any (·.1 == path) then files.map fun p => if p.1 == path then (path, text) else p
    else files ++ [(path, text)]
  modify fun d => { d with written := put d.written }

def finish {α : Type} (r : EStateM.Result Halt Desk α) : Except Halt α × Desk :=
  match r with
  | .ok a d => (.ok a, d)
  | .error h d => (.error h, d)

end Scripts
end Portal
