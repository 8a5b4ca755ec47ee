import Portal.World
/-! The channel layer as the application uses it: joining and leaving groups, sending to a
group, and taking the messages waiting on a channel. Group names are checked on every use;
a bad one fails with the layer's own message. -/
namespace Portal
namespace Channels

def nameError : Fault :=
  ⟨"TypeError", "Group name must be a valid unicode string with length < 100 containing only ASCII alphanumerics, hyphens, underscores, or periods."⟩

def requireGroup (g : String) : App Unit :=
  if Layer.validName g then pure () else App.fail nameError

def groupOf (j : Json) : App String :=
  match j with
  | .str g => do requireGroup g; pure g
  | _ => App.fail nameError

def layer : App Layer := do return (← get).layer

def setLayer (l : Layer) : App Unit := modify fun w => { w with layer := l }

def groupAdd (g ch : String) : App Unit := do
  requireGroup g
  setLayer ((← layer).groupAdd g ch)

def groupDiscard (g ch : String) : App Unit := do
  requireGroup g
  setLayer ((← layer).groupDiscard g ch)

def groupSend (g : String) (msg : Json) : App Unit := do
  requireGroup g
  setLayer ((← layer).groupSend g msg)

def drain (ch : String) : App (List Json) := do
  let (msgs, l) := (← layer).drain ch
  setLayer l
  return msgs

def pop (ch : String) : App (Option Json) := do
  match (← layer).pop ch with
  | some (m, l) => setLayer l; return some m
  | none => return none

end Channels
end Portal
