import Portal.Store.Basic
import Portal.Channels.Layer
import Portal.Channels.Socket
import Portal.Plugins.Basic
/-! The state one input runs against, and the computation type over it. `App` keeps the
state reached when a failure is raised: nothing is rolled back, so work done before the
failure stays, as it does in the running application. -/
namespace Portal

structure Fault where
  kind : String
  message : String
  deriving Repr, Inhabited

namespace Fault

def doesNotExist (model : String) : Fault := ⟨"DoesNotExist", model ++ " matching query does not exist."⟩

def ofDb (e : DbError) : Fault := ⟨e.kind, e.message⟩

def keyError (key : String) : Fault := ⟨"KeyError", "'" ++ key ++ "'"⟩

end Fault

namespace Json

def occursIn (needle : String) (j : Json) : Except Fault Bool :=
  match j with
  | .str s => .ok ((List.range (s.length + 1)).any fun i => needle.toList.isPrefixOf (s.toList.drop i))
  | .arr xs => .ok (xs.any (· == .str needle))
  | .obj kvs => .ok (kvs.any (·.1 == needle))
  | other => .error ⟨"TypeError", "argument of type '" ++ other.kindName ++ "' is not iterable"⟩

def index (j : Json) (k : String) : Except Fault Json :=
  match j with
  | .obj kvs => match kvs.find? (·.1 == k) with
    | some (_, v) => .ok v
    | none => .error (Fault.keyError k)
  | .str _ => .error ⟨"TypeError", "string indices must be integers, not 'str'"⟩
  | .arr _ => .error ⟨"TypeError", "list indices must be integers or slices, not str"⟩
  | other => .error ⟨"TypeError", "'" ++ other.kindName ++ "' object is not subscriptable"⟩

end Json

structure Overrides where
  slowRequestMs : Option Json := none
  skipPaths : Option Json := none
  skipMethods : Option Json := none
  skipUserAgents : Option Json := none
  webhookSecret : Option Json := none
  serverDatabase : Bool := false
  deriving Inhabited

structure Exchange where
  messages : List (String × String) := []
  templates : List String := []
  context : Option Json := none
  formRead : Bool := false
  sessionRead : Bool := false
  deriving Inhabited

structure Terminal where
  out : String := ""
  printed : String := ""
  err : String := ""
  answers : List String := []
  deriving Inhabited

structure Host where
  stripePublicKey : String := ""
  stripeWebhookSecret : String := ""
  seconds : Int := 0
  deriving Inhabited

structure World where
  clock : Instant := Instant.start
  db : Db := Db.empty
  context : List (String × Json) := []
  uuids : Nat := 0
  layer : Layer := {}
  settings : Overrides := {}
  exchange : Exchange := {}
  login : Option (Nat × String) := none
  probes : List (String × String) := []
  probeCount : Nat := 0
  sockets : List (String × Socket) := []
  outbox : List Json := []
  terminal : Terminal := {}
  plugins : List (Json × Plugin) := Plugin.startup
  host : Host := {}
  deriving Inhabited

abbrev App := EStateM Fault World

namespace App

def fail {α : Type} (f : Fault) : App α := throw f

def raise {α : Type} (kind message : String) : App α := throw ⟨kind, message⟩

def now : App Instant := do return (← get).clock

def db : App Db := do return (← get).db

def setDb (db : Db) : App Unit := modify fun w => { w with db }

def ofDb {α : Type} (r : Except DbError α) : App α :=
  match r with
  | .ok a => pure a
  | .error e => throw (Fault.ofDb e)

def ofExcept {α : Type} (r : Except Fault α) : App α :=
  match r with
  | .ok a => pure a
  | .error e => throw e

def attempt {α : Type} (act : App α) : App (Except Fault α) :=
  tryCatch (do return .ok (← act)) fun e => pure (.error e)

def quietly (act : App Unit) : App Unit := tryCatch act fun _ => pure ()

end App
end Portal
