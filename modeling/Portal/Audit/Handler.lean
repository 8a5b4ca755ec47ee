import Portal.Audit.Events
import Portal.Text.Percent
/-! Log records written to the log table. A record carries a logger name, a level, a
message template with its arguments, where it was logged from, an exception when there is
one, and extra attributes. Its entry takes the category and object id from the extra
attributes when they are there, the user, request id, address and agent from the request
context, and a metadata document with the place it was logged from, the exception and
every other extra attribute that can be written as JSON. A record whose message cannot be
formatted, or whose entry cannot be stored, writes nothing. -/
namespace Portal
namespace Audit

structure LogRecord where
  levelName : String := "INFO"
  msg : Json
  args : List Json := []
  lineno : Json := .int 1
  func : Json := .str "fn"
  module : Json
  extra : List (String × Json) := []
  unwritable : List String := []
  exc : Option Fault := none
  created : Instant
  thread : Int
  process : Int

def recordAttributes : List String :=
  ["name", "msg", "args", "levelname", "levelno", "pathname", "filename", "module", "lineno",
    "funcName", "created", "msecs", "relativeCreated", "thread", "threadName", "processName",
    "process", "getMessage", "exc_info", "exc_text", "stack_info", "category", "object_id"]

namespace LogRecord

def attr (r : LogRecord) (k : String) (dflt : Json) : Json :=
  ((r.extra.find? (·.1 == k)).map (·.2)).getD dflt

def message (r : LogRecord) : Except Fault String :=
  let template := (r.attr "msg" r.msg).toText
  match r.args with
  | [] => .ok template
  | [.obj kvs] => if kvs.isEmpty then Text.percentFormat template (.items r.args)
    else Text.percentFormat template (.mapping kvs)
  | xs => Text.percentFormat template (.items xs)

def excText (f : Fault) : String :=
  if f.message.isEmpty then f.kind else f.kind ++ ": " ++ f.message

def metadata (r : LogRecord) (traced : Bool) : Json :=
  let base : List (String × Json) := [("module", r.attr "module" r.module),
    ("function", r.attr "funcName" r.func), ("line", r.attr "lineno" r.lineno),
    ("thread", .int r.thread), ("process", .int r.process)]
  let exc : List (String × Json) := match r.exc with
    | some f => [("exception", .obj [("type", .str f.kind), ("message", .str f.message),
        ("traceback", if traced then .str (excText f) else .null)])]
    | none => []
  let extra := r.extra.filter fun (k, _) => !recordAttributes.contains k && !r.unwritable.contains k
  withMembers (base ++ exc) extra

end LogRecord

def emit (defaultCategory : Json) (traced : Bool) (r : LogRecord) : App Unit :=
  App.quietly do
    let message ← App.ofExcept r.message
    let category := r.attr "category" defaultCategory
    let objectId := r.attr "object_id" .null
    let ctx (k : String) := App.contextValue k
    let o : Obj := { entity := .systemLog, cells := [
      ("level", .text r.levelName), ("category", Value.ofJson category),
      ("message", .text message), ("timestamp", Value.now r.created),
      ("user_id", ← ctx "user_id"), ("object_id", Value.ofJson objectId),
      ("metadata", .json (r.metadata traced)), ("request_id", ← ctx "request_id"),
      ("ip_address", ← ctx "ip_address"), ("user_agent", ← ctx "user_agent")] }
    discard <| App.write o

end Audit
end Portal
