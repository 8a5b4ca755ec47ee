import Portal.Records.Basic
/-! Writing log entries. An entry has a level, a category, a message, an optional user and
object, a metadata document and the request it belongs to. When the caller names no
request id, address or agent, all three and a missing user come from the request context. -/
namespace Portal

namespace Value

def truthy : Value → Bool
  | .null => false
  | .bool b => b
  | .int n => n ≠ 0
  | .text s => !s.isEmpty
  | .json (.arr xs) => !xs.isEmpty
  | .json (.obj kvs) => !kvs.isEmpty
  | .json .null => false
  | .real f => f.mant ≠ 0
  | _ => true

end Value

structure LogEntry where
  level : Value := .text "INFO"
  category : Value
  message : Value
  userId : Value := .null
  objectId : Value := .null
  metadata : Except Fault Json := .ok (.obj [])
  requestId : Value := .null
  ip : Value := .null
  userAgent : Value := .null

namespace App

def contextJson (k : String) : App Json := do
  return (((← get).context.find? (·.1 == k)).map (·.2)).getD .null

def contextValue (k : String) : App Value := do
  return Value.ofJson (← contextJson k)

def setContext (kvs : List (String × Json)) : App Unit :=
  modify fun w => { w with context := kvs.foldl (fun ctx (k, v) =>
    if v.isNull then ctx else Json.setKey ctx k v) w.context }

def clearContext : App Unit := modify fun w => { w with context := [] }

def nextRequestId : App String := do
  let n := (← get).uuids + 1
  modify fun w => { w with uuids := n }
  let h := Text.hexPad 32 n
  let part (a b : Nat) := String.ofList ((h.toList.drop a).take b)
  return part 0 8 ++ "-" ++ part 8 4 ++ "-" ++ part 12 4 ++ "-" ++ part 16 4 ++ "-" ++ part 20 12

def logEntry (e : LogEntry) : App Obj := do
  let e ← if e.requestId.truthy || e.ip.truthy || e.userAgent.truthy then pure e else do
    let rid ← contextValue "request_id"
    let ip ← contextValue "ip_address"
    let ua ← contextValue "user_agent"
    let uid ← if e.userId.isNull then contextValue "user_id" else pure e.userId
    pure { e with requestId := if e.requestId.truthy then e.requestId else rid
                  ip := if e.ip.truthy then e.ip else ip
                  userAgent := if e.userAgent.truthy then e.userAgent else ua
                  userId := uid }
  let now ← now
  let doc : Except Fault Value := e.metadata.map fun m => match m with
    | .obj _ => .json m
    | .null => .json (.obj [])
    | other => .json (.obj [("data", other)])
  let o : Obj := { entity := .systemLog, cells := [
      ("level", e.level), ("category", e.category), ("message", e.message),
      ("timestamp", Value.now now), ("user_id", e.userId), ("object_id", e.objectId),
      ("metadata", match doc with | .ok v => v | .error _ => .null),
      ("request_id", e.requestId), ("ip_address", e.ip), ("user_agent", e.userAgent)] }
  match doc with
  | .error f => fail f
  | .ok _ => write o

end App
end Portal
