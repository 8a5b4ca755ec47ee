import Portal.Audit.Events
/-! Logging around units of work. A logged function call writes one entry when the
function returns and an error entry when it fails, passing the failure on. A logged
operation writes an entry when it starts and one when it completes or fails; its id is its
name and the second it started. In both, the completion entry is written under the same guard
as the work, so a failure to write it is logged and passed on as a failure of the work. An
operation log numbers the steps of a longer operation, one entry each, and sums them up at
the end; its duration is zero, since the clock does not move while one step runs. -/
namespace Portal
namespace Audit

def truncate (n : Nat) (s : String) : String := String.ofList (s.toList.take n)

def tupleText (xs : List Json) : String :=
  match xs with
  | [] => "()"
  | [x] => "(" ++ x.literal ++ ",)"
  | _ => "(" ++ ", ".intercalate (xs.map Json.literal) ++ ")"

def zeroSeconds : Json := .float Sci.zero

def elapsed (start stop : Instant) : Json := .float (Sci.ofScaled (stop - start) 6)

structure CallLogging where
  level : Json := .str "DEBUG"
  category : Json := .str "system"
  includeArgs : Bool := false
  includeResult : Bool := false

def logFunctionCall (opts : CallLogging) (function module : String) (args : List Json)
    (kwargs : List (String × Json)) (body : App Json) : App Json := do
  let start ← App.now
  let base : List (String × Json) := [("function", .str function), ("module", .str module)] ++
    (if opts.includeArgs then
      [("args", .str (truncate 500 (tupleText args))),
       ("kwargs", .str (truncate 500 (Json.obj kwargs).literal))]
    else [])
  -- the failure entry takes the members the document has so far, the outcome in their place
  let failed (doc : List (String × Json)) (f : Fault) : App Json := do
    let doc := withMembers doc [("duration_seconds", elapsed start (← App.now)),
      ("success", .bool false), ("exception_type", .str f.kind), ("exception_message", .str f.message)]
    discard <| logError (.str ("Function call failed: " ++ function)) (some f) .null .null doc
    App.fail f
  match ← App.attempt body with
  | .error f => failed base f
  | .ok result =>
    let doc := base ++ [("duration_seconds", elapsed start (← App.now)), ("success", .bool true)] ++
      (if opts.includeResult then [("result", .str (truncate 200 result.literal))] else [])
    match ← App.attempt (App.logEntry {
        level := Value.ofJson opts.level, category := Value.ofJson opts.category,
        message := .text ("Function call completed: " ++ function), metadata := .ok (.obj doc) }) with
    | .ok _ => return result
    | .error f => failed doc f

def operationId (name : Json) (start : Instant) : String := name.toText ++ "_" ++ toString (Instant.toSeconds start)

def startEntry (name level category userId : Json) (opId : String) (start : Instant) : LogEntry :=
  { level := Value.ofJson level, category := Value.ofJson category,
    message := .text ("Operation started: " ++ name.toText), userId := Value.ofJson userId,
    metadata := .ok (.obj [("operation", name), ("operation_id", .str opId),
      ("phase", .str "started"), ("start_time", .str (Moment.utc start).iso)]) }

def completeEntry (name level category userId : Json) (opId : String) (start stop : Instant) : LogEntry :=
  { level := Value.ofJson level, category := Value.ofJson category,
    message := .text ("Operation completed: " ++ name.toText), userId := Value.ofJson userId,
    metadata := .ok (.obj [("operation", name), ("operation_id", .str opId),
      ("phase", .str "completed"), ("duration_seconds", elapsed start stop), ("success", .bool true)]) }

def logOperation {α : Type} (name level category userId : Json) (body : String → App α) : App α := do
  let start ← App.now
  let opId := operationId name start
  discard <| App.logEntry (startEntry name level category userId opId start)
  let completed : App α := do
    let r ← body opId
    discard <| App.logEntry (completeEntry name level category userId opId start (← App.now))
    return r
  match ← App.attempt completed with
  | .ok r => return r
  | .error f =>
    discard <| logError (.str ("Operation failed: " ++ name.toText)) (some f) userId .null
      (.obj [("operation", name), ("operation_id", .str opId), ("phase", .str "failed"),
        ("duration_seconds", elapsed start (← App.now)), ("success", .bool false)])
    App.fail f

def spread (j : Json) : Except Fault (List (String × Json)) :=
  match j with
  | .obj kvs => .ok kvs
  | other => if other.truthy then .error ⟨"TypeError", "'" ++ other.kindName ++ "' object is not a mapping"⟩
    else .ok []

def updatePairs (j : Json) : Except Fault (List (String × Json)) :=
  match j with
  | .obj kvs => .ok kvs
  | .arr xs => go 0 xs
  | .str s =>
    if s.isEmpty then .ok []
    else .error ⟨"ValueError", "dictionary update sequence element #0 has length 1; 2 is required"⟩
  | other => .error ⟨"TypeError", "'" ++ other.kindName ++ "' object is not iterable"⟩
where
  go (i : Nat) : List Json → Except Fault (List (String × Json))
    | [] => .ok []
    | x :: rest => do
      let pair ← match x with
        | .arr [.str k, v] => pure (k, v)
        | .str s => match s.toList with
          | [a, b] => pure (a.toString, Json.str b.toString)
          | cs => throw ⟨"ValueError", s!"dictionary update sequence element #{i} has length {cs.length}; 2 is required"⟩
        | .arr ys => throw ⟨"ValueError", s!"dictionary update sequence element #{i} has length {ys.length}; 2 is required"⟩
        | .obj kvs => match kvs with
          | [(a, _), (b, _)] => pure (a, Json.str b)
          | _ => throw ⟨"ValueError", s!"dictionary update sequence element #{i} has length {kvs.length}; 2 is required"⟩
        | _ => throw ⟨"TypeError", s!"cannot convert dictionary update sequence element #{i} to a sequence"⟩
      return pair :: (← go (i + 1) rest)

structure OperationLog where
  name : Json
  userId : Json := .null
  requestId : Json := .null
  steps : List Json := []

namespace OperationLog

def logStep (op : OperationLog) (stepName message level metadata : Json) : App OperationLog := do
  let op := { op with steps := op.steps ++ [stepName] }
  let extra ← App.ofExcept (spread metadata)
  discard <| App.logEntry {
    level := Value.ofJson level, category := .text "system",
    message := .text (op.name.toText ++ " - " ++ stepName.toText ++ ": " ++ message.toText),
    userId := Value.ofJson op.userId, requestId := Value.ofJson op.requestId,
    metadata := .ok (withMembers [("operation", op.name), ("step", stepName),
      ("step_number", .int op.steps.length)] extra) }
  return op

def complete (op : OperationLog) (success finalMetadata : Json) : App Json := do
  let extra ← if finalMetadata.truthy then App.ofExcept (updatePairs finalMetadata) else pure []
  let doc := withMembers [("operation", op.name), ("duration_seconds", zeroSeconds),
    ("total_steps", .int op.steps.length), ("success", success), ("steps", .arr op.steps)] extra
  let status := if success.truthy then "completed" else "failed"
  discard <| App.logEntry {
    level := .text (if success.truthy then "INFO" else "ERROR"), category := .text "system",
    message := .text ("Operation " ++ status ++ ": " ++ op.name.toText ++ " (0.00s, " ++
      toString op.steps.length ++ " steps)"),
    userId := Value.ofJson op.userId, requestId := Value.ofJson op.requestId, metadata := .ok doc }
  return success

end OperationLog

end Audit
end Portal
