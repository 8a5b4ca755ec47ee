import Portal.Scripts.Basic
import Portal.Text.Percent
import Portal.Json.Read
/-! The task processor's helpers that run without its queue: the log formatter that colours
level names and frames warnings and errors, the log listing, and the loaders that build a
task list from convention-named files or from one configuration file. A loader that finds a
file missing or malformed prints why and exits with code 1. -/
namespace Portal
namespace Scripts

def levelColour : String → Option String
  | "DEBUG" => some "\x1b[36m"
  | "INFO" => some "\x1b[32m"
  | "WARNING" => some "\x1b[33m"
  | "ERROR" => some "\x1b[31m"
  | "CRITICAL" => some "\x1b[35m"
  | _ => none

def levelNumber? : String → Option Int
  | "CRITICAL" | "FATAL" => some 50
  | "ERROR" => some 40
  | "WARN" | "WARNING" => some 30
  | "INFO" => some 20
  | "DEBUG" => some 10
  | "NOTSET" => some 0
  | _ => none

def levelName (n : Int) : String :=
  match n with
  | 50 => "CRITICAL"
  | 40 => "ERROR"
  | 30 => "WARNING"
  | 20 => "INFO"
  | 10 => "DEBUG"
  | 0 => "NOTSET"
  | _ => "Level " ++ toString n

def recordLevel (level : Json) : Json × String :=
  match level with
  | .int n => (.int n, levelName n)
  | .bool b => let n : Int := if b then 1 else 0; (.int n, levelName n)
  | other =>
    let name := other.toText
    match levelNumber? name with
    | some n => (.int n, levelName n)
    | none => (.str ("Level " ++ name), "Level Level " ++ name)

def hasField (fmt : String) : Bool :=
  let isWord (c : Char) : Bool := c.isAlphanum || c == '_' || c.toNat > 127
  let rec fieldAt : List Char → Nat → Bool
    | [], _ => false
    | _, 0 => false
    | '%' :: '(' :: rest, fuel + 1 =>
      let name := rest.takeWhile isWord
      let after := rest.drop name.length
      let ok := !name.isEmpty && match after with
        | ')' :: tail =>
          let tail := tail.dropWhile fun c => "#0+ -".toList.contains c
          let tail := match tail with
            | '*' :: t => t
            | t => t.dropWhile Char.isDigit
          let tail := match tail with
            | '.' :: '*' :: t => t
            | '.' :: t => if (t.head?.map Char.isDigit).getD false then t.dropWhile Char.isDigit else '.' :: t
            | t => t
          match tail with
          | c :: _ => "diouxefgcrsa%".toList.contains c.toLower
          | [] => false
        | _ => false
      ok || fieldAt ('(' :: rest) fuel
    | _ :: rest, fuel + 1 => fieldAt rest fuel
  fieldAt fmt.toList (fmt.length + 1)

def recordMessage (msg : Json) (args : List Json) : Except Fault String :=
  let text := msg.toText
  match args with
  | [] => pure text
  | [.obj kvs] => if kvs.isEmpty then Text.percentFormat text (.items args) else Text.percentFormat text (.mapping kvs)
  | _ => Text.percentFormat text (.items args)

structure LogRecord where
  name : String
  msg : Json
  args : List Json
  levelname : String
  levelno : Json

namespace LogRecord

def make (level msg : Json) (args : List Json) : LogRecord :=
  let (levelno, levelname) := recordLevel level
  { name := "gtp", msg, args, levelname, levelno }

def attributes (r : LogRecord) (message : String) : List (String × Json) :=
  [("name", .str r.name), ("msg", r.msg), ("args", .arr r.args), ("levelname", .str r.levelname),
   ("levelno", r.levelno), ("exc_info", .null), ("exc_text", .null), ("stack_info", .null),
   ("message", .str message)]

end LogRecord

def colouredName (name : String) : String :=
  match levelColour name with
  | some c => c ++ "\x1b[1m" ++ name ++ "\x1b[0m"
  | none => name

def bannered (name : String) : Bool := name == "ERROR" || name == "WARNING"

def banner (text : String) : String :=
  let rule := String.ofList (List.replicate 80 '=')
  "\n" ++ rule ++ "\n" ++ text ++ "\n" ++ rule

def formatPlain (fmt : String) (r : LogRecord) : Except Fault String := do
  let message ← recordMessage r.msg r.args
  match Text.percentFormat fmt (.mapping (r.attributes message)) with
  | .ok s => pure s
  | .error f =>
    if f.kind == "KeyError" then throw ⟨"ValueError", "Formatting field not found in record: " ++ f.message⟩
    else throw f

structure ColouredFormatter where
  fmt : String
  named : hasField fmt = true

namespace ColouredFormatter

def make? (fmt : String) : Except Fault ColouredFormatter :=
  if h : hasField fmt = true then .ok ⟨fmt, h⟩
  else .error ⟨"ValueError", "Invalid format '" ++ fmt ++ "' for '%' style"⟩

def format (f : ColouredFormatter) (r : LogRecord) : Except Fault String × LogRecord :=
  let plain := r.levelname
  let r := { r with levelname := colouredName plain }
  ((formatPlain f.fmt r).map fun text => if bannered plain then banner text else text, r)

end ColouredFormatter

def formatRecord (level msg : Json) (args : List Json) (fmt : String) : Except Fault (String × String) := do
  let f ← ColouredFormatter.make? fmt
  let out := f.format (LogRecord.make level msg args)
  return (← out.1, out.2.levelname)

def entryGet (entry : Json) (key : String) (dflt : Json) : Script Json :=
  match entry with
  | .obj _ => pure ((entry.get? key).getD dflt)
  | other => raise "AttributeError" ("'" ++ other.kindName ++ "' object has no attribute 'get'")

def displayLogs (logs : Json) (showAll : Bool) : Script Unit := do
  if !logs.truthy then say "   No logs available"; return
  let entries : List Json := match logs with
    | .arr xs => xs
    | .str s => s.toList.map fun c => .str c.toString
    | .obj kvs => kvs.map fun (k, _) => .str k
    | other => [other]
  let shown := if showAll then entries else entries.drop (entries.length - 10)
  for entry in shown do
    let timestamp ← entryGet entry "timestamp" (.str "N/A")
    let level ← entryGet entry "level" (.str "INFO")
    let message ← entryGet entry "message" (.str "")
    let mark := if level == .str "ERROR" then "🔴" else if level == .str "WARNING" then "🟡" else "🔵"
    say ("   " ++ mark ++ " [" ++ timestamp.toText ++ "] " ++ level.toText ++ ": " ++ message.toText)

def loadJson (path : String) (problem : String) : Script Json := do
  let some text ← readFile? path | exit 1
  match Json.parse text with
  | .ok j => pure j
  | .error e => say ("❌ Error: " ++ problem ++ " " ++ scratch ++ "/" ++ path ++ ": " ++ e.render text); exit 1

def lineTexts : List Json → Nat → Script (List String)
  | [], _ => pure []
  | .str s :: items, i => return s :: (← lineTexts items (i + 1))
  | other :: _, i => raise "TypeError" ("sequence item " ++ toString i ++ ": expected str instance, " ++
      other.kindName ++ " found")

def joinLines (items : List Json) : Script String := do
  return "\n".intercalate (← lineTexts items 0)

def withoutSeparators (s : String) : String :=
  String.ofList (s.toList.map fun c => if c == '/' || c == '\\' then '_' else c)

def itemTask? (task : String) (item : Json) : Option (Json × Json) :=
  match item with
  | .str s => some (.obj [("identifier", .str s), ("name", .str s)], .str s)
  | .obj kvs =>
    let ident : Json := match item.get? "identifier" with
      | some v => v
      | none => .str (withoutSeparators (match kvs.head? with
        | some (_, v) => v.toText
        | none => task))
    some (.obj kvs, ident)
  | _ => none

def taskEntry (task : String) (instructions : Json) (rules : Option String) (data ident : Json) : Json :=
  .obj ([("task_type", .str task), ("task_data", data), ("task_identifier", ident),
    ("instructions", instructions)] ++ (match rules with
      | some path => [("rules_file", .str path)]
      | none => []))

def itemTasks (task : String) (instructions : Json) (rules : Option String) : List Json → Script (List Json)
  | [] => pure []
  | item :: items => do
    match itemTask? task item with
    | none =>
      say ("⚠️  Warning: Skipping invalid item in array (must be string or object): " ++ item.toText)
      itemTasks task instructions rules items
    | some (data, ident) => return taskEntry task instructions rules data ident :: (← itemTasks task instructions rules items)

def instructionsMember (task shown : String) (data : Json) : Script Json := do
  let key := task ++ "_instructions"
  if ← ofExcept (Json.occursIn key data) then ofExcept (data.index key)
  else if ← ofExcept (Json.occursIn "default_instructions" data) then ofExcept (data.index "default_instructions")
  else
    say ("❌ Error: No '" ++ key ++ "' or 'default_instructions' found in " ++ shown)
    exit 1

def joinedInstructions (listed : Json) : Script Json :=
  match listed with
  | .arr xs => do return .str (← joinLines xs)
  | other => pure other

def loadTaskFromConvention (task : String) : Script Json := do
  let arrayFile := task ++ "_array.json"
  let instructionsFile := task ++ "_instructions.json"
  let rulesFile := task ++ "_rules.md"
  let inScratch (f : String) : String := scratch ++ "/" ++ f
  if (← readFile? arrayFile).isNone then say ("❌ Error: Array file not found: " ++ inScratch arrayFile); exit 1
  if (← readFile? instructionsFile).isNone then
    say ("❌ Error: Instructions file not found: " ++ inScratch instructionsFile); exit 1
  let hasRules := (← readFile? rulesFile).isSome
  let items ← loadJson arrayFile "Invalid JSON in"
  let .arr items := items | say ("❌ Error: " ++ inScratch arrayFile ++ " must contain a JSON array"); exit 1
  let data ← loadJson instructionsFile "Invalid JSON in"
  let instructions ← joinedInstructions (← instructionsMember task (inScratch instructionsFile) data)
  let rules := if hasRules then some (inScratch rulesFile) else none
  let tasks ← itemTasks task instructions rules items
  say ("✅ Loaded " ++ toString tasks.length ++ " tasks from convention-based files")
  say ("   📋 Array: " ++ inScratch arrayFile)
  say ("   📝 Instructions: " ++ inScratch instructionsFile)
  if hasRules then say ("   📜 Rules: " ++ inScratch rulesFile)
  return .obj [("database_name", .str "targetdbname"), ("tasks", .arr tasks)]

def configExample : String :=
  "\n\x7b\n  \"tasks\": [\n    \x7b\n      \"task_type\": \"crud_service\",\n      \"task_data\": \x7b...\x7d,\n" ++
  "      \"instructions\": \"...\",\n      \"rules\": \"...\"\n    \x7d\n  ]\n\x7d"

def checkConfig (shown : String) (config : Json) : Script Json := do
  if !(← ofExcept (Json.occursIn "tasks" config)) then
    say ("❌ Error: Missing 'tasks' array in " ++ shown); say "Expected format:"; say configExample; exit 1
  match ← ofExcept (config.index "tasks") with
  | .arr (_ :: _) => return config
  | _ => say "❌ Error: 'tasks' must be a non-empty list"; exit 1

def loadJsonConfig (path : String) : Script Json := do
  let shown := scratch ++ "/" ++ path
  if (← readFile? path).isNone then say ("❌ Error: Configuration file not found: " ++ shown); exit 1
  checkConfig shown (← loadJson path "Invalid JSON format in")

def cleanupLogs (types : Json) : Script Unit := do
  say "🧹 Cleaning up log files..."
  match types with
  | .int _ | .float _ | .bool _ =>
    raise "TypeError" ("argument of type '" ++ types.kindName ++ "' is not iterable")
  | _ => pure ()
  say "✅ Log cleanup completed. Removed 0 log files"

end Scripts
end Portal
