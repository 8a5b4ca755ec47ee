import Portal.Scripts.Agent
import Portal.Scripts.Setup
import Portal.Scripts.SampleData
import Portal.Scripts.Crawl
import Portal.Console.Input
/-! The steps that run the project's scripts: each gets a fresh working directory holding the
files the step gives, and answers what the script printed with how it ended. -/
namespace Portal
namespace Console

open Scripts

def givenFiles (args : Json) : List (String × String) :=
  ((args.getObj? "files").getD []).map fun (k, v) => (k, v.toText)

def scriptAnswer (r : Except Halt Json) (d : Desk) : Json :=
  .obj ((match r with
    | .ok v => [("value", v)]
    | .error (.exit code) => [("exit", .int code)]
    | .error (.raise f) => [("error", .str f.kind), ("message", .str f.message)]) ++
    [("stdout", .str d.out)])

def runScript (files : List (String × String)) (act : Script Json) : Json :=
  let (r, d) := finish (act.run { given := files })
  scriptAnswer r d

def gtpStep (step : Json) : App Json := do
  let fn ← needStr step "fn"
  let args := (step.get? "args").getD (.obj [])
  let files := givenFiles args
  match fn with
  | "redis_available" => return runScript files (pure (.bool false))
  | "format" =>
    let level ← need args "level"
    let msg ← need args "msg"
    let params := ((args.get? "args").map Json.items).getD []
    let fmt := (args.getStr? "fmt").getD "%(levelname)s %(message)s"
    return match formatRecord level msg params fmt with
      | .ok (text, name) => .obj [("value", .str text), ("levelname_after", .str name), ("stdout", .str "")]
      | .error f => scriptAnswer (.error (.raise f)) {}
  | "display_logs" =>
    let logs ← need args "logs"
    let showAll := ((args.get? "show_all").map Json.truthy).getD false
    return runScript files (do displayLogs logs showAll; return .null)
  | "load_task_from_convention" =>
    let task ← needStr args "task_name"
    return runScript files (loadTaskFromConvention task)
  | "load_json_config" =>
    return runScript files (loadJsonConfig ((args.getStr? "file").getD "config.json"))
  | "execute" =>
    let config ← need args "task_config"
    match config with
    | .obj _ =>
      if ((config.get? "instructions").map Json.truthy).getD false then
        refuse "execute needs the missing config module once instructions are given"
      return runScript files (raise "Exception" "No instructions provided in task configuration")
    | other => return runScript files (raise "AttributeError" ("'" ++ other.kindName ++ "' object has no attribute 'get'"))
  | "stream_logs_from_redis" =>
    discard (need args "task_id")
    return runScript files (do say "   ⚠️  Redis not available for real-time log streaming"; return .null)
  | "cleanup_logs" =>
    return runScript files (do cleanupLogs ((args.get? "log_types").getD .null); return .null)
  | _ => refuse "unknown gtp fn"

def initDatabaseStep (step : Json) : App Json := do
  let fresh := ((step.get? "fresh_logs").map Json.truthy).getD false
  return setupAnswer fresh (Moment.utc (← App.now)).iso

def sampleDataStep : App Json := do
  App.setTerminal {}
  let out ← App.attempt Sample.create
  let printed := (← App.terminal).printed
  App.setTerminal {}
  return match out with
    | .ok () => .obj [("exit", .null), ("stdout", .str printed)]
    | .error f => .obj [("error", .str f.kind), ("message", .str f.message), ("stdout", .str printed)]

def servedPages (step : Json) : Pages :=
  ((step.getObj? "pages").getD []).map fun (url, page) =>
    match page with
    | .str body => (url, { body })
    | other => (url, { status := (other.getInt? "status").getD 200, reason := other.getStr? "reason",
                       body := (other.getStr? "body").getD "" })

def stepNetwork (step : Json) : Network :=
  Network.ofPages (fun url => "no route to " ++ url ++ " (oracle has no network)") (servedPages step)

def crawlStep (step : Json) : App Json := do
  let net := stepNetwork step
  let act : Script Unit := match step.get? "argv" with
    | some argv => crawlMain net Reader.markup (argv.items.map Json.toText)
    | none => saveSites net Reader.markup (((step.get? "urls").getD (.arr [])).items.map Json.toText)
        ((step.getStr? "output_dir").getD "out")
  let (r, d) := finish (act.run { given := givenFiles step })
  let written := d.written.mergeSort fun a b => decide (a.1 ≤ b.1)
  return .obj ((match r with
    | .ok () => [("exit", .null)]
    | .error (.exit code) => [("exit", .int code)]
    | .error (.raise f) => [("error", .str f.kind), ("message", .str f.message)]) ++
    [("files", .obj (written.map fun (k, v) => (k, .str v))), ("stdout", .str d.out)])

end Console
end Portal
