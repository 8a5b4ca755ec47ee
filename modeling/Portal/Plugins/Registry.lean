import Portal.World
import Portal.Json.Literal
import Portal.Command.Output
/-! The plugin registry. A plugin is kept under its own name, or under its module's when it
has none; registering under a name already taken replaces that plugin in its place. A
plugin made from the base plugin class always has a name, empty unless its class gives one,
so it is never kept under its module's. A plugin must carry its module, and a name must be
a plain value to serve as a key. The registry answers which plugins provide a capability, which dependencies are missing, and
the URL prefixes of the plugins whose top-level package declares URL patterns. -/
namespace Portal
namespace Plugins

structure PluginConfig where
  className : String := "PluginConfig"
  name : String
  pluginName : String := ""
  version : String := "1.0.0"
  description : String := ""
  author : String := ""
  dependencies : List String := []
  provides : List String := []
  requires : List String := []
  settings : List (String × Json) := []
  deriving Inhabited

def PluginConfig.toPlugin (c : PluginConfig) : Plugin :=
  { className := c.className,
    attributes := [("name", .str c.name), ("plugin_name", .str c.pluginName),
      ("plugin_version", .str c.version), ("plugin_description", .str c.description),
      ("plugin_author", .str c.author), ("plugin_dependencies", Json.strs c.dependencies),
      ("provides", Json.strs c.provides), ("requires", Json.strs c.requires),
      ("plugin_settings", .obj c.settings)] }

def registry : App (List (Json × Plugin)) := do return (← get).plugins

def setRegistry (ps : List (Json × Plugin)) : App Unit := modify fun w => { w with plugins := ps }

def hashable : Json → Bool
  | .arr _ => false
  | .obj _ => false
  | _ => true

def unhashable (j : Json) : Fault := ⟨"TypeError", "unhashable type: '" ++ j.kindName ++ "'"⟩

def checkKey (j : Json) : App Unit := if hashable j then pure () else App.fail (unhashable j)

def itemsOf (j : Json) : Except Fault (List Json) :=
  match j with
  | .arr xs => .ok xs
  | .str s => .ok (s.toList.map fun c => .str c.toString)
  | .obj kvs => .ok (kvs.map fun (k, _) => .str k)
  | other => .error ⟨"TypeError", "'" ++ other.kindName ++ "' object is not iterable"⟩

def memberOf (needle hay : Json) : Except Fault Bool :=
  match hay with
  | .arr xs => .ok (xs.any (· == needle))
  | .str s => match needle with
    | .str n => .ok ((s.splitOn n).length > 1)
    | other => .error ⟨"TypeError", "'in <string>' requires string as left operand, not " ++ other.kindName⟩
  | .obj kvs =>
    if hashable needle then .ok (kvs.any fun (k, _) => Json.str k == needle) else .error (unhashable needle)
  | other => .error ⟨"TypeError", "argument of type '" ++ other.kindName ++ "' is not iterable"⟩

def moduleOf (p : Plugin) : App Json :=
  match p.attr? "name" with
  | some n => pure n
  | none => App.raise "AttributeError" ("'" ++ p.className ++ "' object has no attribute 'name'")

def register (p : Plugin) : App Unit := do
  let m ← moduleOf p
  let key := (p.attr? "plugin_name").getD m
  checkKey key
  let ps ← registry
  if ps.any (·.1 == key) then setRegistry (ps.map fun (k, q) => if k == key then (k, p) else (k, q))
  else setRegistry (ps ++ [(key, p)])

def find? (name : Json) : App (Option Plugin) := do
  checkKey name
  return ((← registry).find? (·.1 == name)).map (·.2)

def provides (capability : Json) (p : Plugin) : Except Fault Bool :=
  memberOf capability ((p.attr? "provides").getD (.arr []))

def withCapability (capability : Json) : App (List (Json × Plugin)) := do
  (← registry).filterM fun (_, p) => App.ofExcept (provides capability p)

def dependencyErrors : App (List String) := do
  let ps ← registry
  let mut errors := []
  for (key, p) in ps do
    for dep in ← App.ofExcept (itemsOf ((p.attr? "plugin_dependencies").getD (.arr []))) do
      checkKey dep
      if !ps.any (·.1 == dep) then
        errors := errors ++ ["Plugin '" ++ key.toText ++ "' requires '" ++ dep.toText ++ "' but it's not available"]
  return errors

def numberOf : Json → Sci
  | .int n => Sci.ofInt n
  | .bool b => Sci.ofNat (if b then 1 else 0)
  | .float f => f
  | _ => Sci.zero

def numberLt (a b : Json) : Bool :=
  let d := (numberOf a).add { numberOf b with neg := !(numberOf b).neg }
  d.neg && d.mant != 0

def sortValues (xs : List Json) : Except Fault (List Json) :=
  let numeric (j : Json) : Bool := match j with
    | .int _ | .float _ | .bool _ => true
    | _ => false
  let family (j : Json) : String := if numeric j then "number" else j.kindName
  match (xs.zip (xs.drop 1)).find? (fun (p : Json × Json) => family p.1 != family p.2 || !(numeric p.1 || p.1 matches .str _)) with
  | some (a, b) => .error ⟨"TypeError", "'<' not supported between instances of '" ++ b.kindName ++
      "' and '" ++ a.kindName ++ "'"⟩
  | none =>
    if xs.all numeric then .ok (xs.mergeSort fun a b => !numberLt b a)
    else .ok (xs.mergeSort fun a b => decide (a.toText ≤ b.toText))

def urlPrefix (p : Plugin) : App (Option String) := do
  match ← moduleOf p with
  | .str s =>
    let last := ((dotParts s).getLast?).getD ""
    if last.isEmpty then
      App.print ("Error loading URLs for plugin " ++ s ++
        ": the 'package' argument is required to perform a relative import for '.urls'")
      return none
    match moduleNamed? (last ++ ".urls") with
    | some m => return if m.patterns then some (last ++ "/") else none
    | none => return none
  | other =>
    App.print ("Error loading URLs for plugin " ++ other.toText ++ ": '" ++ other.kindName ++
      "' object has no attribute 'split'")
    return none

def urlPrefixes : App (List String) := do
  (← registry).filterMapM fun (_, p) => urlPrefix p

end Plugins
end Portal
