import Portal.Plugins.Registry
/-! The two commands over the plugin registry: one lists the plugins with what they declare
about themselves, the other checks that each carries a name and a version and that its
modules can be imported. Both end with the dependencies no registered plugin satisfies. -/
namespace Portal
namespace Command

def listPluginsSpec : Spec :=
  { name := "list_plugins", help := "List all registered plugins and their information",
    arguments := [Argument.option ["--capability"] "capability" "Filter plugins by capability they provide"] }

def validatePluginsSpec : Spec :=
  { name := "validate_plugins", help := "Validate all registered plugins and report issues",
    arguments := [Argument.option ["--plugin"] "plugin" "Validate only a specific plugin",
      Argument.flag ["--check-urls"] "check_urls" "Check if plugin URLs can be loaded"] }

def truncateChars (n : Nat) (s : String) : String :=
  if s.length > n then String.ofList (s.toList.take (n - 1)) ++ "…" else s

def joinTexts (j : Json) : Except Fault String := do
  let items ← match j with
    | .arr xs => pure xs
    | .str s => pure (s.toList.map fun c => Json.str c.toString)
    | .obj kvs => pure (kvs.map fun (k, _) => Json.str k)
    | _ => throw ⟨"TypeError", "can only join an iterable"⟩
  let texts ← (items.zip (List.range items.length)).mapM fun (item, i) =>
    match item with
    | .str s => pure s
    | other => throw ⟨"TypeError", "sequence item " ++ toString i ++ ": expected str instance, " ++
        other.kindName ++ " found"⟩
  return ", ".intercalate texts

def attrText (p : Plugin) (k dflt : String) : String := ((p.attr? k).map Json.toText).getD dflt

def listPlugins (vs : Values) : App Unit := do
  let capability := vs.find "capability"
  let mut plugins ← Plugins.registry
  if capability.truthy then
    plugins ← Plugins.withCapability capability
    if plugins.isEmpty then
      App.say ("No plugins found that provide capability: " ++ capability.toText); return
  if plugins.isEmpty then App.say "No plugins registered"; return
  App.say "Registered Plugins:"
  App.say (String.ofList (List.replicate 80 '='))
  for (key, p) in plugins do
    App.say ("\n" ++ key.toText)
    App.say ("  Class: " ++ p.className)
    App.say ("  Module: " ++ (← Plugins.moduleOf p).toText)
    App.say ("  Version: " ++ attrText p "plugin_version" "N/A")
    App.say ("  Author: " ++ attrText p "plugin_author" "Unknown")
    App.say ("  Description: " ++ truncateChars 60 (attrText p "plugin_description" "No description"))
    for (k, label) in [("provides", "Provides"), ("requires", "Requires"), ("plugin_dependencies", "Dependencies")] do
      let v := (p.attr? k).getD (.arr [])
      if v.truthy then App.say ("  " ++ label ++ ": " ++ (← App.ofExcept (joinTexts v)))
  App.say ("\nTotal plugins: " ++ toString plugins.length)
  let errors ← Plugins.dependencyErrors
  if errors.isEmpty then App.say "\nAll dependencies satisfied"
  else
    App.say "\nDependency Issues:"
    for e in errors do App.say ("  - " ++ e)

def importModule (path : Json) : App (Option String) := do
  match path with
  | .str s =>
    if s.isEmpty then App.raise "ValueError" "Empty module name"
    if s.startsWith "." then
      App.raise "TypeError" ("the 'package' argument is required to perform a relative import for " ++
        Text.quoteLiteral s)
    return importFailure s
  | other => App.raise "AttributeError" ("'" ++ other.kindName ++ "' object has no attribute 'startswith'")

def urlsReport (m : Json) : App String := do
  let urls : Json := .str (m.toText ++ ".urls")
  match ← importModule urls with
  | none =>
    if ((moduleNamed? urls.toText).map (·.patterns)).getD false then
      return "  ✅ URLs module with patterns found"
    else return "  ⚠️  URLs module exists but no patterns found"
  | some _ => return "  ⚠️  No URLs module (this may be intentional)"

def validateOne (checkUrls : Bool) (key : Json) (p : Plugin) : App Bool := do
  App.say ("\nValidating: " ++ key.toText)
  let mut valid := true
  for attr in ["plugin_name", "plugin_version"] do
    match p.attr? attr with
    | none => App.say ("  ❌ Missing required attribute: " ++ attr); valid := false
    | some v => if !v.truthy then App.say ("  ❌ Empty required attribute: " ++ attr); valid := false
  let m ← Plugins.moduleOf p
  match ← importModule m with
  | none => App.say "  ✅ Plugin module loads correctly"
  | some e => App.say ("  ❌ Plugin module import failed: " ++ e); valid := false
  let sub (part : String) : Json := .str (m.toText ++ "." ++ part)
  match ← importModule (sub "models") with
  | none => App.say "  ✅ Models module available"
  | some _ => App.say "  ⚠️  No models module (this may be intentional)"
  match ← importModule (sub "views") with
  | none => App.say "  ✅ Views module available"
  | some _ => App.say "  ⚠️  No views module (this may be intentional)"
  if checkUrls then App.say (← urlsReport m)
  match ← importModule (sub "admin") with
  | none => App.say "  ✅ Admin module available"
  | some _ => App.say "  ⚠️  No admin module (this may be intentional)"
  App.say (if valid then "  ✅ Plugin validation passed" else "  ❌ Plugin validation failed")
  return valid

def validatePlugins (vs : Values) : App Unit := do
  let mut plugins ← Plugins.registry
  let chosen := vs.find "plugin"
  if chosen.truthy then
    match plugins.find? (·.1 == chosen) with
    | some entry => plugins := [entry]
    | none => App.raise "CommandError" ("Plugin '" ++ chosen.toText ++ "' not found")
  if plugins.isEmpty then App.say "No plugins to validate"; return
  App.say "Validating Plugins:"
  App.say (String.ofList (List.replicate 80 '='))
  let mut allValid := true
  for (key, p) in plugins do
    if !(← validateOne (vs.find "check_urls").truthy key p) then allValid := false
  App.say "\nChecking Dependencies:"
  let errors ← Plugins.dependencyErrors
  if errors.isEmpty then App.say "  ✅ All dependencies satisfied"
  else
    for e in errors do App.say ("  ❌ " ++ e)
    allValid := false
  if allValid then App.say "\nAll plugins validated successfully!"
  else
    App.say "\nSome plugins failed validation"
    App.raise "CommandError" "Plugin validation failed"

end Command
end Portal
