import Portal.Plugins.Registry
import Portal.Console.Input
/-! Calls on the plugin registry. A plugin registered by a call is a plain object carrying
only the attributes the call gives. -/
namespace Portal
namespace Console

def pluginAttributes : List String :=
  ["name", "plugin_name", "plugin_version", "plugin_description", "plugin_author",
    "plugin_dependencies", "provides", "requires", "plugin_settings"]

def pluginOf (args : Json) : Plugin :=
  { className := "FakePlugin",
    attributes := pluginAttributes.filterMap fun k => (args.get? k).map (k, ·) }

def pluginCall (fn : String) (args : Json) : Option (App Json) :=
  match fn with
  | "plugins.register" => some do Plugins.register (pluginOf args); pure .null
  | "plugins.get_plugin" => some do
    match ← Plugins.find? (← need args "name") with
    | some p => return .obj [("name", ← Plugins.moduleOf p), ("plugin_name", (p.attr? "plugin_name").getD .null)]
    | none => return .null
  | "plugins.get_all_plugins" => some do
    return .arr (← App.ofExcept (Plugins.sortValues ((← Plugins.registry).map (·.1))))
  | "plugins.get_plugins_by_capability" => some do
    let found ← Plugins.withCapability (← need args "capability")
    let names ← found.mapM fun (_, p) => Plugins.moduleOf p
    return .arr (← App.ofExcept (Plugins.sortValues names))
  | "plugins.validate_dependencies" => some do
    return Json.strs (← Plugins.dependencyErrors)
  | "plugins.get_plugin_settings" => some do
    match ← Plugins.find? (← need args "name") with
    | some p => return (p.attr? "plugin_settings").getD (.obj [])
    | none => return .obj []
  | "plugins.is_plugin_enabled" => some do
    return .bool (← Plugins.find? (← need args "name")).isSome
  | "plugins.clear" => some do Plugins.setRegistry []; pure .null
  | "plugins.autodiscover" => some do
    App.raise "UnboundLocalError"
      "cannot access local variable 'before_import_registry' where it is not associated with a value"
  | "plugins.load_plugin_urls" => some do
    return Json.strs (← Plugins.urlPrefixes)
  | _ => none

end Console
end Portal
