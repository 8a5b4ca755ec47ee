import Portal.Migrations.Basic
/-! The models as a run of migrations leaves them. Creating a model adds it under its
application; altering a field puts the new definition in the old one's place, so the
fields keep their declared order; removing a field drops it; a change of the unique pairs
replaces them. Options and code leave the models as they are. -/
namespace Portal
namespace Migrations

abbrev Schema := List (String × Model)

namespace Schema

def model? (s : Schema) (app name : String) : Option Model :=
  (s.find? fun (a, m) => a == app && m.lowerName == name).map (·.2)

def update (s : Schema) (app name : String) (f : Model → Model) : Schema :=
  s.map fun (a, m) => if a == app && m.lowerName == name then (a, f m) else (a, m)

def apply (s : Schema) (app : String) : Operation → Schema
  | .createModel m => s.filter (fun (a, old) => !(a == app && old.lowerName == m.lowerName)) ++ [(app, m)]
  | .alterUniqueTogether name sets => s.update app name fun m => { m with uniqueTogether := sets }
  | .alterField name field => s.update app name fun m =>
      { m with fields := m.fields.map fun f => if f.name == field.name then field else f }
  | .removeField name field => s.update app name fun m =>
      { m with fields := m.fields.filter (·.name != field) }
  | .alterOptions _ | .runCode _ => s

def stages (s : Schema) (app : String) : List Operation → List Schema
  | [] => [s]
  | op :: ops => s :: (s.apply app op).stages app ops

def applyMigration (s : Schema) (mig : Migration) : Schema :=
  mig.operations.foldl (fun s op => s.apply mig.app op) s

def ofMigrations (ms : List Migration) : Schema := ms.foldl applyMigration []

end Schema

end Migrations
end Portal
