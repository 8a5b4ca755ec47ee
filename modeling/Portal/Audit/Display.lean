import Portal.Records.Describe
import Portal.Json.Write
/-! How a log entry shows itself: its metadata as indented JSON with sorted keys, its level
as a labelled span and its category with an icon. -/
namespace Portal
namespace Audit

def metadataText (o : Obj) : String :=
  match o.get "metadata" with
  | .json j => if (Value.json j).truthy then j.renderWith .pretty else "{}"
  | .null => "{}"
  | v => match v.toDoc? with
    | some j => if v.truthy then j.renderWith .pretty else "{}"
    | none => "{}"

def levelClass : String → String
  | "DEBUG" => "debug"
  | "INFO" => "info"
  | "WARN" => "warning"
  | "ERROR" => "error"
  | "CRITICAL" => "critical"
  | _ => ""

def levelSpan (o : Obj) : String :=
  let level := (o.get "level").toText
  s!"<span class=\"log-level {levelClass level}\">{level}</span>"

def categoryIcon : String → String
  | "api" => "🌐"
  | "error" => "❌"
  | "migration" => "🔄"
  | "audit" => "📋"
  | "auth" => "🔐"
  | "system" => "⚙️"
  | _ => "📝"

def categoryText (o : Obj) : String :=
  categoryIcon (o.get "category").toText ++ " " ++ o.display "category"

end Audit
end Portal
