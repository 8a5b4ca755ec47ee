import Portal.Audit.Display
import Portal.Records.Query
import Portal.Web.Reverse
/-! The columns the administration pages show for log entries and comments. Values placed
into markup are escaped; a short message is shown as it is, a long one cut to 77
characters with the whole in its title; the user column links to the user when they
exist and names the id otherwise. -/
namespace Portal
namespace Audit

def escapeHtml (s : String) : String :=
  String.join (s.toList.map fun c =>
    match c with
    | '&' => "&amp;"
    | '<' => "&lt;"
    | '>' => "&gt;"
    | '"' => "&quot;"
    | '\'' => "&#x27;"
    | c => c.toString)

def levelColor : String → String
  | "INFO" => "#17a2b8"
  | "WARN" => "#ffc107"
  | "ERROR" => "#dc3545"
  | "CRITICAL" => "#6f42c1"
  | _ => "#6c757d"

def levelBadge (o : Obj) : String :=
  let level := (o.get "level").toText
  "<span style=\"background-color: " ++ escapeHtml (levelColor level) ++
    "; color: white; padding: 2px 6px; border-radius: 3px; font-size: 11px; font-weight: bold;\">" ++
    escapeHtml level ++ "</span>"

def categoryBadge (o : Obj) : String :=
  let shown := escapeHtml (o.display "category")
  "<span title=\"" ++ shown ++ "\">" ++ categoryIcon (o.get "category").toText ++ " " ++ shown ++ "</span>"

def messagePreview (o : Obj) : String :=
  let m := (o.get "message").toText
  if m.length ≤ 80 then m
  else "<span title=\"" ++ escapeHtml m ++ "\">" ++ escapeHtml (String.ofList (m.toList.take 77) ++ "...") ++
    "</span>"

def userInfo (o : Obj) : App String := do
  let uid := o.get "user_id"
  if !uid.truthy then return "-"
  let idText := escapeHtml uid.toText
  match uid.asNat? with
  | some k =>
    match ← App.find? .user k with
    | some u =>
      let full := (u.getText "first_name" ++ " " ++ u.getText "last_name").trimAscii.toString
      let name := if full.isEmpty then u.getText "username" else full
      return "<a href=\"" ++ (Web.PageName.userChange k).path ++ "\">" ++ escapeHtml name ++ " (" ++
        idText ++ ")</a>"
    | none => return "User ID: " ++ idText
  | none => return "User ID: " ++ idText

def ipShort (o : Obj) : String :=
  let ip := o.get "ip_address"
  if ip.truthy then ip.toText else "-"

def metadataFormatted (o : Obj) : String :=
  if !(o.get "metadata").truthy then "No metadata"
  else "<pre style=\"background-color: #f8f9fa; padding: 10px; border-radius: 4px; white-space: pre-wrap; font-family: monospace; font-size: 12px;\">" ++
    metadataText o ++ "</pre>"

def contentPreview (o : Obj) : String :=
  let c := o.getText "content"
  if c.length > 50 then String.ofList (c.toList.take 50) ++ "..." else c

end Audit
end Portal
