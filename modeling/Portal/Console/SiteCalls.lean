import Portal.Console.Keywords
import Portal.Console.Input
import Portal.Audit.Admin
import Portal.Store.Routing
/-! Calls into the administration columns and the database routing. -/
namespace Portal
namespace Console

def appOfLabel (label : String) : String := (label.splitOn ".").head?.getD label

def pkArg (args : Json) : App Nat := needNat args "pk"

def migrateSig : Signature :=
  { name := "LoggingDatabaseRouter.allow_migrate",
    params := [⟨"db", none⟩, ⟨"app_label", none⟩, ⟨"model_name", some .null⟩], rest := true }

def siteCall (fn : String) (args : Json) : Option (App Json) :=
  let logColumn (column : Obj → App String) : Option (App Json) := some do
    let o ← App.load .systemLog (← pkArg args)
    return .str (← column o)
  match fn with
  | "admin.get_display_level_badge" => logColumn fun o => pure (Audit.levelBadge o)
  | "admin.get_display_category_icon" => logColumn fun o => pure (Audit.categoryBadge o)
  | "admin.message_preview" => logColumn fun o => pure (Audit.messagePreview o)
  | "admin.user_info" => logColumn Audit.userInfo
  | "admin.ip_address_short" => logColumn fun o => pure (Audit.ipShort o)
  | "admin.metadata_formatted" => logColumn fun o => pure (Audit.metadataFormatted o)
  | "admin.metadata_json_pretty" => logColumn fun o => pure (Audit.metadataText o)
  | "admin.content_preview" => some do
    let o ← App.load .comment (← pkArg args)
    return .str (Audit.contentPreview o)
  | "router.db_for_read" | "router.db_for_write" => some do
    let label ← needStr args "model"
    return Json.optStr (Routing.databaseFor (appOfLabel label))
  | "router.allow_relation" => some do
    let a ← needStr args "a"
    let b ← needStr args "b"
    return match Routing.allowRelation (appOfLabel a) (appOfLabel b) with
      | some v => .bool v
      | none => .null
  | "router.allow_migrate" => some do
    let b ← bindArgs migrateSig args
    return .bool (Routing.allowMigrate (b.arg "db").toText (b.arg "app_label").toText)
  | _ => none

end Console
end Portal
