import Portal.Store.Basic
import Portal.Store.Columns
import Portal.Sql.Parser
import Portal.Json.Write
import Portal.Json.Read
/-! The tables of the application's database as statements see them. Every table has the
statement that created it, and its rows are read from where the store keeps them: the
records of a kind, the pairs of a link table, or the rows of a table the application keeps
no records of. A record's values become the values the database stores: flags as `1` and
`0`, moments as text in universal time, JSON as its text, decimals as numbers. The counter
table lists every counting table that has handed out a key, and the schema table lists
every table. Writing a table back changes only the rows and cells that changed. -/
namespace Portal
namespace Sql

inductive Home where
  | records (e : Entity)
  | links (owner : Entity) (l : LinkSpec)
  | library
  | created
  | counters
  deriving Inhabited

structure TableInfo where
  name : String
  schema : String
  home : Home
  deriving Inhabited

def quoted (s : String) : String := "\"" ++ s ++ "\""

def refColumn (col type : String) (null : Bool) (table : String) : String :=
  quoted col ++ " " ++ type ++ (if null then " NULL" else " NOT NULL") ++ " REFERENCES " ++ quoted table ++
    " (\"id\") DEFERRABLE INITIALLY DEFERRED"

def keyColumn : String := "\"id\" integer NOT NULL PRIMARY KEY AUTOINCREMENT"

def tableSql (name : String) (cols : List String) : String :=
  "CREATE TABLE " ++ quoted name ++ " (" ++ ", ".intercalate cols ++ ")"

def jsonCheck (col : String) : String :=
  "CHECK ((JSON_VALID(" ++ quoted col ++ ") OR " ++ quoted col ++ " IS NULL))"

def libraryTables : List (String × String) :=
  [("django_admin_log", tableSql "django_admin_log" [keyColumn, "\"action_time\" datetime NOT NULL",
      refColumn "user_id" "integer" false "auth_user",
      refColumn "content_type_id" "integer" true "django_content_type",
      "\"object_id\" text NULL", "\"object_repr\" varchar(200) NOT NULL",
      "\"action_flag\" smallint unsigned NOT NULL CHECK (\"action_flag\" >= 0)",
      "\"change_message\" text NOT NULL"]),
   ("auth_permission", tableSql "auth_permission" [keyColumn, "\"name\" varchar(255) NOT NULL",
      refColumn "content_type_id" "integer" false "django_content_type", "\"codename\" varchar(100) NOT NULL"]),
   ("auth_group", tableSql "auth_group" [keyColumn, "\"name\" varchar(150) NOT NULL UNIQUE"]),
   ("auth_group_permissions", tableSql "auth_group_permissions" [keyColumn,
      refColumn "group_id" "integer" false "auth_group", refColumn "permission_id" "integer" false "auth_permission"]),
   ("django_content_type", tableSql "django_content_type" [keyColumn, "\"app_label\" varchar(100) NOT NULL",
      "\"model\" varchar(100) NOT NULL"]),
   ("django_session", tableSql "django_session" ["\"session_key\" varchar(40) NOT NULL PRIMARY KEY",
      "\"session_data\" text NOT NULL", "\"expire_date\" datetime NOT NULL"]),
   ("account_emailaddress", tableSql "account_emailaddress" [keyColumn,
      refColumn "user_id" "integer" false "auth_user", "\"email\" varchar(254) NOT NULL",
      "\"verified\" bool NOT NULL", "\"primary\" bool NOT NULL"]),
   ("account_emailconfirmation", tableSql "account_emailconfirmation" [keyColumn,
      refColumn "email_address_id" "integer" false "account_emailaddress", "\"created\" datetime NOT NULL",
      "\"sent\" datetime NULL", "\"key\" varchar(64) NOT NULL UNIQUE"]),
   ("socialaccount_socialapp", tableSql "socialaccount_socialapp" [keyColumn,
      "\"provider\" varchar(30) NOT NULL", "\"provider_id\" varchar(200) NOT NULL", "\"name\" varchar(40) NOT NULL",
      "\"client_id\" varchar(191) NOT NULL", "\"secret\" varchar(191) NOT NULL", "\"key\" varchar(191) NOT NULL",
      "\"settings\" text NOT NULL " ++ jsonCheck "settings"]),
   ("socialaccount_socialapp_sites", tableSql "socialaccount_socialapp_sites" [keyColumn,
      refColumn "socialapp_id" "integer" false "socialaccount_socialapp", refColumn "site_id" "integer" false "django_site"]),
   ("socialaccount_socialaccount", tableSql "socialaccount_socialaccount" [keyColumn,
      refColumn "user_id" "integer" false "auth_user", "\"provider\" varchar(200) NOT NULL",
      "\"uid\" varchar(191) NOT NULL", "\"last_login\" datetime NOT NULL", "\"date_joined\" datetime NOT NULL",
      "\"extra_data\" text NOT NULL " ++ jsonCheck "extra_data"]),
   ("socialaccount_socialtoken", tableSql "socialaccount_socialtoken" [keyColumn,
      refColumn "app_id" "integer" true "socialaccount_socialapp",
      refColumn "account_id" "integer" false "socialaccount_socialaccount", "\"token\" text NOT NULL",
      "\"token_secret\" text NOT NULL", "\"expires_at\" datetime NULL"])]

def librarySchema (name : String) : String := ((libraryTables.find? (·.1 == name)).map (·.2)).getD ""

def isLibraryTable (name : String) : Bool := libraryTables.any (·.1 == name)

def counterSchema : String := "CREATE TABLE sqlite_sequence(name,seq)"

def linkSchema (owner : Entity) (l : LinkSpec) : String :=
  match l.table with
  | "auth_user_groups" => tableSql l.table [keyColumn, refColumn "user_id" "integer" false "auth_user",
      refColumn "group_id" "integer" false "auth_group"]
  | "auth_user_user_permissions" => tableSql l.table [keyColumn, refColumn "user_id" "integer" false "auth_user",
      refColumn "permission_id" "integer" false "auth_permission"]
  | _ => owner.model.linkSchemaText l

def library (name : String) : TableInfo := ⟨name, librarySchema name, .library⟩

def records (e : Entity) : List TableInfo :=
  ⟨e.model.table, e.model.schemaText, .records e⟩ ::
    e.model.links.map fun l => ⟨l.table, linkSchema e l, .links e l⟩

def builtinTables : List TableInfo :=
  [library "django_admin_log", ⟨"sqlite_sequence", counterSchema, .counters⟩,
    library "auth_permission", library "auth_group", library "auth_group_permissions"] ++
  records .user ++ [library "django_content_type", library "django_session"] ++ records .site ++
  ["account_emailaddress", "account_emailconfirmation", "socialaccount_socialapp",
    "socialaccount_socialapp_sites", "socialaccount_socialaccount", "socialaccount_socialtoken"].map library ++
  ([Entity.plan, .userSettings, .stripeCustomer, .notification, .presence, .category, .article, .comment, .tag,
    .task .todoTasks, .userTask .todoTasks, .taskShare .todoTasks, .taskComment .todoTasks, .taskList .todoTasks,
    .task .todo, .userTask .todo, .taskShare .todo, .taskComment .todo, .taskList .todo].flatMap records)

def catalog (db : Db) : List TableInfo :=
  builtinTables ++ (db.raw.filter fun t => !isLibraryTable t.name).map fun t => ⟨t.name, t.schema, .created⟩

def sameName (a b : String) : Bool := a.toLower == b.toLower

def findTable? (db : Db) (name : String) : Option TableInfo := (catalog db).find? (sameName ·.name name)

def TableInfo.columns (t : TableInfo) : List ColumnDef :=
  match parseStatement t.schema with
  | .ok (.createTable _ _ _ cols _ _, _) => cols
  | _ => []

def TableInfo.constraints (t : TableInfo) : List TableConstraint :=
  match parseStatement t.schema with
  | .ok (.createTable _ _ _ _ cons _, _) => cons
  | _ => []

def TableInfo.counts (t : TableInfo) : Bool := t.columns.any (·.autoincrement)

def TableInfo.rowidColumn? (t : TableInfo) : Option Nat :=
  let cols := t.columns
  match cols.findIdx? (fun c => c.primary && c.type.toUpper == "INTEGER" && !c.descending) with
  | some i => some i
  | none =>
    match t.constraints.findSome? (fun c => match c with
      | .primary [k] _ => some k
      | _ => none) with
    | some k => cols.findIdx? fun c => sameName c.name k && c.type.toUpper == "INTEGER"
    | none => none

def TableInfo.uniqueGroups (t : TableInfo) : List (List String) :=
  match t.home with
  | .records e => e.model.together.map fun names =>
      names.map fun n => ((e.model.field? n).map Field.column).getD n
  | .links _ l => [[l.ownColumn, l.otherColumn]]
  | _ => []

namespace Datum

def toValue : Datum → Value
  | .null => .null
  | .int n => .int n
  | .real x => .real x.toSci
  | .text s => .text s
  | .blob h => .bytes h

def ofDecimal (d : Decimal) : Datum :=
  let sci : Sci := Sci.normalize { neg := d.neg, mant := d.coeff, exp := d.exp }
  if sci.isWhole then Datum.ofInt sci.toInt else .real (Binary64.ofSci sci)

def ofValue : Value → Datum
  | .null => .null
  | .bool b => .int (if b then 1 else 0)
  | .int n => .int n
  | .text s => .text s
  | .moment m => .text m.stored
  | .dec d => ofDecimal d
  | .json j => .text (Json.renderWith .ascii j)
  | .real x => .real (Binary64.ofSci x)
  | .bytes h => .blob h

end Datum

def fieldValue (f : Field) (d : Datum) : Value :=
  match d with
  | .null => .null
  | _ =>
  match f.kind, d with
  | .bool, _ => .bool (d.textOr "" == "1")
  | .moment, .text s => match Iso.parse s with
    | some (m, _) => .moment m
    | none => .text s
  | .dec _ _, .int n => .dec (Decimal.ofInt n)
  | .dec _ _, .real x => match Decimal.parse x.toSci.render with
    | some dd => .dec dd
    | none => d.toValue
  | .json, .text s => match Json.parse s with
    | .ok j => .json j
    | .error _ => .text s
  | _, _ => d.toValue

def rowsOf (db : Db) (t : TableInfo) : List (Int × List Datum) :=
  match t.home with
  | .records e => (db.rows e).map fun r => ((r.pk : Int), e.model.fields.map fun f => Datum.ofValue (r.get f.name))
  | .links _ l => (db.linkTable l.table).rows.map fun r =>
      ((r.id : Int), [.int r.id, .int r.owner, .int r.other])
  | .library | .created => match db.raw.find? (sameName ·.name t.name) with
    | some raw => raw.rows.map fun (k, vs) => (k, vs.map fun v => Datum.ofValue v)
    | none => []
  | .counters =>
    let counted := (catalog db).filterMap fun (u : TableInfo) =>
      match u.home with
      | .records e => if (db.table e).seq > 0 then some (u.name, ((db.table e).seq : Int)) else none
      | .links _ l => if (db.linkTable l.table).seq > 0 then some (u.name, ((db.linkTable l.table).seq : Int)) else none
      | .library | .created => match db.raw.find? (sameName ·.name u.name) with
        | some raw => raw.seq.map fun n => (u.name, (n : Int))
        | none => none
      | .counters => none
    (counted.zip (List.range counted.length)).map fun ((n, s), i) => ((i + 1 : Nat), [.text n, .int s])

def counterOf (db : Db) (name : String) : Int :=
  match (rowsOf db ⟨"sqlite_sequence", counterSchema, .counters⟩).find? (fun (_, vs) => vs.head? == some (.text name)) with
  | some (_, [_, .int n]) => n
  | _ => 0

def natOf (d : Datum) : Nat :=
  match d with
  | .int n => n.toNat
  | _ => 0

def writeRows (db : Db) (t : TableInfo) (rows : List (Int × List Datum)) (counter : Int) : Db :=
  match t.home with
  | .records e =>
    let old := db.table e
    let fields := e.model.fields
    let newRows := rows.map fun (k, ds) =>
      let base : Row := (old.rows.find? (·.pk == k.toNat)).getD { pk := k.toNat, cells := [] }
      let cells := (fields.zip ds).foldl (fun (r : Row) (f, d) =>
        if f.kind == .serial then r
        else if Datum.ofValue (r.get f.name) == d && r.cells.any (·.1 == f.name) then r
        else r.set f.name (fieldValue f d)) { base with pk := k.toNat }
      cells
    db.setTable e { rows := newRows.mergeSort (fun a b => a.pk ≤ b.pk), seq := counter.toNat }
  | .links _ l =>
    let newRows := rows.map fun (k, ds) => match ds with
      | [_, a, b] => ({ id := k.toNat, owner := natOf a, other := natOf b } : LinkRow)
      | _ => { id := k.toNat, owner := 0, other := 0 }
    db.setLinkTable l.table { rows := newRows.mergeSort (fun a b => a.id ≤ b.id), seq := counter.toNat }
  | .library | .created =>
    let kept := rows.map fun (k, ds) => (k, ds.map Datum.toValue)
    let counted : Option Nat := if counter > 0 then some counter.toNat else none
    let raw : RawTable := { name := t.name, schema := t.schema, rows := kept, seq := counted }
    if db.raw.any (sameName ·.name t.name) then
      { db with raw := db.raw.map fun r => if sameName r.name t.name then raw else r }
    else { db with raw := db.raw ++ [raw] }
  | .counters =>
    -- each counting table takes the counter its row now holds, or none
    let counterFor (name : String) : Nat :=
      ((rows.find? fun (_, vs) => vs.head? == some (.text name)).bind fun (_, vs) => vs[1]?.map natOf).getD 0
    let tables := db.tables.map fun (p : Entity × Table) =>
      (p.1, ({ rows := p.2.rows, seq := counterFor p.1.model.table } : Table))
    let links := db.links.map fun (p : String × LinkTable) =>
      (p.1, ({ rows := p.2.rows, seq := counterFor p.1 } : LinkTable))
    let raw := db.raw.map fun (r : RawTable) =>
      ({ name := r.name, schema := r.schema, rows := r.rows,
         seq := if counterFor r.name > 0 then some (counterFor r.name) else none } : RawTable)
    { tables, links, raw }

end Sql
end Portal
