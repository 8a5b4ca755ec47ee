import Portal.Store.Catalog
/-! How fields become columns: the class each field is declared with, the type its column
is declared with, whether lookups on it find an index, and the statement that creates a
record kind's table. A column is declared with its type, then whether it may be null, then
whether it is the key or unique, then its check, then the key counter, then the table it
refers to. -/
namespace Portal

namespace Field

def internalType (f : Field) : String :=
  if !f.typeName.isEmpty then f.typeName else
  match f.kind with
  | .serial => "BigAutoField"
  | .int => "IntegerField"
  | .posInt => "PositiveIntegerField"
  | .text => "TextField"
  | .bool => "BooleanField"
  | .moment => "DateTimeField"
  | .dec _ _ => "DecimalField"
  | .json => "JSONField"
  | .ref _ _ => "ForeignKey"
  | .ip => "GenericIPAddressField"
  | .file => "FileField"

def hasIndex (f : Field) : Bool :=
  f.kind == .serial || f.unique || f.indexed || f.isRef || f.internalType == "SlugField"

def manyToOne (f : Field) : Option Bool :=
  if f.isRef then some (f.internalType != "OneToOneField") else none

def quoted (s : String) : String := "\"" ++ s ++ "\""

def keyColumnType (e : Entity) : String :=
  if (e.model.fields.head?.map internalType) == some "AutoField" then "integer" else "bigint"

def columnType (f : Field) : String :=
  match f.kind with
  | .ref t _ => keyColumnType t
  | _ =>
    let varchar := "varchar(" ++ toString (f.maxLength.getD 100) ++ ")"
    match f.internalType with
    | "AutoField" | "BigAutoField" | "IntegerField" => "integer"
    | "CharField" | "SlugField" | "EmailField" | "ImageField" | "FileField" => varchar
    | "BooleanField" => "bool"
    | "DateTimeField" => "datetime"
    | "DecimalField" => "decimal"
    | "PositiveIntegerField" => "integer unsigned"
    | "GenericIPAddressField" => "char(39)"
    | _ => "text"

def columnCheck (f : Field) : Option String :=
  match f.kind with
  | .posInt => some (quoted f.column ++ " >= 0")
  | .json => some ("(JSON_VALID(" ++ quoted f.column ++ ") OR " ++ quoted f.column ++ " IS NULL)")
  | _ => none

def columnSql (f : Field) : String :=
  quoted f.column ++ " " ++ f.columnType ++ (if f.null then " NULL" else " NOT NULL") ++
    (if f.kind == .serial then " PRIMARY KEY" else if f.unique then " UNIQUE" else "") ++
    ((f.columnCheck.map fun c => " CHECK (" ++ c ++ ")").getD "") ++
    (if f.kind == .serial then " AUTOINCREMENT" else "") ++
    (match f.kind with
      | .ref t _ => " REFERENCES " ++ quoted t.model.table ++ " (\"id\") DEFERRABLE INITIALLY DEFERRED"
      | _ => "")

end Field

namespace Model

def schemaText (m : Model) : String :=
  "CREATE TABLE " ++ Field.quoted m.table ++ " (" ++ ", ".intercalate (m.fields.map Field.columnSql) ++ ")"

def linkSchemaText (m : Model) (l : LinkSpec) : String :=
  let ref (col table type : String) : String :=
    Field.quoted col ++ " " ++ type ++ " NOT NULL REFERENCES " ++ Field.quoted table ++
      " (\"id\") DEFERRABLE INITIALLY DEFERRED"
  "CREATE TABLE " ++ Field.quoted l.table ++ " (\"id\" integer NOT NULL PRIMARY KEY AUTOINCREMENT, " ++
    ref l.ownColumn m.table (Field.keyColumnType m.entity) ++ ", " ++
    ref l.otherColumn l.target.model.table (Field.keyColumnType l.target) ++ ")"

end Model
end Portal
