/-! Migrations as data. A migration belongs to an application, has a name, the migrations
it needs applied first, and a list of operations; creating a model is the operation whose
columns, indexes and constraints the schema statements come from, the others are known by
what they describe. A model's fields are kept in the order the migration declares them,
which is the order of the table's columns.

Two definitions of a field differ for the schema when anything the database sees differs:
the kind and its size, whether it may be empty, uniqueness, the key, indexing, and how a
value is chosen when none is given. Help texts, choices and validators are not part of a
field here, so changing only those leaves its definition equal. -/
namespace Portal
namespace Migrations

abbrev Key := String × String

structure Target where
  model : String
  table : String
  keyType : String := "bigint"
  deriving Repr, Inhabited, BEq

inductive Kind where
  | serial (big : Bool)
  | chars (maxLength : Nat)
  | text
  | flag
  | moment
  | integer
  | positive
  | positiveSmall
  | decimal
  | document
  | address
  | ref (target : Target)
  | many (target : Target)
  deriving Repr, Inhabited, BEq

inductive Initial where
  | stamped (everySave : Bool)
  | now
  | emptyObject
  | constant (sql : String)
  deriving Repr, Inhabited, BEq

structure Field where
  name : String
  kind : Kind
  null : Bool := false
  unique : Bool := false
  primary : Bool := false
  indexed : Bool := false
  initial : Option Initial := none
  deriving Repr, Inhabited, BEq

namespace Field

def key : Field := { name := "id", kind := .serial true, primary := true }

def smallKey : Field := { name := "id", kind := .serial false, primary := true }

def chars (name : String) (n : Nat) (null : Bool := false) (unique : Bool := false) (indexed : Bool := false) : Field :=
  { name, kind := .chars n, null, unique, indexed }

def slug (name : String) (n : Nat := 50) (unique : Bool := false) : Field :=
  { name, kind := .chars n, unique, indexed := true }

def plain (name : String) (kind : Kind) (null : Bool := false) (indexed : Bool := false) : Field :=
  { name, kind, null, indexed }

def ref (name : String) (target : Target) (null : Bool := false) : Field :=
  { name, kind := .ref target, null, indexed := true }

def oneToOne (name : String) (target : Target) : Field :=
  { name, kind := .ref target, unique := true, indexed := true }

def many (name : String) (target : Target) : Field := { name, kind := .many target }

def column (f : Field) : String :=
  match f.kind with
  | .ref _ => f.name ++ "_id"
  | _ => f.name

def isMany (f : Field) : Bool :=
  match f.kind with
  | .many _ => true
  | _ => false

end Field

structure Index where
  name : String
  fields : List String
  deriving Repr, Inhabited

structure Model where
  name : String
  table : String
  fields : List Field
  uniqueTogether : List (List String) := []
  indexes : List Index := []
  deriving Repr, Inhabited

namespace Model

def lowerName (m : Model) : String := m.name.toLower

def field? (m : Model) (name : String) : Option Field := m.fields.find? (·.name == name)

def keyType (m : Model) : String :=
  match m.fields.find? (·.primary) with
  | some { kind := .chars n, .. } => "varchar(" ++ toString n ++ ")"
  | some { kind := .serial false, .. } => "integer"
  | _ => "bigint"

def target (m : Model) : Target := { model := m.lowerName, table := m.table, keyType := m.keyType }

end Model

inductive Operation where
  | createModel (m : Model)
  | alterUniqueTogether (model : String) (sets : List (List String))
  | alterField (model : String) (field : Field)
  | removeField (model field : String)
  | alterOptions (model : String)
  | runCode (doc : String)
  deriving Repr, Inhabited

namespace Operation

def describe : Operation → String
  | .createModel m => "Create model " ++ m.name
  | .alterUniqueTogether model sets =>
    "Alter unique_together for " ++ model ++ " (" ++ toString sets.length ++ " constraint(s))"
  | .alterField model field => "Alter field " ++ field.name ++ " on " ++ model
  | .removeField model field => "Remove field " ++ field ++ " from " ++ model
  | .alterOptions model => "Change Meta options on " ++ model
  | .runCode _ => "Raw Python operation"

def reducesToStatements : Operation → Bool
  | .runCode _ => false
  | _ => true

end Operation

structure Migration where
  app : String
  name : String
  parents : List Key := []
  operations : List Operation := []
  deriving Repr, Inhabited

def Migration.key (m : Migration) : Key := (m.app, m.name)

end Migrations
end Portal
