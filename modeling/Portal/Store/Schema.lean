import Portal.Store.Value
/-! Record kinds and their fields. Every stored kind of record (an `Entity`) has a table,
fields in declaration order, links to other records and a default order. The two task
boards share one set of kinds, told apart by `Board`. -/
namespace Portal

inductive Board where
  | todo
  | todoTasks
  deriving DecidableEq, Repr, Inhabited

namespace Board

def label : Board → String
  | .todo => "todo"
  | .todoTasks => "todo_tasks"

def all : List Board := [.todo, .todoTasks]

end Board

inductive Entity where
  | user
  | site
  | category
  | article
  | comment
  | tag
  | task (b : Board)
  | userTask (b : Board)
  | taskShare (b : Board)
  | taskComment (b : Board)
  | taskList (b : Board)
  | plan
  | userSettings
  | stripeCustomer
  | notification
  | presence
  | systemLog
  deriving DecidableEq, Repr, Inhabited

inductive OnDelete where
  | cascade
  | setNull
  deriving DecidableEq, Repr

inductive Kind where
  | serial
  | int
  | posInt
  | text
  | bool
  | moment
  | dec (digits places : Nat)
  | json
  | ref (target : Entity) (onDelete : OnDelete)
  | ip
  | file
  deriving DecidableEq, Repr

inductive Default where
  | none
  | value (v : Value)
  | now
  deriving Repr

structure Field where
  name : String
  kind : Kind
  null : Bool := false
  unique : Bool := false
  dflt : Default := .none
  autoNow : Bool := false
  autoNowAdd : Bool := false
  choices : List (String × String) := []
  blank : Bool := false
  maxLength : Option Nat := none
  typeName : String := ""
  indexed : Bool := false
  deriving Repr

namespace Field

def isRef (f : Field) : Bool :=
  match f.kind with
  | .ref .. => true
  | _ => false

def target? (f : Field) : Option Entity :=
  match f.kind with
  | .ref t _ => some t
  | _ => none

def column (f : Field) : String := if f.isRef then f.name ++ "_id" else f.name

def display (f : Field) (v : Value) : Option String :=
  match v with
  | .text s => (f.choices.find? (·.1 == s)).map (·.2)
  | _ => none

end Field

structure LinkSpec where
  name : String
  table : String
  ownColumn : String
  otherColumn : String
  target : Entity
  deriving Repr

inductive Database where
  | main
  | logs
  deriving DecidableEq, Repr

structure Model where
  entity : Entity
  app : String
  name : String
  table : String
  fields : List Field
  links : List LinkSpec := []
  ordering : List (String × Bool) := []
  together : List (List String) := []
  database : Database := .main
  deriving Repr

namespace Model

def label (m : Model) : String := m.app ++ "." ++ m.name

def field? (m : Model) (name : String) : Option Field := m.fields.find? (·.name == name)

def fieldByColumn? (m : Model) (name : String) : Option Field :=
  m.fields.find? fun f => f.name == name || f.column == name

def link? (m : Model) (name : String) : Option LinkSpec := m.links.find? (·.name == name)

end Model
end Portal
