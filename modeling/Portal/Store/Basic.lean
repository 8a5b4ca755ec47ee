import Portal.Store.Catalog
/-! The database: a table of rows per record kind, link tables for many-to-many fields, and
the tables created by hand. Keys are handed out in increasing order and never reused while
the table's counter lives; inserts and updates check the table's constraints first and
change nothing when one fails. -/
namespace Portal

structure Row where
  pk : Nat
  cells : List (String × Value)
  deriving Repr, Inhabited

namespace Row

def get (r : Row) (name : String) : Value :=
  if name = "id" then .int r.pk else ((r.cells.find? (·.1 == name)).map (·.2)).getD .null

def getNat? (r : Row) (name : String) : Option Nat := (r.get name).asNat?

def getText (r : Row) (name : String) : String := (r.get name).textOr ""

def getBool (r : Row) (name : String) : Bool := (r.get name).asBool

def set (r : Row) (name : String) (v : Value) : Row :=
  { r with cells := if r.cells.any (·.1 == name) then
      r.cells.map fun p => if p.1 == name then (name, v) else p
    else r.cells ++ [(name, v)] }

end Row

structure Table where
  rows : List Row := []
  seq : Nat := 0
  deriving Repr, Inhabited

structure LinkRow where
  id : Nat
  owner : Nat
  other : Nat
  deriving Repr, Inhabited

structure LinkTable where
  rows : List LinkRow := []
  seq : Nat := 0
  deriving Repr, Inhabited

structure RawTable where
  name : String
  schema : String
  rows : List (Int × List Value) := []
  seq : Option Nat := none
  deriving Repr, Inhabited

inductive DbError where
  | notNull (table column : String)
  | unique (columns : List String)
  | check (column : String)
  | foreignKey
  | noTable (name : String)
  | other (kind message : String)
  deriving Repr, Inhabited

namespace DbError

def kind : DbError → String
  | .other k _ => k
  | .noTable _ => "OperationalError"
  | _ => "IntegrityError"

def message : DbError → String
  | .notNull t c => s!"NOT NULL constraint failed: {t}.{c}"
  | .unique cs => "UNIQUE constraint failed: " ++ ", ".intercalate cs
  | .check c => s!"CHECK constraint failed: {c}"
  | .foreignKey => "FOREIGN KEY constraint failed"
  | .noTable n => s!"no such table: {n}"
  | .other _ m => m

end DbError

structure Db where
  tables : List (Entity × Table)
  links : List (String × LinkTable)
  raw : List RawTable := []
  deriving Inhabited

namespace Db

def empty : Db :=
  { tables := Entity.all.map fun e => (e, {})
    links := Entity.all.flatMap fun e => e.model.links.map fun l => (l.table, {}) }

def table (db : Db) (e : Entity) : Table := ((db.tables.find? (·.1 == e)).map (·.2)).getD {}

def setTable (db : Db) (e : Entity) (t : Table) : Db :=
  { db with tables := db.tables.map fun p => if p.1 == e then (e, t) else p }

def rows (db : Db) (e : Entity) : List Row := (db.table e).rows

def find? (db : Db) (e : Entity) (pk : Nat) : Option Row := (db.rows e).find? (·.pk == pk)

def exists? (db : Db) (e : Entity) (pk : Nat) : Bool := (db.find? e pk).isSome

def linkTable (db : Db) (name : String) : LinkTable :=
  ((db.links.find? (·.1 == name)).map (·.2)).getD {}

def setLinkTable (db : Db) (name : String) (t : LinkTable) : Db :=
  { db with links := db.links.map fun p => if p.1 == name then (name, t) else p }

def linked (db : Db) (l : LinkSpec) (owner : Nat) : List Nat :=
  ((db.linkTable l.table).rows.filter (·.owner == owner)).map (·.other)

def linkedFrom (db : Db) (l : LinkSpec) (other : Nat) : List Nat :=
  ((db.linkTable l.table).rows.filter (·.other == other)).map (·.owner)

def addLinks (db : Db) (l : LinkSpec) (owner : Nat) (others : List Nat) : Db :=
  let t := db.linkTable l.table
  let t := others.foldl (fun (t : LinkTable) o =>
    if t.rows.any (fun r => r.owner == owner && r.other == o) then t
    else { rows := t.rows ++ [⟨t.seq + 1, owner, o⟩], seq := t.seq + 1 }) t
  db.setLinkTable l.table t

def removeLinksWhere (db : Db) (l : LinkSpec) (p : LinkRow → Bool) : Db :=
  let t := db.linkTable l.table
  db.setLinkTable l.table { t with rows := t.rows.filter (fun r => !p r) }

def setLinks (db : Db) (l : LinkSpec) (owner : Nat) (others : List Nat) : Db :=
  let db := db.removeLinksWhere l fun r => r.owner == owner && !others.contains r.other
  db.addLinks l owner others

def fitsWord (n : Int) : Bool := -9223372036854775808 ≤ n && n ≤ 9223372036854775807

def violation (db : Db) (e : Entity) (pk : Nat) (cells : List (String × Value)) : Option DbError :=
  if cells.any (fun c => match c.2 with | .int n => !fitsWord n | _ => false) then
    some (.other "OverflowError" "Python int too large to convert to SQLite INTEGER") else
  let m := e.model
  let get (n : String) : Value := ((cells.find? (·.1 == n)).map (·.2)).getD .null
  let others := (db.rows e).filter (·.pk != pk)
  let nullErr := m.fields.find? fun f => f.kind != .serial && !f.null && (get f.name).isNull
  match nullErr with
  | some f => some (.notNull m.table f.column)
  | none =>
  let checkErr := m.fields.find? fun f =>
    f.kind == .posInt && match get f.name with
      | .int n => n < 0
      | _ => false
  match checkErr with
  | some f => some (.check f.column)
  | none =>
  let clash (names : List String) : Bool :=
    names.all (fun n => !(get n).isNull) &&
      others.any fun r => names.all fun n => r.get n == get n
  let uniqueErr := m.fields.find? fun f => f.unique && clash [f.name]
  match uniqueErr with
  | some f => some (.unique [m.table ++ "." ++ f.column])
  | none =>
  match m.together.find? clash with
  | some names => some (.unique (names.map fun n =>
      m.table ++ "." ++ ((m.field? n).map Field.column).getD n))
  | none =>
  let refErr := m.fields.any fun f =>
    match f.kind, get f.name with
    | .ref t _, .int k => !(t == e && k == pk) && !(k ≥ 0 && db.exists? t k.toNat)
    | _, _ => false
  if refErr then some .foreignKey else none

def placeRow (r : Row) : List Row → List Row
  | [] => [r]
  | x :: xs => if r.pk < x.pk then r :: x :: xs else x :: placeRow r xs

def insert (db : Db) (e : Entity) (cells : List (String × Value)) (pk : Option Nat := none) :
    Except DbError (Db × Nat) :=
  let t := db.table e
  let key := pk.getD (t.seq + 1)
  if (db.exists? e key) then .error (.unique [e.model.table ++ ".id"]) else
  match db.violation e key cells with
  | some err => .error err
  | none =>
    let rows := placeRow { pk := key, cells } t.rows
    .ok (db.setTable e { rows, seq := max t.seq key }, key)

def update (db : Db) (e : Entity) (pk : Nat) (cells : List (String × Value)) :
    Except DbError (Db × Bool) :=
  match db.find? e pk with
  | none => .ok (db, false)
  | some r =>
    let r' := cells.foldl (fun r (n, v) => r.set n v) r
    match db.violation e pk r'.cells with
    | some err => .error err
    | none =>
      let t := db.table e
      .ok (db.setTable e { t with rows := t.rows.map fun x => if x.pk == pk then r' else x }, true)

def removeRow (db : Db) (e : Entity) (pk : Nat) : Db :=
  let t := db.table e
  db.setTable e { t with rows := t.rows.filter (·.pk != pk) }

def clear (db : Db) : Db :=
  { tables := db.tables.map fun (e, _) => (e, {})
    links := db.links.map fun (n, _) => (n, {})
    raw := [] }

end Db
end Portal
