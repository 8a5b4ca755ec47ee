import Portal.Migrations.State
import Portal.Digest.Md5
/-! The schema statements a migration writes for the SQLite database. Creating a model
writes its table at once, a column per field in the declared order: the type, whether it
may be empty, key or uniqueness, a check, the counting suffix, and the reference to another
table. Indexes wait until the migration's tables all exist: first the unique pairs, then an
index per indexed field that is not unique, then the declared indexes; a table of pairs
follows its model with its own. An index the framework names is the table, the columns,
and eight hexadecimal digits of the MD5 of their names.

SQLite changes little of a table in place, so a field given a new definition, or a removed
one that a key, uniqueness, an index or a reference ties to its table, remakes the table: a
table named `new__` and the old name is created with the new fields, the rows are copied
into it, the old table is dropped and the new one renamed, and every waiting index is
written then, under the final table name. A removed plain field is dropped with its column;
a field added back that may be empty and has no initial value is added as a column. A
changed definition goes first in the new table, or last once an earlier operation of the
migration has built the models afresh, which gives the new field a later place.

The listing of a migration names each operation between comment lines; an operation that
writes nothing is marked a no-op, and one that runs code is marked as not writable. A
model belongs to the database its application is routed to; elsewhere its operations write
nothing. Unapplying runs the operations in reverse, each from the models after it back to
those before it. -/
namespace Portal
namespace Migrations

def quoteName (s : String) : String := "\"" ++ s ++ "\""

def Kind.columnType : Kind → Option String
  | .serial _ => some "integer"
  | .chars n => some ("varchar(" ++ toString n ++ ")")
  | .text => some "text"
  | .flag => some "bool"
  | .moment => some "datetime"
  | .integer => some "integer"
  | .positive => some "integer unsigned"
  | .positiveSmall => some "smallint unsigned"
  | .decimal => some "decimal"
  | .document => some "text"
  | .address => some "char(39)"
  | .ref t => some t.keyType
  | .many _ => none

def Kind.check (k : Kind) (column : String) : Option String :=
  let c := quoteName column
  match k with
  | .positive | .positiveSmall => some (c ++ " >= 0")
  | .document => some ("(JSON_VALID(" ++ c ++ ") OR " ++ c ++ " IS NULL)")
  | _ => none

def columnDefinition (f : Field) : Option String := do
  let type ← f.kind.columnType
  let parts := [type, if f.null then "NULL" else "NOT NULL"] ++
    (if f.primary then ["PRIMARY KEY"] else if f.unique then ["UNIQUE"] else []) ++
    ((f.kind.check f.column).map fun c => ["CHECK (" ++ c ++ ")"]).getD [] ++
    (match f.kind with
      | .serial _ => ["AUTOINCREMENT"]
      | .ref t => ["REFERENCES " ++ quoteName t.table ++ " (" ++ quoteName "id" ++ ") DEFERRABLE INITIALLY DEFERRED"]
      | _ => [])
  return quoteName f.column ++ " " ++ " ".intercalate parts

def indexName (table : String) (columns : List String) (suffix : String) : String :=
  let digest := String.ofList ((Digest.hex (Digest.md5 (Digest.utf8 (table ++ String.join columns)))).toList.take 8)
  let hashPart := digest ++ suffix
  let whole := table ++ "_" ++ "_".intercalate columns ++ "_" ++ hashPart
  if whole.length ≤ 200 then whole else
  let hashPart := if hashPart.length > 66 then String.ofList (hashPart.toList.take 66) else hashPart
  let other := (200 - hashPart.length) / 2 - 1
  let name := String.ofList (table.toList.take other) ++ "_" ++
    String.ofList (("_".intercalate columns).toList.take other) ++ "_" ++ hashPart
  match name.toList with
  | c :: _ => if c == '_' || c.isDigit then "D" ++ String.ofList name.toList.dropLast else name
  | [] => name

def columnList (columns : List String) : String := ", ".intercalate (columns.map quoteName)

def createTable (m : Model) : String :=
  "CREATE TABLE " ++ quoteName m.table ++ " (" ++ ", ".intercalate (m.fields.filterMap columnDefinition) ++ ");"

def columnsOf (m : Model) (names : List String) : List String :=
  names.map fun n => ((m.field? n).map Field.column).getD n

structure Pending where
  table : String
  columns : List String
  unique : Bool := false
  declared : Option (String × List String) := none
  deriving Inhabited

namespace Pending

def render (p : Pending) : String :=
  match p.declared with
  | some (name, parts) =>
    "CREATE INDEX " ++ quoteName name ++ " ON " ++ quoteName p.table ++ " (" ++ ", ".intercalate parts ++ ");"
  | none =>
    let (create, suffix) := if p.unique then ("CREATE UNIQUE INDEX ", "_uniq") else ("CREATE INDEX ", "")
    create ++ quoteName (indexName p.table p.columns suffix) ++ " ON " ++ quoteName p.table ++
      " (" ++ columnList p.columns ++ ");"

def covers (p : Pending) (table column : String) : Bool := p.table == table && p.columns.contains column

end Pending

def uniquePair (m : Model) (names : List String) : Pending :=
  { table := m.table, columns := columnsOf m names, unique := true }

def fieldIndexes (m : Model) : List Pending :=
  (m.fields.filter fun f => f.indexed && !f.unique && !f.primary && !f.isMany).map fun f =>
    { table := m.table, columns := [f.column] }

def declaredIndex (m : Model) (i : Index) : Pending :=
  let column (name : String) : String := ((m.field? name).map Field.column).getD name
  let part (name : String) : String × String :=
    if name.startsWith "-" then
      let c := column (String.ofList (name.toList.drop 1))
      (c, quoteName c ++ " DESC")
    else (column name, quoteName (column name))
  let parts := i.fields.map part
  { table := m.table, columns := parts.map (·.1), declared := some (i.name, parts.map (·.2)) }

def pairTable (m : Model) (f : Field) (t : Target) : Model :=
  let own := m.lowerName
  let (fromName, toName) := if own == t.model then ("from_" ++ own, "to_" ++ t.model) else (own, t.model)
  { name := m.name ++ "_" ++ f.name, table := m.table ++ "_" ++ f.name,
    fields := [Field.smallKey, Field.ref fromName m.target, Field.ref toName t],
    uniqueTogether := [[fromName, toName]] }

def pairTables (m : Model) : List Model :=
  m.fields.filterMap fun f => match f.kind with
    | .many t => some (pairTable m f t)
    | _ => none

def creation (m : Model) : List String × List Pending :=
  let pairs := pairTables m
  ([createTable m] ++ pairs.map createTable,
    m.uniqueTogether.map (uniquePair m) ++ fieldIndexes m ++ m.indexes.map (declaredIndex m) ++
      pairs.flatMap fun p => p.uniqueTogether.map (uniquePair p) ++ fieldIndexes p)

def removal (m : Model) : List String :=
  (pairTables m).map (fun p => "DROP TABLE " ++ quoteName p.table ++ ";") ++
    ["DROP TABLE " ++ quoteName m.table ++ ";"]

def routedTo (database app : String) : Bool :=
  if app == "auditlog" then database == "logs" else database == "default"

def uniqueChanges (m : Model) (olds news : List (List String)) : List String :=
  (olds.filter (!news.contains ·)).map (fun names =>
    "DROP INDEX " ++ quoteName (indexName m.table (columnsOf m names) "_uniq") ++ ";") ++
  (news.filter (!olds.contains ·)).map fun names => (uniquePair m names).render

def initialValue (time : String) (f : Field) : String :=
  match f.initial with
  | some (.stamped _) | some .now => "'" ++ time ++ "'"
  | some .emptyObject => "'\x7b\x7d'"
  | some (.constant sql) => sql
  | none => "NULL"

def concreteFields (m : Model) : List Field := m.fields.filter (!·.isMany)

def refersToItself (m : Model) (f : Field) : Bool :=
  match f.kind with
  | .ref t => t.table == m.table
  | _ => false

structure Remake where
  fields : List Field
  copy : List (String × String)
  indexes : List Index

def keepAll (fields : List Field) : List (String × String) :=
  fields.map fun f => (f.column, quoteName f.column)

def alteredTable (m : Model) (old new : Field) (last : Bool) (time : String) : Remake :=
  let rest := (concreteFields m).filter (·.name != old.name)
  let (selves, others) := rest.partition (refersToItself m)
  let value := if old.null && !new.null then
      "coalesce(" ++ quoteName old.column ++ ", " ++ initialValue time new ++ ")"
    else quoteName old.column
  { fields := (if last then others ++ [new] else new :: others) ++ selves,
    copy := keepAll rest ++ [(new.column, value)], indexes := m.indexes }

def withoutField (m : Model) (f : Field) : Remake :=
  let rest := (concreteFields m).filter (·.name != f.name)
  let (selves, others) := rest.partition (refersToItself m)
  { fields := others ++ selves, copy := keepAll rest, indexes := m.indexes.filter (!·.fields.contains f.name) }

def withField (m : Model) (f : Field) (time : String) : Remake :=
  let rest := concreteFields m
  let (selves, others) := rest.partition (refersToItself m)
  { fields := f :: others ++ selves, copy := keepAll rest ++ [(f.column, initialValue time f)],
    indexes := m.indexes }

def remake (m : Model) (r : Remake) (pending : List Pending) : List String :=
  let temp := "new__" ++ m.table
  let (tables, own) := creation { m with table := temp, fields := r.fields, indexes := r.indexes }
  let copy := "INSERT INTO " ++ quoteName temp ++ " (" ++ columnList (r.copy.map (·.1)) ++ ") SELECT " ++
    ", ".intercalate (r.copy.map (·.2)) ++ " FROM " ++ quoteName m.table ++ ";"
  let waiting := (pending.filter (·.table != m.table) ++ own).map fun p =>
    if p.table == temp then { p with table := m.table } else p
  tables ++ [copy, "DROP TABLE " ++ quoteName m.table ++ ";",
    "ALTER TABLE " ++ quoteName temp ++ " RENAME TO " ++ quoteName m.table ++ ";"] ++
    waiting.map Pending.render

def removing (m : Model) (f : Field) (pending : List Pending) : List String × List Pending :=
  match f.kind with
  | .many t =>
    let p := pairTable m f t
    (["DROP TABLE " ++ quoteName p.table ++ ";"], pending.filter (·.table != p.table))
  | .ref _ => (remake m (withoutField m f) pending, [])
  | _ =>
    if f.primary || f.unique || f.indexed then (remake m (withoutField m f) pending, [])
    else (["ALTER TABLE " ++ quoteName m.table ++ " DROP COLUMN " ++ quoteName f.column ++ ";"],
      pending.filter fun p => !p.covers m.table f.column)

def adding (m : Model) (f : Field) (pending : List Pending) (time : String) : List String × List Pending :=
  match f.kind with
  | .many t =>
    let (tables, own) := creation (pairTable m f t)
    (tables, pending ++ own)
  | _ =>
    if f.primary || f.unique || !f.null || f.initial.isSome then (remake m (withField m f time) pending, [])
    else match columnDefinition f with
      | some d => (["ALTER TABLE " ++ quoteName m.table ++ " ADD COLUMN " ++ d ++ ";"],
          pending ++ fieldIndexes { m with fields := [f] })
      | none => ([], pending)

def fieldOf (s : Schema) (app model field : String) : Option (Model × Field) := do
  let m ← s.model? app model
  let f ← m.field? field
  return (m, f)

structure Writing where
  schema : Schema
  built : Bool := false
  lines : List String := []
  pending : List Pending := []

def Operation.buildsModels : Operation → Bool
  | .createModel _ | .alterUniqueTogether _ _ | .alterField _ _ => true
  | _ => false

def forwardStatements (database app time : String) (w : Writing) : Operation → List String × List Pending
  | .createModel m =>
    if routedTo database app then
      let (tables, own) := creation m
      (tables, w.pending ++ own)
    else ([], w.pending)
  | .alterUniqueTogether name sets =>
    match w.schema.model? app name with
    | some m => (if routedTo database app then uniqueChanges m m.uniqueTogether sets else [], w.pending)
    | none => ([], w.pending)
  | .alterField name new =>
    match fieldOf w.schema app name new.name with
    | some (m, old) =>
      if routedTo database app && old != new then (remake m (alteredTable m old new w.built time) w.pending, [])
      else ([], w.pending)
    | none => ([], w.pending)
  | .removeField name field =>
    match fieldOf w.schema app name field with
    | some (m, f) => if routedTo database app then removing m f w.pending else ([], w.pending)
    | none => ([], w.pending)
  | .alterOptions _ | .runCode _ => ([], w.pending)

def backwardStatements (database app time : String) (before after : Schema) (pending : List Pending) :
    Operation → List String × List Pending
  | .createModel m =>
    if routedTo database app then
      let gone := m.table :: (pairTables m).map (·.table)
      (removal m, pending.filter fun p => !gone.contains p.table)
    else ([], pending)
  | .alterUniqueTogether name _ =>
    match after.model? app name, before.model? app name with
    | some now, some was =>
      (if routedTo database app then uniqueChanges was now.uniqueTogether was.uniqueTogether else [], pending)
    | _, _ => ([], pending)
  | .alterField name new =>
    match fieldOf after app name new.name, fieldOf before app name new.name with
    | some (m, current), some (_, old) =>
      if routedTo database app && current != old then (remake m (alteredTable m current old false time) pending, [])
      else ([], pending)
    | _, _ => ([], pending)
  | .removeField name field =>
    match after.model? app name, fieldOf before app name field with
    | some m, some (_, f) => if routedTo database app then adding m f pending time else ([], pending)
    | _, _ => ([], pending)
  | .alterOptions _ | .runCode _ => ([], pending)

def heading (op : Operation) : List String := ["--", "-- " ++ op.describe, "--"]

def entry (op : Operation) (statements : List String) : List String :=
  heading op ++
    (if !op.reducesToStatements then ["-- THIS OPERATION CANNOT BE WRITTEN AS SQL"]
    else if statements.isEmpty then ["-- (no-op)"] else statements)

def forwardListing (database time : String) (before : Schema) (mig : Migration) : List String :=
  let w := mig.operations.foldl (fun (w : Writing) op =>
    if !op.reducesToStatements then { w with lines := w.lines ++ entry op [] }
    else
      let (statements, pending) := forwardStatements database mig.app time w op
      { schema := w.schema.apply mig.app op, built := w.built || op.buildsModels,
        lines := w.lines ++ entry op statements, pending }) { schema := before }
  w.lines ++ w.pending.map Pending.render

def backwardListing (database time : String) (before : Schema) (mig : Migration) : List String :=
  let stages := before.stages mig.app mig.operations
  let steps := (mig.operations.zip (stages.zip stages.tail)).reverse
  let (lines, pending) := steps.foldl (fun (acc : List String × List Pending) step =>
    let (op, was, now) := step
    if !op.reducesToStatements then (acc.1 ++ entry op [], acc.2)
    else
      let (statements, pending) := backwardStatements database mig.app time was now acc.2 op
      (acc.1 ++ entry op statements, pending)) ([], [])
  lines ++ pending.map Pending.render

def listing (database time : String) (before : Schema) (mig : Migration) (backwards : Bool) : List String :=
  if backwards then backwardListing database time before mig else forwardListing database time before mig

end Migrations
end Portal
