import Portal.Sql.Eval
/-! Running one statement on the database. A statement is read, its names are looked up,
the text after it must be empty, and the parameters it takes must all be given, in that
order; only then does it run. A statement that changes rows either makes all its changes
or none: a broken constraint stops it and leaves the database as it was. Missing values,
checks and unique columns are checked row by row; references are checked when the
statement ends, against the rows it wrote and the rows it removed. Each statement commits
at once, so a change stays even when what comes after the statement fails. -/
namespace Portal
namespace Sql

structure Outcome where
  result : Option Rel
  changed : Int
  deriving Inhabited

def emptyRows (db : Db) : Db :=
  { tables := db.tables.map fun (p : Entity × Table) => (p.1, ({} : Table)),
    links := db.links.map fun (p : String × LinkTable) => (p.1, ({} : LinkTable)),
    raw := db.raw.map fun (r : RawTable) => ({ name := r.name, schema := r.schema } : RawTable) }

structure Target where
  info : TableInfo
  cols : List ColumnDef
  binding : Binding
  rows : List (Int × List Datum)
  counter : Int

def isSchemaTable (name : String) : Bool :=
  sameName name "sqlite_master" || sameName name "sqlite_schema"

def target (db : Db) (name : String) : Run Target := do
  let parts := dotParts name
  let (schema, table) := match parts with
    | [s, t] => (some s, t)
    | _ => (none, name)
  match schema with
  | some s => if !(sameName s "main") then operational ("no such table: " ++ name)
  | none => pure ()
  if isSchemaTable table then operational ("table " ++ table ++ " may not be modified")
  match findTable? db table with
  | some t => return { info := t, cols := t.columns, binding := tableBinding t none, rows := rowsOf db t,
                       counter := counterOf db t.name }
  | none => operational ("no such table: " ++ name)

def slotOf (tg : Target) (rowid : Option Int) (vals : List Datum) : Slot :=
  { binding := tg.binding, rowid, values := vals }

def checkName (text : String) : String :=
  match text.toList with
  | q :: rest =>
    if q == '"' || q == '`' || q == '\'' then String.ofList (rest.takeWhile (· != q))
    else if q == '[' then String.ofList (rest.takeWhile (· != ']'))
    else text
  | [] => text

def Target.checks (tg : Target) : List (Expr × String) :=
  tg.cols.flatMap (fun c => c.checks.map fun (e, t) => (e, checkName t)) ++
    tg.info.constraints.filterMap fun k => match k with
      | .check e t => some (e, checkName t)
      | _ => none

def Target.uniqueSets (tg : Target) : List (List String) :=
  let rowidName := tg.info.rowidColumn?.bind fun i => (tg.cols[i]?).map (·.name)
  let single := tg.cols.filterMap fun c =>
    if c.unique || (c.primary && some c.name != rowidName) then some [c.name] else none
  let declared := tg.info.constraints.filterMap fun k => match k with
    | .unique cs => some cs
    | .primary cs _ => if cs.length == 1 && (cs.head?.map (some · == rowidName)).getD false then none else some cs
    | _ => none
  single ++ declared ++ tg.info.uniqueGroups

def Target.colIndex (tg : Target) (n : String) : Option Nat := tg.cols.findIdx? (sameName ·.name n)

def checkRow (env : Env) (tg : Target) (rowid : Option Int) (vals : List Datum) : Run Unit := do
  for (c, v) in tg.cols.zip vals do
    if c.notNull && v.isNull then integrity ("NOT NULL constraint failed: " ++ tg.info.name ++ "." ++ c.name)
  let scope : Scope := [slotOf tg rowid vals]
  for (e, nm) in tg.checks do
    let r ← eval 200 env scope e
    if r.truth? == some false then integrity ("CHECK constraint failed: " ++ nm)

def clash (tg : Target) (rows : List (Int × List Datum)) (rowid : Int) (vals : List Datum) : Option (List String) :=
  tg.uniqueSets.find? fun names =>
    let idxs := names.filterMap tg.colIndex
    let mine := idxs.map fun i => vals.getD i .null
    !mine.any (·.isNull) && rows.any fun (k, other) =>
      k != rowid && (idxs.zip mine).all fun (i, v) =>
        let side : Side := { affinity := .none, declared := ((tg.cols[i]?).bind (·.collation)).bind Collation.ofName? }
        sameSides side side v (other.getD i .null)

def uniqueMessage (tg : Target) (names : List String) : String :=
  "UNIQUE constraint failed: " ++ ", ".intercalate (names.map fun n => tg.info.name ++ "." ++ n)

def rowidLabel (tg : Target) : String :=
  tg.info.name ++ "." ++ ((tg.info.rowidColumn?.bind fun i => (tg.cols[i]?).map (·.name)).getD "rowid")

def referencesHold (db : Db) (written : TableInfo) (newRows : List (Int × List Datum)) (removed : List Int) : Bool :=
  let tables := catalog db
  let refsOf (t : TableInfo) : List (Nat × String) :=
    let cols := t.columns
    (cols.zip (List.range cols.length)).filterMap (fun (c, i) => c.references.map (i, ·)) ++
      t.constraints.filterMap fun k => match k with
        | .foreign [c] r => (cols.findIdx? (sameName ·.name c)).map (·, r)
        | _ => none
  let present (table : String) (v : Datum) : Bool :=
    match findTable? db table with
    | some t => match v with
      | .int n => (rowsOf db t).any (·.1 == n)
      | _ => false
    | none => false
  -- the written rows point at rows that exist
  let outgoing := (refsOf written).all fun (i, r) =>
    newRows.all fun (_, vals) => let v := vals.getD i .null; v.isNull || present r v
  -- no row points at a removed row
  let incoming := removed.isEmpty || tables.all fun t =>
    (refsOf t).all fun (i, r) =>
      !sameName r written.name || (rowsOf db t).all fun (_, vals) =>
        match vals.getD i .null with
        | .int n => !removed.contains n
        | _ => true
  outgoing && incoming

def stored (cols : List ColumnDef) (vals : List Datum) : List Datum :=
  (cols.zip vals).map fun (c, v) => v.withAffinity (Affinity.ofType c.type)

def commit (db : Db) (tg : Target) (rows : List (Int × List Datum)) (counter : Int)
    (written : List (Int × List Datum)) (removed : List Int) : Run Db := do
  let db' := writeRows db tg.info rows counter
  if referencesHold db' tg.info written removed then pure db' else integrity "FOREIGN KEY constraint failed"

def insertRows (env : Env) (db : Db) (conflict : Conflict) (table : String) (columns : Option (List String))
    (source : InsertRows) : Run (Db × Int) := do
  let tg ← target db table
  let rowidIdx := tg.info.rowidColumn?
  let idxs ← match columns with
    | some names => names.mapM fun n => match tg.colIndex n with
      | some i => pure i
      | none =>
        if isRowidName n then pure (rowidIdx.getD tg.cols.length)
        else operational ("table " ++ tg.info.name ++ " has no column named " ++ n)
    | none => pure (List.range tg.cols.length)
  let width := idxs.length
  let widthError (got : Nat) : String :=
    match columns with
    | some _ => toString got ++ " values for " ++ toString width ++ " columns"
    | none => "table " ++ tg.info.name ++ " has " ++ toString width ++ " columns but " ++ toString got ++
        " values were supplied"
  let given ← match source with
    | .values rows => do
      let nullScope : Scope := []
      for r in rows do
        for e in r do checkExpr 200 env nullScope false e
      for r in rows do
        if r.length != width then operational (widthError r.length)
      rows.mapM fun r => r.mapM (eval 200 env [])
    | .query q => do
      let rel ← runQuery 200 env q
      if rel.cols.length != width then operational (widthError rel.cols.length)
      pure rel.rows
    | .defaults => pure [[]]
  let mut rows := tg.rows
  let mut counter := tg.counter
  let mut added : List (Int × List Datum) := []
  let mut removed : List Int := []
  for g in given do
    -- every column: the given value, else the default, else null
    let mut full : List Datum := []
    for (c, i) in tg.cols.zip (List.range tg.cols.length) do
      match idxs.idxOf? i with
      | some k => if k < g.length then full := full ++ [g.getD k .null] else full := full ++ [.null]
      | none => match c.dflt with
        | some e => full := full ++ [← eval 200 env [] e]
        | none => full := full ++ [.null]
    let vals := stored tg.cols full
    let explicitRowid : Option Datum := match rowidIdx with
      | some k => some (vals.getD k .null)
      | none => match idxs.idxOf? tg.cols.length with
        | some k => some (g.getD k .null)
        | none => none
    let next : Int := (rows.foldl (fun m (k, _) => max m k) 0) + 1
    let next := if tg.info.counts then max next (counter + 1) else next
    let rowid ← match explicitRowid with
      | none | some .null => pure next
      | some d => match d.numericForCompare.integral with
        | .int n => pure n
        | _ => integrity "datatype mismatch"
    let vals := match rowidIdx with
      | some k => vals.set k (.int rowid)
      | none => vals
    -- an existing row with the same row id
    let mut skip := false
    if rows.any (·.1 == rowid) then
      match conflict with
      | .ignore => skip := true
      | .replace => removed := removed ++ [rowid]; rows := rows.filter (·.1 != rowid)
      | _ => integrity ("UNIQUE constraint failed: " ++ rowidLabel tg)
    if !skip then
      match checkRow env tg (some rowid) vals with
      | .error err => if conflict == .ignore && err.kind == .integrity then skip := true else throw err
      | .ok () => pure ()
    if !skip then
      match clash tg rows rowid vals with
      | some names =>
        match conflict with
        | .ignore => skip := true
        | .replace =>
          let idxs := names.filterMap tg.colIndex
          let gone := rows.filter fun (_, other) => (idxs.all fun i => sameSides {} {} (vals.getD i .null) (other.getD i .null))
          removed := removed ++ gone.map (·.1)
          rows := rows.filter fun (k, _) => !gone.any (·.1 == k)
        | _ => integrity (uniqueMessage tg names)
      | none => pure ()
    if !skip then
      rows := rows ++ [(rowid, vals)]
      added := added ++ [(rowid, vals)]
      if tg.info.counts then counter := max counter rowid
  let db' ← commit db tg (rows.mergeSort fun a b => a.1 ≤ b.1) counter added removed
  return (db', added.length)

def updateRows (env : Env) (db : Db) (conflict : Conflict) (table : String) (sets : List (List String × Expr))
    (filter : Option Expr) : Run (Db × Int) := do
  let tg ← target db table
  let rowidIdx := tg.info.rowidColumn?
  let nullScope : Scope := [tg.binding.nullSlot]
  let mut assigns : List (Option Nat × Expr) := []
  for (names, e) in sets do
    for n in names do
      match tg.colIndex n with
      | some i => assigns := assigns ++ [(some i, e)]
      | none =>
        if isRowidName n then assigns := assigns ++ [(rowidIdx, e)]
        else operational ("no such column: " ++ n)
  for (_, e) in assigns do checkExpr 200 env nullScope false e
  match filter with
  | some f => checkExpr 200 env nullScope false f
  | none => pure ()
  let mut rows : List (Int × List Datum) := []
  let mut written : List (Int × List Datum) := []
  let mut removed : List Int := []
  let mut count : Int := 0
  for (k, vals) in tg.rows do
    let scope : Scope := [slotOf tg (some k) vals]
    let hit ← match filter with
      | some f => do pure ((← eval 200 env scope f).truth? == some true)
      | none => pure true
    if !hit then rows := rows ++ [(k, vals)]; continue
    count := count + 1
    let mut newVals := vals
    let mut newKey := k
    for (i?, e) in assigns do
      let v ← eval 200 env scope e
      match i? with
      | some i =>
        newVals := newVals.set i ((v.withAffinity (Affinity.ofType ((tg.cols[i]?).map (·.type) |>.getD ""))))
        if rowidIdx == some i then
          match newVals.getD i .null with
          | .int n => newKey := n
          | .null => pure ()
          | _ => integrity "datatype mismatch"
      | none =>
        match v.numericForCompare.integral with
        | .int n => newKey := n
        | _ => integrity "datatype mismatch"
    match rowidIdx with
    | some i => newVals := newVals.set i (.int newKey)
    | none => pure ()
    if newKey != k then removed := removed ++ [k]
    rows := rows ++ [(newKey, newVals)]
    written := written ++ [(newKey, newVals)]
  -- constraints on the rows as they now are
  for (k, vals) in written do
    match checkRow env tg (some k) vals with
    | .error err => if conflict == .ignore then pure () else throw err
    | .ok () => pure ()
    if (rows.filter (·.1 == k)).length > 1 then integrity ("UNIQUE constraint failed: " ++ rowidLabel tg)
    match clash tg rows k vals with
    | some names => integrity (uniqueMessage tg names)
    | none => pure ()
  let counter := if tg.info.counts then max tg.counter (written.foldl (fun m (k, _) => max m k) 0) else tg.counter
  let db' ← commit db tg (rows.mergeSort fun a b => a.1 ≤ b.1) counter written removed
  return (db', count)

def deleteRows (env : Env) (db : Db) (table : String) (filter : Option Expr) : Run (Db × Int) := do
  let tg ← target db table
  let nullScope : Scope := [tg.binding.nullSlot]
  match filter with
  | some f => checkExpr 200 env nullScope false f
  | none => pure ()
  let mut kept : List (Int × List Datum) := []
  let mut removed : List Int := []
  for (k, vals) in tg.rows do
    let hit ← match filter with
      | some f => do pure ((← eval 200 env [slotOf tg (some k) vals] f).truth? == some true)
      | none => pure true
    if hit then removed := removed ++ [k] else kept := kept ++ [(k, vals)]
  let db' ← commit db tg kept tg.counter [] removed
  return (db', removed.length)

def makeTable (db : Db) (name written : String) (ifNotExists : Bool) (cols : List ColumnDef)
    (cons : List TableConstraint) (schemaText : String) : Run Db := do
  let parts := dotParts name
  let table := parts.getLast?.getD name
  if parts.length > 1 && !(sameName (parts.headD "") "main") && !(sameName (parts.headD "") "temp") then
    operational ("unknown database " ++ parts.headD "")
  if (table.toLower.startsWith "sqlite_") then
    operational ("object name reserved for internal use: " ++ table)
  if (findTable? db table).isSome || isSchemaTable table then
    if ifNotExists then return db
    operational ("table " ++ written ++ " already exists")
  let names := cols.map (·.name.toLower)
  for (n, i) in names.zip (List.range names.length) do
    if names.take i |>.contains n then operational ("duplicate column name: " ++ ((cols[i]?).map (·.name)).getD n)
  let primaries := (cols.filter (·.primary)).length + (cons.filter fun k => match k with
    | .primary _ _ => true
    | _ => false).length
  if primaries > 1 then operational ("table \"" ++ table ++ "\" has more than one primary key")
  if cols.any (fun c => c.autoincrement && !(c.primary && c.type.toUpper == "INTEGER")) then
    operational "AUTOINCREMENT is only allowed on an INTEGER PRIMARY KEY"
  return { db with raw := db.raw ++ [{ name := table, schema := schemaText }] }

def removeTable (db : Db) (name : String) (ifExists : Bool) : Run Db := do
  if isSchemaTable name || sameName name "sqlite_sequence" then
    operational ("table " ++ name ++ " may not be dropped")
  match findTable? db name with
  | some t => match t.home with
    | .created => return { db with raw := db.raw.filter fun r => !sameName r.name t.name }
    | _ => return db
  | none => if ifExists then return db else operational ("no such table: " ++ name)

def checkNames (db : Db) (dry : Env) : Stmt → Run Unit
  | .query q => discard (runQuery 400 dry q)
  | .insert _ t _ _ | .update _ t _ _ | .delete t _ => discard (target db t)
  | .createTable n w ifNot _ _ _ =>
    if !ifNot && ((findTable? db ((dotParts n).getLast?.getD n)).isSome) then
      operational ("table " ++ w ++ " already exists")
    else pure ()
  | .dropTable n ifExists =>
    if !ifExists && (findTable? db n).isNone && !isSchemaTable n then operational ("no such table: " ++ n)
    else pure ()
  | .other => pure ()

def applyStmt (env : Env) (db : Db) : Stmt → Run (Db × Outcome)
  | .query q => do
    let rel ← runQuery 400 env q
    return (db, ⟨some rel, -1⟩)
  | .insert c t cols rows => do
    let (db', n) ← insertRows env db c t cols rows
    return (db', ⟨none, n⟩)
  | .update c t sets f => do
    let (db', n) ← updateRows env db c t sets f
    return (db', ⟨none, n⟩)
  | .delete t f => do
    let (db', n) ← deleteRows env db t f
    return (db', ⟨none, n⟩)
  | .createTable n w ifNot cols cons text => return (← makeTable db n w ifNot cols cons text, ⟨none, -1⟩)
  | .dropTable n ifExists => return (← removeTable db n ifExists, ⟨none, -1⟩)
  | .other => return (db, ⟨none, -1⟩)

def execute (db : Db) (clock : Moment) (text : String) (params : List (Run Datum)) : Run (Db × Outcome) := do
  let parsed ← match parse text with
    | .ok p => pure p
    | .error msg => operational msg
  checkNames db { db := emptyRows db, params := [], clock } parsed.stmt
  if parsed.tail then .error ⟨.programming, "You can only execute one statement at a time."⟩
  if params.length != parsed.params then
    .error ⟨.programming, "Incorrect number of bindings supplied. The current statement uses " ++
      toString parsed.params ++ ", and there are " ++ toString params.length ++ " supplied."⟩
  let values ← params.mapM id
  applyStmt { db, params := values, clock } db parsed.stmt

end Sql
end Portal
